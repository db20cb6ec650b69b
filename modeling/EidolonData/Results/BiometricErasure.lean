import EidolonData.Invariants.People

/-!
# The erasure of biometric data

Archiving a Person takes the voice and the photo with it, and an enrollment
keeps samples only while something can still be made of them.
-/

namespace EidolonData

open Relational

section Erasure

variable {t : Tables} {personId : String}

/-- The Person is archived, or its permanent deletion is completed. -/
def Tables.PutAway (t : Tables) (personId : String) : Prop :=
  (∃ person, t.people.persons.get? personId = some person ∧ person.deleted = true) ∨
  ∃ receipt, t.people.personDeletions.get? personId = some receipt ∧ receipt.state = "completed"

/-- Nothing biometric is stored of the Person; a recording belongs to the
Person its profile is of. -/
structure Tables.BiometricFree (t : Tables) (personId : String) : Prop where
  profiles : ∀ row ∈ t.people.speakerProfiles.rows, row.personId ≠ personId
  recordings : ∀ row ∈ t.people.speakerRecordings.rows, ∃ profile,
    t.people.speakerProfiles.get? row.profileId = some profile ∧ profile.personId ≠ personId
  enrollments : ∀ row ∈ t.people.voiceEnrollments.rows, row.personId ≠ personId
  photos : ∀ row ∈ t.people.personFaces.rows, row.personId ≠ personId

theorem People.Bare.biometricFree (bare : t.people.Bare personId) (integrity : t.Integrity) :
    t.BiometricFree personId where
  profiles := fun row member => bare.profiles _ row ((Table.mem_rows_iff _ _).mp member)
  recordings := by
    intro row member
    obtain ⟨profile, found⟩ := Table.has_iff.mp (integrity.people.recordingProfile row member)
    exact ⟨profile, found, bare.profiles _ profile found⟩
  enrollments := fun row member => bare.enrollments _ row ((Table.mem_rows_iff _ _).mp member)
  photos := fun row member => bare.faces _ row ((Table.mem_rows_iff _ _).mp member)

theorem Tables.ErasedPerson.biometricFree (erased : t.ErasedPerson personId) :
    t.BiometricFree personId :=
  ⟨erased.profiles, erased.recordings, erased.enrollments, erased.photos⟩

theorem Tables.PeopleSound.biometricFree {sdk : Sdk} (sound : t.PeopleSound sdk)
    (integrity : t.Integrity) (away : t.PutAway personId) : t.BiometricFree personId := by
  rcases away with ⟨person, stored, archived⟩ | ⟨receipt, stored, completed⟩
  · exact (sound.erased personId person stored archived).biometricFree integrity
  · exact (Tables.ErasedPerson.of_absent integrity sound.filed
      (sound.filed.absent_of_completed stored completed)).biometricFree

/-- In every state a run reaches, nothing biometric is stored of a Person that
is put away, and samples are kept only of an enrollment that collects or that
a profile rests on. -/
theorem biometric_erasure (sdk : Sdk) (calls : List Call) :
    (∀ personId, (replay sdk calls .empty).tables.PutAway personId →
      (replay sdk calls .empty).tables.BiometricFree personId) ∧
    ∀ row ∈ (replay sdk calls .empty).tables.people.voiceEnrollments.rows,
      row.samplesJson ≠ [] → row.state = "collecting" ∨ row.state = "ready" ∧
        ∃ profile ∈ (replay sdk calls .empty).tables.people.speakerProfiles.rows,
          profile.profileId = row.profileId ∧ profile.enrollmentId = some row.enrollmentId ∧
          profile.ownerId = row.ownerId ∧ profile.personId = row.personId := by
  have sound := peopleSound_replay sdk calls
  refine ⟨fun personId away => sound.biometricFree (replay sdk calls .empty).property away, ?_⟩
  intro row member samples
  have keeps := sound.enrolled.keeps _ row ((Table.mem_rows_iff _ _).mp member)
  rcases keeps samples with collecting | ⟨ready, profile, stored, rests⟩
  · exact Or.inl collecting
  · exact Or.inr ⟨ready, profile, Table.mem_of_get? stored, Table.key_of_get? stored, rests⟩

/-- A Person with a photo, archived. -/
def archivedCommands : List Command :=
  [.createOwner "owner" "" "person" none none,
    .createPerson 0 "owner" { personId := "person", displayName := "" },
    .replaceFace "owner" "person" 0 "", .archivePerson "owner" "person" 1]

theorem biometric_erasure_archived :
    ((replay .plain (numbered archivedCommands) .empty).tables).BiometricFree "person" := by
  have stored : ((replay .plain (numbered archivedCommands) .empty).tables.people.persons.get?
      "person").map (fun person => person.deleted) = some true := by
    decide +kernel
  obtain ⟨person, found, archived⟩ := Option.map_eq_some_iff.mp stored
  exact (biometric_erasure .plain (numbered archivedCommands)).1 "person"
    (Or.inl ⟨person, found, archived⟩)

end Erasure

end EidolonData
