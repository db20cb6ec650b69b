import EidolonData.Invariants.Enrollments
import EidolonData.Invariants.Observations
import EidolonData.People.Safety
import Mathlib.Data.List.Infix

/-!
# The people along a run

In every state a run reaches the file of each Person is sound, nothing
biometric is stored of an archived Person, and the observations, enrollments
and profiles are in order.
-/

namespace EidolonData

open Relational

section Sourced

variable {sdk : Sdk} {env : Env} {t t' : Tables} {command : Command}

theorem VoiceMade.sourced {ownerId : String} {p p' : People} {command : VoiceprintCommand}
    (made : VoiceMade sdk env ownerId p command p')
    (observations : p'.candidateVoiceObservations = p.candidateVoiceObservations)
    (sourced : p.Sourced) : p'.Sourced := by
  intro profile member observation observed names
  rw [observations] at observed
  have before : profile ∈ p.speakerProfiles.rows → observation.ownerId = profile.ownerId ∧
      observation.personId = profile.personId :=
    fun stored => sourced profile stored observation observed names
  cases made with
  | unchanged => exact before member
  | opened _ _ _ _ _ _ _ _ _ _ profiles | edited _ _ _ _ profiles | expired _ profiles =>
      exact before (profiles ▸ member)
  | completed _ _ _ _ _ _ _ enrolled profiles =>
      rcases profiles.of_get? (Table.mem_rows_iff _ _ |>.mp member) with ⟨-, rfl⟩ | ⟨-, stored⟩
      · rw [enrolled.unsourced] at names
        cases names
      · exact before (Table.mem_of_get? stored)
  | deleted _ _ profiles =>
      rw [profiles] at member
      exact before (Table.mem_retain.mp member).1

theorem VoicesMoved.sourced (moved : VoicesMoved sdk env t t' command) (integrity : t.Integrity)
    (sourced : t.people.Sourced) : t'.people.Sourced := by
  have same : ∀ {voices : Voices}, t'.voices = voices →
      t'.people.speakerProfiles = voices.profiles ∧
        t'.people.candidateVoiceObservations = voices.observations := by
    rintro _ rfl
    exact ⟨rfl, rfl⟩
  -- A stored profile names a stored observation.
  have stored : ∀ profile ∈ t.people.speakerProfiles.rows, ∀ observationId,
      t.people.candidateVoiceObservations.get? observationId = none →
        profile.sourceObservationId ≠ some observationId := by
    intro profile member observationId absent names
    have source : nullable profile.sourceObservationId
        t.people.candidateVoiceObservations.has = true :=
      integrity.people.profileSource profile member
    rw [names] at source
    obtain ⟨row, found⟩ := Table.has_iff.mp source
    rw [absent] at found
    cases found
  have fewer : (∀ profile ∈ t'.people.speakerProfiles.rows,
        profile ∈ t.people.speakerProfiles.rows) →
      (∀ row ∈ t'.people.candidateVoiceObservations.rows,
        row ∈ t.people.candidateVoiceObservations.rows) → t'.people.Sourced :=
    fun profiles observations profile member row observed =>
      sourced profile (profiles profile member) row (observations row observed)
  cases moved with
  | kept _ voices | faced _ voices =>
      refine fewer ?_ ?_
      · rw [(same voices).1]
        exact fun _ => id
      · rw [(same voices).2]
        exact fun _ => id
  | made aside made => exact made.sourced aside.observations sourced
  | discovered discovered =>
      obtain ⟨displayName, voices⟩ := discovered.voices
      obtain ⟨profiles, observations⟩ := same voices
      intro profile member row observed names
      rw [profiles] at member
      rw [observations] at observed
      rcases Table.mem_insert member with rfl | before
      · rcases Table.mem_insert observed with rfl | observedBefore
        · exact ⟨rfl, rfl⟩
        · have sameId : (env.uuid 3).hex = row.observationId := Option.some.inj names
          have found : t.people.candidateVoiceObservations.get? row.observationId = some row :=
            (Table.mem_rows_iff _ _).mp observedBefore
          rw [← sameId, discovered.unobserved] at found
          cases found
      · rcases Table.mem_insert observed with rfl | observedBefore
        · exact absurd names (stored profile before _ discovered.unobserved)
        · exact sourced profile before row observedBefore names
  | recorded recorded =>
      obtain ⟨profiles, observations⟩ := same recorded.voices
      intro profile member row observed names
      rw [profiles] at member
      rw [observations] at observed
      rcases Table.mem_insert observed with rfl | observedBefore
      · exact absurd names (stored profile member _ recorded.unobserved)
      · exact sourced profile member row observedBefore names
  | erased voices =>
      obtain ⟨profiles, observations⟩ := same voices
      refine fewer ?_ ?_
      · intro profile member
        rw [profiles] at member
        exact (Table.mem_retain.mp member).1
      · rw [observations]
        exact fun _ => id
  | pruned _ pruned =>
      refine fewer ?_ ?_
      · intro profile member
        rw [pruned.profiles] at member
        exact (Table.mem_retain.mp member).1
      · intro row observed
        rw [pruned.observations] at observed
        exact (Table.mem_retain.mp observed).1

end Sourced

section Runs

variable {sdk : Sdk} {env : Env} {t t' : Tables} {command : Command}

/-- What holds of the people in every state that a run reaches. -/
structure Tables.PeopleSound (sdk : Sdk) (t : Tables) : Prop where
  filed : t.Filed
  sourced : t.people.Sourced
  inactive : ∀ personId, (t.file personId).Inactive
  marked : ∀ personId, (t.file personId).Marked
  erased : ∀ personId person, t.people.persons.get? personId = some person →
    person.deleted = true → t.people.Bare personId
  enrolled : t.people.Enrolled
  observed : t.people.Observed sdk

/-- What a call that is not rolled back does to the people. -/
structure PeopleStepped (sdk : Sdk) (env : Env) (command : Command) (t t' : Tables) : Prop where
  moved : PeopleMoved sdk env command t t'
  erases : ∀ ownerId personId expectedRevision,
    command = .archivePerson ownerId personId expectedRevision →
      t'.voices = (t.people.eraseBiometrics personId).voices

theorem PeopleStepped.sound (stepped : PeopleStepped sdk env command t t')
    (integrity : t.Integrity) (sound : t.PeopleSound sdk) : t'.PeopleSound sdk where
  filed := fun personId => (stepped.moved.files personId).sound (sound.filed personId)
  sourced := stepped.moved.voices.sourced integrity sound.sourced
  inactive := fun personId => (stepped.moved.files personId).inactive (sound.inactive personId)
  marked := fun personId => (stepped.moved.files personId).marked (sound.marked personId)
  erased := by
    intro personId after stored archived
    have moved := stepped.moved.files personId
    rcases moved.deleted_before stored archived with
      ⟨before, found, was⟩ | ⟨ownerId, revision, made⟩
    · exact stepped.moved.voices.bare found was (sound.inactive personId before found was)
        (sound.erased personId before found was)
    · exact bare_of_erased (stepped.erases _ _ _ made)
  enrolled := stepped.moved.voices.enrolled sound.enrolled
  observed := stepped.moved.voices.observed sound.observed

theorem peopleSound_empty (sdk : Sdk) : Database.empty.tables.PeopleSound sdk := by
  refine
    { filed := fun _ => PersonFile.sound_absent
      sourced := ?_
      inactive := ?_
      marked := fun _ => PersonFile.marked_of_absent rfl
      erased := ?_
      enrolled := enrolled_empty
      observed := observed_empty sdk }
  · intro profile member
    cases member
  · intro _ _ stored
    cases stored
  · intro _ _ stored
    cases stored

theorem Call.step_people (call : Call) (db : Database) (sound : db.tables.PeopleSound sdk) :
    call.step sdk db = db ∨
      PeopleStepped sdk call.env call.command db.tables (call.step sdk db).tables := by
  refine call.step_post db (((call.command.session_people sdk call.env db.property sound.filed
    sound.sourced).and (call.command.session_erases sdk call.env)).mono ?_)
  rintro _ t' ⟨moved, erases⟩
  exact ⟨moved, erases⟩

theorem Call.step_sound (call : Call) (db : Database) (sound : db.tables.PeopleSound sdk) :
    (call.step sdk db).tables.PeopleSound sdk := by
  rcases call.step_people db sound with same | stepped
  · rw [same]
    exact sound
  · exact stepped.sound db.property sound

theorem replay_sound (calls : List Call) (db : Database) (sound : db.tables.PeopleSound sdk) :
    (replay sdk calls db).tables.PeopleSound sdk :=
  replay_preserves (fun db => db.tables.PeopleSound sdk) Call.step_sound calls db sound

theorem peopleSound_replay (sdk : Sdk) (calls : List Call) :
    (replay sdk calls .empty).tables.PeopleSound sdk :=
  replay_sound calls .empty (peopleSound_empty sdk)

theorem replay_file {holds : PersonFile → Prop} (allowed : Command → Prop) (personId : String)
    (kept : ∀ {env command file file'}, PersonMoved sdk env personId command file file' →
      allowed command → file.Sound → holds file → holds file')
    (calls : List Call) (db : Database) (sound : db.tables.PeopleSound sdk)
    (permitted : ∀ call ∈ calls, allowed call.command)
    (before : holds (db.tables.file personId)) :
    holds ((replay sdk calls db).tables.file personId) := by
  induction calls generalizing db with
  | nil => exact before
  | cons call calls induction =>
      refine induction (call.step sdk db) (call.step_sound db sound)
        (fun later member => permitted later (List.mem_cons_of_mem _ member)) ?_
      rcases call.step_people db sound with same | stepped
      · rw [same]
        exact before
      · exact kept (stepped.moved.files personId) (permitted call List.mem_cons_self)
          (sound.filed personId) before

/-- The Person is stored in every state of the run. -/
def PersonLasts (sdk : Sdk) (personId : String) (calls : List Call) (db : Database) : Prop :=
  ∀ first, first <+: calls →
    ((replay sdk first db).tables.people.persons.get? personId).isSome = true

instance (sdk : Sdk) (personId : String) (calls : List Call) (db : Database) :
    Decidable (PersonLasts sdk personId calls db) :=
  decidable_of_iff (∀ first ∈ calls.inits,
      ((replay sdk first db).tables.people.persons.get? personId).isSome = true)
    (by simp only [PersonLasts, List.mem_inits])

theorem PersonLasts.step {personId : String} {call : Call} {calls : List Call} {db : Database}
    (lasts : PersonLasts sdk personId (call :: calls) db) :
    PersonLasts sdk personId calls (call.step sdk db) :=
  fun first within => lasts (call :: first) ((List.prefix_cons_inj call).mpr within)

/-- As `replay_file`, while the Person is stored. -/
theorem replay_lasting {holds : PersonFile → Prop} (allowed : Command → Prop) (personId : String)
    (kept : ∀ {env command file file'}, PersonMoved sdk env personId command file file' →
      allowed command → file.Sound → file'.person.isSome = true → holds file → holds file')
    (calls : List Call) (db : Database) (sound : db.tables.PeopleSound sdk)
    (permitted : ∀ call ∈ calls, allowed call.command)
    (lasts : PersonLasts sdk personId calls db) (before : holds (db.tables.file personId)) :
    holds ((replay sdk calls db).tables.file personId) := by
  induction calls generalizing db with
  | nil => exact before
  | cons call calls induction =>
      refine induction (call.step sdk db) (call.step_sound db sound)
        (fun later member => permitted later (List.mem_cons_of_mem _ member)) lasts.step ?_
      rcases call.step_people db sound with same | stepped
      · rw [same]
        exact before
      · exact kept (stepped.moved.files personId) (permitted call List.mem_cons_self)
          (sound.filed personId) (lasts.step [] (List.nil_prefix)) before

end Runs

section Erased

variable {t : Tables} {personId : String}

/-- No row carries the id of the Person; a recording carries the id of the
Person its profile is of. -/
structure Tables.ErasedPerson (t : Tables) (personId : String) : Prop where
  person : t.people.persons.get? personId = none
  realms : ∀ row ∈ t.workspace.memoryRealms.rows, row.personId ≠ some personId
  observations : ∀ row ∈ t.people.candidateVoiceObservations.rows, row.personId ≠ personId
  profiles : ∀ row ∈ t.people.speakerProfiles.rows, row.personId ≠ personId
  enrollments : ∀ row ∈ t.people.voiceEnrollments.rows, row.personId ≠ personId
  recordings : ∀ row ∈ t.people.speakerRecordings.rows, ∃ profile,
    t.people.speakerProfiles.get? row.profileId = some profile ∧ profile.personId ≠ personId
  photos : ∀ row ∈ t.people.personFaces.rows, row.personId ≠ personId

theorem not_named_of_absent {p : People} {ownerId other : String}
    (absent : p.persons.get? personId = none) (named : p.hasOwnedPerson ownerId other = true) :
    other ≠ personId := by
  rintro rfl
  simp [People.hasOwnedPerson, absent] at named

theorem Tables.ErasedPerson.of_absent (integrity : t.Integrity) (filed : t.Filed)
    (absent : t.people.persons.get? personId = none) : t.ErasedPerson personId where
  person := absent
  realms := by
    intro row member named
    obtain ⟨person, receipt, held, -⟩ :=
      filed.of_realm ((Table.mem_rows_iff _ _).mp member) named
    rw [person_of_file held] at absent
    cases absent
  observations := fun row member =>
    not_named_of_absent absent (integrity.people.observationOf row member)
  profiles := fun row member =>
    not_named_of_absent absent (integrity.people.profileOf row member)
  enrollments := fun row member =>
    not_named_of_absent absent (integrity.people.enrollmentOf row member)
  recordings := by
    intro row member
    obtain ⟨profile, found⟩ :=
      Table.has_iff.mp (integrity.people.recordingProfile row member)
    exact ⟨profile, found, not_named_of_absent absent
      (integrity.people.profileOf profile (Table.mem_of_get? found))⟩
  photos := fun row member =>
    not_named_of_absent absent (integrity.people.faceOf row member)

theorem Tables.Filed.absent_of_completed {receipt : PersonDeletionRow} (filed : t.Filed)
    (stored : t.people.personDeletions.get? personId = some receipt)
    (completed : receipt.state = "completed") : t.people.persons.get? personId = none := by
  cases found : t.people.persons.get? personId with
  | none => rfl
  | some person =>
      obtain ⟨realm, held, -, pending⟩ := (filed personId).of_person found
      have unfinished := (pending receipt stored).2.2
      rw [completed] at unfinished
      exact absurd unfinished (by decide)

end Erased

end EidolonData
