import EidolonData.Effects.Cascade
import EidolonData.Effects.VoiceMoves

/-!
# The deletions and the people

What is left of the people when the row of an Owner, a Companion or a Person
is deleted: the files of the other Owners' Persons, and the voices of the
Persons that are left.
-/

namespace EidolonData

open Relational

section Voices

/-- A profile taken from an observation is of the Person observed. -/
def People.Sourced (p : People) : Prop :=
  ∀ profile ∈ p.speakerProfiles.rows, ∀ observation ∈ p.candidateVoiceObservations.rows,
    profile.sourceObservationId = some observation.observationId →
      observation.ownerId = profile.ownerId ∧ observation.personId = profile.personId

/-- The voices of the Persons that are left. -/
structure VoicesPruned (p p' : People) : Prop where
  observations : p'.candidateVoiceObservations =
    p.candidateVoiceObservations.retain (fun row => p'.persons.has row.personId)
  profiles : p'.speakerProfiles =
    p.speakerProfiles.retain (fun row => p'.persons.has row.personId)
  recordings : p'.speakerRecordings =
    p.speakerRecordings.retain (fun row => p'.speakerProfiles.has row.profileId)
  enrollments : p'.voiceEnrollments =
    p.voiceEnrollments.retain (fun row => p'.persons.has row.personId)
  faces : p'.personFaces = p.personFaces.retain (fun row => p'.persons.has row.personId)

theorem cascade_pruned {p p₀ : People} {w w₀ : Workspace} (integrity : p.Integrity w₀)
    (sourced : p.Sourced) (voices : p₀.voices = p.voices)
    (left : ∀ personId person, p₀.persons.get? personId = some person →
      p.persons.get? personId = some person) :
    VoicesPruned p (p₀.cascade w) := by
  have observations : p₀.candidateVoiceObservations = p.candidateVoiceObservations :=
    congrArg Voices.observations voices
  have profiles : p₀.speakerProfiles = p.speakerProfiles := congrArg Voices.profiles voices
  have recordings : p₀.speakerRecordings = p.speakerRecordings :=
    congrArg Voices.recordings voices
  have enrollments : p₀.voiceEnrollments = p.voiceEnrollments :=
    congrArg Voices.enrollments voices
  have faces : p₀.personFaces = p.personFaces := congrArg Voices.faces voices
  -- A Person that is left is the one the row references, and its Owner is left.
  have owned : ∀ {ownerId personId}, p.hasOwnedPerson ownerId personId = true →
      (p₀.cascade w).hasOwnedPerson ownerId personId = (p₀.cascade w).persons.has personId ∧
        ((p₀.cascade w).persons.has personId = true → w.owners.has ownerId = true) := by
    intro ownerId personId referenced
    cases found : (p₀.cascade w).persons.get? personId with
    | none => simp [People.hasOwnedPerson, Table.has, found]
    | some person =>
        have kept := found
        simp only [People.cascade, Table.get?_retain, Option.filter_eq_some_iff] at kept
        have stored := left personId person kept.1
        rw [People.hasOwnedPerson, stored, Option.any_some, decide_eq_true_eq] at referenced
        subst referenced
        refine ⟨?_, fun _ => kept.2⟩
        simp [People.hasOwnedPerson, Table.has, found]
  have observed : ∀ row ∈ p.candidateVoiceObservations.rows,
      (p₀.cascade w).hasOwnedPerson row.ownerId row.personId =
        (p₀.cascade w).persons.has row.personId :=
    fun row member => (owned (integrity.observationOf row member)).1
  have profiled : ∀ row ∈ p.speakerProfiles.rows,
      (w.owners.has row.ownerId && (p₀.cascade w).hasOwnedPerson row.ownerId row.personId &&
        nullable row.sourceObservationId (p₀.cascade w).candidateVoiceObservations.has) =
          (p₀.cascade w).persons.has row.personId := by
    intro row member
    obtain ⟨same, ownerLeft⟩ := owned (integrity.profileOf row member)
    cases present : (p₀.cascade w).persons.has row.personId with
    | false => simp [same, present]
    | true =>
        have source : nullable row.sourceObservationId
            (p₀.cascade w).candidateVoiceObservations.has = true := by
          cases sourceId : row.sourceObservationId with
          | none => rfl
          | some observationId =>
              have stored : nullable row.sourceObservationId p.candidateVoiceObservations.has =
                  true := integrity.profileSource row member
              rw [sourceId] at stored
              obtain ⟨observation, found⟩ := Table.has_iff.mp stored
              have named : observation.observationId = observationId := Table.key_of_get? found
              obtain ⟨-, samePerson⟩ := sourced row member observation (Table.mem_of_get? found)
                (by rw [sourceId, named])
              have keptPerson : (p₀.cascade w).hasOwnedPerson observation.ownerId
                  observation.personId = true := by
                rw [observed observation (Table.mem_of_get? found), samePerson, present]
              refine Table.has_iff.mpr ⟨observation, ?_⟩
              show (p₀.candidateVoiceObservations.retain _).get? observationId = _
              rw [observations, Table.get?_retain, found]
              exact Option.filter_some_pos keptPerson
        simp [same, present, ownerLeft present, source]
  exact
    { observations := by
        show p₀.candidateVoiceObservations.retain _ = _
        rw [observations]
        exact Table.retain_congr observed
      profiles := by
        show p₀.speakerProfiles.retain _ = _
        rw [profiles]
        exact Table.retain_congr profiled
      recordings := by
        show p₀.speakerRecordings.retain _ = _
        rw [recordings]
        rfl
      enrollments := by
        show p₀.voiceEnrollments.retain _ = _
        rw [enrollments]
        refine Table.retain_congr ?_
        intro row member
        obtain ⟨same, ownerLeft⟩ := owned (integrity.enrollmentOf row member)
        show (w.owners.has row.ownerId &&
          (p₀.cascade w).hasOwnedPerson row.ownerId row.personId) = _
        rw [same]
        cases present : (p₀.cascade w).persons.has row.personId with
        | false => rw [Bool.and_false]
        | true => rw [ownerLeft present, Bool.true_and]
      faces := by
        show p₀.personFaces.retain _ = _
        rw [faces]
        exact Table.retain_congr (fun row member => (owned (integrity.faceOf row member)).1) }

end Voices

section Owners

variable (sdk : Sdk) (env : Env) {t : Tables}

def PersonFile.without (file : PersonFile) (ownerId : String) : PersonFile :=
  { person := file.person.filter (fun row => row.ownerId ≠ ownerId)
    realms := file.realms.filter (fun row => row.ownerId ≠ ownerId)
    receipt := file.receipt.filter (fun row => row.ownerId ≠ ownerId) }

theorem PersonFile.Sound.without {file : PersonFile} (sound : file.Sound) (ownerId : String) :
    file.without ownerId = file ∨ file.without ownerId = .absent ∧ file.OwnedBy ownerId := by
  cases sound with
  | absent receipt completed =>
      cases receipt with
      | none => exact Or.inl rfl
      | some receipt =>
          by_cases owned : receipt.ownerId = ownerId
          · refine Or.inr ⟨?_, ⟨?_, ?_⟩⟩
            · simp [PersonFile.without, PersonFile.absent, owned]
            · rintro _ ⟨⟩
            · rintro _ ⟨⟩
              exact owned
          · refine Or.inl ?_
            simp [PersonFile.without, owned]
  | bound person realm receipt realmOwned pending =>
      by_cases owned : person.ownerId = ownerId
      · have receipts : ∀ stored, receipt = some stored → stored.ownerId = ownerId :=
          fun stored same => (pending stored same).1.trans owned
        refine Or.inr ⟨?_, ⟨?_, receipts⟩⟩
        · have gone : receipt.filter (fun row => row.ownerId ≠ ownerId) = none := by
            rw [Option.filter_eq_none_iff]
            intro stored same
            simpa using receipts stored same
          simp only [PersonFile.without, PersonFile.bound, gone]
          simp [PersonFile.absent, realmOwned, owned]
        · rintro _ ⟨⟩
          exact owned
      · have kept : receipt.filter (fun row => row.ownerId ≠ ownerId) = receipt := by
          cases receipt with
          | none => rfl
          | some stored =>
              have different : stored.ownerId ≠ ownerId := by
                rw [(pending stored rfl).1]
                exact owned
              exact Option.filter_some_pos (by simpa using different)
        refine Or.inl ?_
        simp only [PersonFile.without, PersonFile.bound, kept]
        simp [realmOwned, owned]

theorem has_left {ownerId other : String} (owned : t.workspace.owners.has other = true) :
    (t.withoutOwnerTree ownerId).workspace.owners.has other = decide (other ≠ ownerId) := by
  rw [Bool.eq_iff_iff, Tables.has_withoutOwnerTree, decide_eq_true_eq]
  exact ⟨And.right, fun different => ⟨owned, different⟩⟩

/-- The files that the deletion of an Owner leaves. -/
theorem file_withoutOwnerTree (integrity : t.Integrity) (ownerId personId : String) :
    (t.withoutOwnerTree ownerId).file personId = (t.file personId).without ownerId := by
  have persons : (t.withoutOwnerTree ownerId).people.persons =
      t.people.persons.retain (fun row => row.ownerId ≠ ownerId) := by
    refine Table.retain_congr ?_
    intro row member
    have owned := integrity.people.personOwner row member
    exact has_left (Bool.and_eq_true_iff.mp owned).1
  have receipts : (t.withoutOwnerTree ownerId).people.personDeletions =
      t.people.personDeletions.retain (fun row => row.ownerId ≠ ownerId) :=
    Table.retain_congr
      (fun row member => has_left (integrity.people.deletionOwner row member))
  have realms : (t.withoutOwnerTree ownerId).workspace.memoryRealms =
      t.workspace.memoryRealms.retain (fun row => row.ownerId ≠ ownerId) := by
    refine Table.retain_congr ?_
    intro row member
    rw [← has_left (integrity.workspace.realmOwner row member)]
    exact (congrFun Workspace.has_cascade_owners _).symm
  simp only [Tables.file, PersonFile.without, persons, receipts, realms, Table.get?_retain,
    Table.select_retain]

theorem deleteOwner_people (integrity : t.Integrity) (filed : t.Filed) (sourced : t.people.Sourced)
    (ownerId : String) :
    (deleteOwner env ownerId).Ensures t (fun _ t' => t.Moves sdk env (.deleteOwner ownerId) t' ∧
      (t'.voices = t.voices ∨ VoicesPruned t.people t'.people)) := by
  simp only [deleteOwner, Tx.ensures_bind, ensures_getOwner]
  cases found : t.workspace.owners.get? ownerId with
  | none =>
      simp only [Tx.pure_eq, Tx.ensures_done]
      exact ⟨.refl, Or.inl trivial⟩
  | some owner =>
      simp only [Tx.ensures_bind, Tx.ensures_read, Tx.ensures_modify, ensures_addFact, Tx.pure_eq,
        Tx.ensures_done]
      refine ⟨?_, Or.inr (cascade_pruned integrity.people sourced rfl (fun _ _ stored => stored))⟩
      intro personId
      rw [file_addFact]
      show PersonMoved _ _ _ _ _ ((t.withoutOwnerTree ownerId).file personId)
      rw [file_withoutOwnerTree integrity]
      rcases (filed personId).without ownerId with same | ⟨gone, owned⟩
      · rw [same]
        exact .kept _ _
      · rw [gone]
        exact .ownerDeleted owned

theorem breakCompanionPointers_owners (t : Tables) (owner : Option OwnerRow)
    (companionId : String) :
    (breakCompanionPointers owner companionId).Ensures t (fun _ t' =>
      t'.people = t.people ∧ t'.workspace.memoryRealms = t.workspace.memoryRealms ∧
        t'.workspace.owners.has = t.workspace.owners.has) := by
  cases owner with
  | none =>
      simp only [breakCompanionPointers, Tx.ensures_bind, Tx.ensures_done,
        ensures_updateCompanionRow]
      exact ⟨rfl, rfl, rfl⟩
  | some owner =>
      simp only [breakCompanionPointers, Tx.ensures_bind, Tx.ensures_ite, ensures_updateOwnerRow,
        Tx.ensures_done, ensures_updateCompanionRow]
      refine ⟨fun _ => ⟨rfl, rfl, ?_⟩, fun _ => ⟨rfl, rfl, rfl⟩⟩
      simp only [Tables.workspace_mapWorkspace, Table.has_modify]

theorem deleteCompanion_people (integrity : t.Integrity) (sourced : t.people.Sourced)
    (ownerId companionId : String) (allowDefault : Bool) :
    (deleteCompanion env ownerId companionId allowDefault).Ensures t (fun _ t' =>
      (∀ personId, t'.file personId = t.file personId) ∧ VoicesPruned t.people t'.people) := by
  simp only [deleteCompanion, Tx.ensures_bind, ensures_getCompanion, Tx.ensures_require,
    ensures_getOwner, Tx.ensures_refuseIf, Tx.ensures_read, Tx.ensures_modify, ensures_addFact,
    Tx.pure_eq, Tx.ensures_done]
  intro companion _ _
  refine (breakCompanionPointers_owners t _ companionId).mono ?_
  rintro _ t₁ ⟨people, realms, owners⟩
  have left : (t₁.deleteCompanion companionId).workspace.owners.has = t.workspace.owners.has :=
    Workspace.has_cascade_owners.trans owners
  have persons : (t₁.deleteCompanion companionId).people.persons = t.people.persons := by
    show t₁.people.persons.retain _ = _
    rw [people]
    refine Table.retain_eq_self ?_
    intro row member
    rw [← (Bool.and_eq_true_iff.mp (integrity.people.personOwner row member)).1]
    exact congrFun left _
  have receipts : (t₁.deleteCompanion companionId).people.personDeletions =
      t.people.personDeletions := by
    show t₁.people.personDeletions.retain _ = _
    rw [people]
    refine Table.retain_eq_self ?_
    intro row member
    rw [← integrity.people.deletionOwner row member]
    exact congrFun left _
  have kept : (t₁.deleteCompanion companionId).workspace.memoryRealms =
      t.workspace.memoryRealms := by
    show t₁.workspace.memoryRealms.retain _ = _
    rw [realms]
    refine Table.retain_eq_self ?_
    intro row member
    rw [← integrity.workspace.realmOwner row member]
    exact congrFun owners _
  refine ⟨fun _ => file_of_tables persons receipts kept, ?_⟩
  show VoicesPruned _ (People.cascade _ t₁.people)
  rw [people]
  exact cascade_pruned integrity.people sourced rfl (fun _ _ stored => stored)

theorem archiveOwner_moves (filed : t.Filed) (ownerId : String) :
    (archiveOwner env ownerId).Ensures t (fun _ t' =>
      t.Moves sdk env (.archiveOwner ownerId) t') := by
  refine ((archiveOwner_effect env t ownerId).and
    ((archiveOwner_spares env ownerId).ensures t)).mono ?_
  rintro _ t' ⟨same | ⟨owner, found, -, archived⟩, spared⟩
  · have people : t'.people = t.people := congrArg (fun part => part.2.1) spared
    refine .of_same (fun _ => ?_)
    rw [Tables.file, same, people]
    rfl
  · have people : t'.people = t.people := congrArg (fun part => part.2.1) spared
    have named : owner.ownerId = ownerId := Table.key_of_get? found
    intro personId
    have realms : t'.workspace.memoryRealms.select (fun row => row.personId = some personId) =
        (t.file personId).realms.map (fun row =>
          if row.ownerId = ownerId ∧ row.status = .active then { row with status := .inactive }
          else row) := by
      simp only [archived, ← named, Workspace.archiveOwner]
      rw [Table.select_update]
      · rfl
      · intro row
        split
        · rfl
        · rfl
    have file : t'.file personId = { t.file personId with
        realms := (t.file personId).realms.map (fun row =>
          if row.ownerId = ownerId ∧ row.status = .active then { row with status := .inactive }
          else row) } := by
      rw [Tables.file, people, realms]
      rfl
    rw [file]
    have sound := filed personId
    revert sound
    generalize t.file personId = before
    intro sound
    cases sound with
    | absent receipt completed => exact .kept _ _
    | bound person realm receipt realmOwned pending =>
        by_cases owned : person.ownerId = ownerId
        · have moved : PersonMoved sdk env personId (.archiveOwner ownerId)
              (.bound person realm receipt) _ := .ownerArchived owned
          simpa [PersonFile.bound, realmOwned, owned] using moved
        · simpa [PersonFile.bound, realmOwned, owned] using
            PersonMoved.kept (.archiveOwner ownerId) (PersonFile.bound person realm receipt)

end Owners

end EidolonData
