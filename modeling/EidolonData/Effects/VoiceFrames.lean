import EidolonData.Effects.PersonFrames

/-!
# The Person commands and the voices

What belongs to the voices and the photos of the Persons is written by the
commands on them, by the archiving of a Person and by the deletions.
-/

namespace EidolonData

open Relational

/-- The rows of the Persons' voices and photos. -/
structure Voices where
  observations : Table CandidateVoiceObservationRow
  profiles : Table SpeakerProfileRow
  recordings : Table SpeakerRecordingRow
  enrollments : Table VoiceEnrollmentRow
  faces : Table PersonFaceRow

def People.voices (p : People) : Voices :=
  { observations := p.candidateVoiceObservations
    profiles := p.speakerProfiles
    recordings := p.speakerRecordings
    enrollments := p.voiceEnrollments
    faces := p.personFaces }

def Tables.voices (t : Tables) : Voices := t.people.voices

section Rules

variable (sdk : Sdk) (env : Env) (ownerId personId : String)

@[simp] theorem voices_mapWorkspace (t : Tables) (change : Workspace → Workspace) :
    (t.mapWorkspace change).voices = t.voices := rfl

@[simp] theorem voices_addFact (t : Tables) (now : Timestamp) (fact : AuditFact) :
    (t.addFact now fact).voices = t.voices := rfl

variable {post : Unit → Prop}

@[simp] theorem voices_insertRealm (row : MemoryRealmRow) :
    (insertRealm row).Keeps Tables.voices post ↔ post () := by
  simp [insertRealm]

@[simp] theorem voices_insertPerson (row : PersonRow) :
    (insertPerson row).Keeps Tables.voices post ↔ post () := by
  simp only [insertPerson, Tx.keeps_attempt_guarded, and_iff_right_iff_imp]
  intro _ t _
  rfl

@[simp] theorem voices_writePerson (person : PersonRow) :
    (writePerson person).Keeps Tables.voices post ↔ post () := by
  simp only [writePerson, Tx.keeps_modify, and_iff_right_iff_imp]
  intro _ t
  rfl

@[simp] theorem voices_writeEvidence (person : PersonRow) :
    (writeEvidence person).Keeps Tables.voices post ↔ post () := by
  simp only [writeEvidence, Tx.keeps_modify, and_iff_right_iff_imp]
  intro _ t
  rfl

@[simp] theorem voices_writeRealm (realm : MemoryRealmRow) :
    (writeRealm realm).Keeps Tables.voices post ↔ post () := by
  simp [writeRealm, updateRealmRow]

@[simp] theorem voices_updateOwnerRow (change : OwnerRow → OwnerRow)
    (keeps : ∀ row, key (change row) = key row) :
    (updateOwnerRow ownerId change keeps).Keeps Tables.voices post ↔ post () := by
  simp [updateOwnerRow]

@[simp] theorem voices_auditPerson (uuid : Nat) (person : PersonRow) (action : String) :
    (auditPerson env uuid person action).Keeps Tables.voices post ↔ post () := by
  simp [auditPerson, EidolonData.addFact]

@[simp] theorem voices_deactivateMemory :
    (deactivateMemory sdk ownerId personId).Keeps Tables.voices post ↔ post () := by
  simp only [deactivateMemory, personRealm, Tx.keeps_bind, Tx.keeps_read]
  constructor
  · intro keeps
    exact keeps none
  · intro ended stored
    cases stored with
    | some realm => simpa using ended
    | none => exact ended

end Rules

section Persons

variable (sdk : Sdk) (env : Env) (ownerId personId : String)

theorem requirePerson_voices (includeDeleted : Bool) :
    (requirePerson ownerId personId includeDeleted).Spares Tables.voices := by
  simp [requirePerson, requireActiveOwner, getPerson]

theorem insertNewPerson_voices (owner : OwnerRow) (request : PersonCreateRequest) :
    (insertNewPerson sdk env owner request).Spares Tables.voices := by
  simp [insertNewPerson, bindMemory]

theorem createPerson_voices (ttl : Timestamp) (request : PersonCreateRequest) :
    (createPerson sdk env ttl ownerId request).Spares Tables.voices := by
  simp only [createPerson, requireActiveOwner, getPersonDeletion, getPerson, Tx.spares_iff,
    Tx.keeps_bind, keeps_getOwner, Tx.keeps_require, Tx.keeps_read, Tx.keeps_refuseIf]
  intro _ owner _ _ _ existing
  cases existing with
  | some row => simp
  | none =>
      simp only [candidateCapacity, Tx.keeps_bind, Tx.keeps_read, Tx.keeps_refuseIf, Tx.keeps_ite]
      have inserts := (insertNewPerson_voices sdk env owner request).all
      exact fun _ _ => ⟨fun _ _ _ => inserts, fun _ => inserts⟩

theorem updatePerson_voices (ttl : Timestamp) (request : PersonUpdateRequest) :
    (updatePerson sdk env ttl ownerId personId request).Spares Tables.voices := by
  refine Tx.spares_bind (requirePerson_voices ownerId personId _) (fun row => ?_)
  simp [checkPersonRevision, candidateCapacity]

theorem retireCandidate_voices (expectedRevision : Int) :
    (retireCandidate env ownerId personId expectedRevision).Spares Tables.voices := by
  refine Tx.spares_bind (requirePerson_voices ownerId personId _) (fun row => ?_)
  simp [checkPersonRevision]

theorem restorePerson_voices (expectedRevision : Int) :
    (restorePerson sdk env ownerId personId expectedRevision).Spares Tables.voices := by
  refine Tx.spares_bind (requirePerson_voices ownerId personId _) (fun row => ?_)
  simp [checkPersonRevision]

theorem requestDeletion_voices (expectedRevision : Int) :
    (requestDeletion env ownerId personId expectedRevision).Spares Tables.voices := by
  refine Tx.spares_bind (requirePerson_voices ownerId personId _) (fun row => ?_)
  simp only [checkPersonRevision, personRealm, Tx.spares_iff, Tx.keeps_bind, Tx.keeps_refuseIf,
    Tx.keeps_read, Tx.keeps_require, Tx.keeps_attempt_guarded, voices_writeRealm,
    voices_writePerson, voices_auditPerson, Tx.pure_eq, Tx.keeps_done, and_true]
  intro _ _ _ _ _ t _
  rfl

theorem writeMemoryDefaults_voices (expectedRevision : Option Int) (policy : Json) :
    (writeMemoryDefaults sdk env ownerId expectedRevision policy).Spares Tables.voices := by
  simp [writeMemoryDefaults, requireActiveOwner, EidolonData.addFact]

theorem writeProvisionalPolicy_voices (expectedRevision : Option Int) (policy : Json) :
    (writeProvisionalPolicy sdk env ownerId personId expectedRevision policy).Spares
      Tables.voices := by
  refine Tx.spares_bind (requirePerson_voices ownerId personId _) (fun row => ?_)
  simp [personRealm]

theorem resolveMemoryRealm_voices (create : Bool) :
    (resolveMemoryRealm env ownerId personId create).Spares Tables.voices := by
  refine Tx.spares_bind (requirePerson_voices ownerId personId _) (fun person => ?_)
  simp only [checkMemoryEligible, personRealm, Tx.spares_iff, Tx.keeps_bind, Tx.keeps_refuseIf,
    Tx.keeps_read]
  intro _ _ stored
  cases stored with
  | some realm => simp
  | none => simp [bindMemory]

theorem suspendMemory_voices (expectedRevision : Int) :
    (suspendMemory sdk env ownerId personId expectedRevision).Spares Tables.voices := by
  refine Tx.spares_bind (requirePerson_voices ownerId personId _) (fun person => ?_)
  simp [checkPersonRevision, personRealm]

theorem restoreMemory_voices (expectedRevision : Int) :
    (restoreMemory env ownerId personId expectedRevision).Spares Tables.voices := by
  refine Tx.spares_bind (requirePerson_voices ownerId personId _) (fun person => ?_)
  simp [checkPersonRevision, checkMemoryEligible, personRealm]

theorem retainAll_voices (uuid : Nat) (rows : List PersonRow) :
    (retainAll env uuid rows).Spares Tables.voices := by
  induction rows generalizing uuid with
  | nil => exact ⟨trivial⟩
  | cons row rows induction =>
      simp only [retainAll, Tx.spares_iff, Tx.keeps_bind, voices_writePerson, voices_auditPerson]
      exact (induction (uuid + 1)).all

theorem retainExpiredCandidates_voices (policies : VoicePolicies) :
    (retainExpiredCandidates env policies ownerId).Spares Tables.voices := by
  simp only [retainExpiredCandidates, requireActiveOwner, Tx.spares_iff, Tx.keeps_bind,
    keeps_getOwner, Tx.keeps_require, Tx.keeps_read]
  intros
  exact (retainAll_voices env 0 _).all

theorem promoteCandidate_voices (policies : VoicePolicies) (person : PersonRow)
    (rows : List CandidateVoiceObservationRow) (value : SpeakerObservation) :
    (promoteCandidate sdk env policies person rows value).Spares Tables.voices := by
  unfold promoteCandidate
  split
  · simp
  · simp only [preparePromotedMemory, personRealm, EidolonData.addFact, Tx.spares_iff,
      Tx.keeps_bind, voices_writeEvidence, keeps_getOwner, Tx.keeps_require, keeps_validated,
      Tx.keeps_ite, Tx.keeps_read, Tx.keeps_done, Tx.keeps_modify, voices_addFact, implies_true,
      Tx.pure_eq, and_true]
    intro _ _ _ _ _ _ realm
    cases realm.filter MemoryRealmRow.isPreparable with
    | some realm => simp
    | none => trivial

end Persons

end EidolonData
