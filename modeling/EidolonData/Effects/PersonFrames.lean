import EidolonData.Effects.Frames

/-!
# What the Person commands leave alone

The commands on Persons, their voices and their photos write the workspace,
for the realms, and the rows of the people; the homes and the teams they do
not touch.
-/

namespace EidolonData

open Relational

/-- What the commands on Persons, their voices and their photos leave alone. -/
def Tables.besidePeople (t : Tables) : SmartHome × Teams := (t.home, t.teams)

/-- A part of the database that shows nothing of the people, and of the
workspace no more than its chapters. -/
class Tables.HidesPeople {γ : Type} (part : Tables → γ) : Prop where
  people : ∀ (t : Tables) (change : People → People), part (t.mapPeople change) = part t
  workspace : ∀ (t : Tables) (change : Workspace → Workspace),
    (change t.workspace).chapters = t.workspace.chapters → part (t.mapWorkspace change) = part t
  fact : ∀ (t : Tables) (now : Timestamp) (fact : AuditFact), part (t.addFact now fact) = part t

/-- A part of the database that shows no more of the people than their
photos, and of the workspace no more than its chapters. -/
class Tables.ShowsPhotos {γ : Type} (part : Tables → γ) : Prop where
  people : ∀ (t : Tables) (change : People → People),
    (change t.people).personFaces = t.people.personFaces → part (t.mapPeople change) = part t
  workspace : ∀ (t : Tables) (change : Workspace → Workspace),
    (change t.workspace).chapters = t.workspace.chapters → part (t.mapWorkspace change) = part t
  fact : ∀ (t : Tables) (now : Timestamp) (fact : AuditFact), part (t.addFact now fact) = part t

instance {γ : Type} {part : Tables → γ} [hides : Tables.HidesPeople part] :
    Tables.ShowsPhotos part where
  people t change _ := hides.people t change
  workspace := hides.workspace
  fact := hides.fact

instance : Tables.HidesPeople Tables.besidePeople where
  people _ _ := rfl
  workspace _ _ _ := rfl
  fact _ _ _ := rfl

theorem chapters_withoutRealms (w : Workspace) (erased : MemoryRealmRow → Bool) :
    (w.withoutRealms erased).chapters = w.chapters := by
  simp only [Workspace.chapters, Workspace.withoutRealms, Table.get?_update, Option.map_map]
  rfl

section People

variable {γ : Type} {part : Tables → γ}

theorem hidesPeople_mapPeople [hides : Tables.HidesPeople part] (t : Tables)
    (change : People → People) : part (t.mapPeople change) = part t :=
  hides.people t change

variable [shows : Tables.ShowsPhotos part]

theorem besidePeople_mapPeople (t : Tables) {change : People → People}
    (same : (change t.people).personFaces = t.people.personFaces) :
    part (t.mapPeople change) = part t :=
  shows.people t change same

theorem besidePeople_owners (t : Tables) (owners : Workspace → Table OwnerRow) :
    part (t.mapWorkspace (fun w => { w with owners := owners w })) = part t :=
  shows.workspace t _ rfl

theorem besidePeople_realms (t : Tables) (realms : Workspace → Table MemoryRealmRow) :
    part (t.mapWorkspace (fun w => { w with memoryRealms := realms w })) = part t :=
  shows.workspace t _ rfl

theorem besidePeople_withoutRealms (t : Tables) (erased : MemoryRealmRow → Bool) :
    part (t.mapWorkspace (fun w => w.withoutRealms erased)) = part t :=
  shows.workspace t _ (chapters_withoutRealms _ _)

theorem besidePeople_addFact (t : Tables) (now : Timestamp) (fact : AuditFact) :
    part (t.addFact now fact) = part t :=
  shows.fact t now fact

variable (sdk : Sdk) (env : Env) (ownerId personId : String)

section Rules

variable {post : Unit → Prop}

@[simp] theorem besidePeople_insertRealm (row : MemoryRealmRow) :
    (insertRealm row).Keeps part post ↔ post () := by
  simp [insertRealm, besidePeople_realms]

@[simp] theorem besidePeople_insertPerson (row : PersonRow) :
    (insertPerson row).Keeps part post ↔ post () := by
  simp [insertPerson, besidePeople_mapPeople]

@[simp] theorem besidePeople_writePerson (person : PersonRow) :
    (writePerson person).Keeps part post ↔ post () := by
  simp [writePerson, besidePeople_mapPeople]

@[simp] theorem besidePeople_writeEvidence (person : PersonRow) :
    (writeEvidence person).Keeps part post ↔ post () := by
  simp [writeEvidence, besidePeople_mapPeople]

@[simp] theorem besidePeople_writeRealm (realm : MemoryRealmRow) :
    (writeRealm realm).Keeps part post ↔ post () := by
  simp [writeRealm, updateRealmRow, besidePeople_realms]

@[simp] theorem besidePeople_updateOwnerRow (change : OwnerRow → OwnerRow)
    (keeps : ∀ row, key (change row) = key row) :
    (updateOwnerRow ownerId change keeps).Keeps part post ↔ post () := by
  simp [updateOwnerRow, besidePeople_owners]

@[simp] theorem besidePeople_updateEnrollmentRow (enrollmentId : String)
    (change : VoiceEnrollmentRow → VoiceEnrollmentRow)
    (keeps : ∀ row, key (change row) = key row) :
    (updateEnrollmentRow enrollmentId change keeps).Keeps part post ↔ post () := by
  simp [updateEnrollmentRow, besidePeople_mapPeople]

@[simp] theorem besidePeople_insertEnrollment (row : VoiceEnrollmentRow) :
    (insertEnrollment row).Keeps part post ↔ post () := by
  simp [insertEnrollment, besidePeople_mapPeople]

@[simp] theorem besidePeople_insertObservation (row : CandidateVoiceObservationRow) :
    (insertObservation row).Keeps part post ↔ post () := by
  simp [insertObservation, besidePeople_mapPeople]

@[simp] theorem besidePeople_insertProfile (row : SpeakerProfileRow) :
    (insertProfile row).Keeps part post ↔ post () := by
  simp [insertProfile, besidePeople_mapPeople]

@[simp] theorem besidePeople_auditPerson (uuid : Nat) (person : PersonRow) (action : String) :
    (auditPerson env uuid person action).Keeps part post ↔ post () := by
  simp [auditPerson, EidolonData.addFact, besidePeople_addFact]

@[simp] theorem besidePeople_auditVoiceprint (profileId action : String) :
    (auditVoiceprint env ownerId profileId action).Keeps part post ↔ post () := by
  simp [auditVoiceprint, EidolonData.addFact, besidePeople_addFact]

@[simp] theorem besidePeople_deactivateMemory :
    (deactivateMemory sdk ownerId personId).Keeps part post ↔ post () := by
  simp only [deactivateMemory, personRealm, Tx.keeps_bind, Tx.keeps_read]
  constructor
  · intro keeps
    exact keeps none
  · intro ended stored
    cases stored with
    | some realm => simpa using ended
    | none => exact ended

end Rules

omit shows in
theorem requirePerson_spares (includeDeleted : Bool) :
    (requirePerson ownerId personId includeDeleted).Spares part := by
  simp [requirePerson, requireActiveOwner, getPerson]

omit shows in
theorem candidateCapacity_spares (ttl : Timestamp) :
    (candidateCapacity sdk env ttl ownerId).Spares part := by
  simp [candidateCapacity]

theorem insertNewPerson_spares (owner : OwnerRow) (request : PersonCreateRequest) :
    (insertNewPerson sdk env owner request).Spares part := by
  simp [insertNewPerson, bindMemory]

theorem createPerson_spares (ttl : Timestamp) (request : PersonCreateRequest) :
    (createPerson sdk env ttl ownerId request).Spares part := by
  simp only [createPerson, requireActiveOwner, getPersonDeletion, getPerson, Tx.spares_iff,
    Tx.keeps_bind, keeps_getOwner, Tx.keeps_require, Tx.keeps_read, Tx.keeps_refuseIf]
  intro _ owner _ _ _ existing
  cases existing with
  | some row => simp
  | none =>
      simp only [Tx.keeps_bind, Tx.keeps_read, Tx.keeps_refuseIf, Tx.keeps_ite]
      intro _ _
      exact ⟨fun _ => (candidateCapacity_spares sdk env ownerId ttl).keeps
        (fun _ => (insertNewPerson_spares sdk env owner request).all),
        fun _ => (insertNewPerson_spares sdk env owner request).all⟩

theorem updatePerson_spares (ttl : Timestamp) (request : PersonUpdateRequest) :
    (updatePerson sdk env ttl ownerId personId request).Spares part := by
  refine Tx.spares_bind (requirePerson_spares ownerId personId _) (fun row => ?_)
  have capacity : (candidateCapacity sdk env ttl ownerId).Spares part :=
    candidateCapacity_spares sdk env ownerId ttl
  simp only [checkPersonRevision, Tx.spares_iff, Tx.keeps_bind, Tx.keeps_refuseIf, Tx.keeps_ite,
    Tx.keeps_done, besidePeople_deactivateMemory, besidePeople_writePerson,
    besidePeople_auditPerson, Tx.pure_eq, implies_true, and_self, and_true]
  intro _ _
  exact capacity.all

theorem retireCandidate_spares (expectedRevision : Int) :
    (retireCandidate env ownerId personId expectedRevision).Spares part := by
  refine Tx.spares_bind (requirePerson_spares ownerId personId _) (fun row => ?_)
  simp [checkPersonRevision]

theorem restorePerson_spares (expectedRevision : Int) :
    (restorePerson sdk env ownerId personId expectedRevision).Spares part := by
  refine Tx.spares_bind (requirePerson_spares ownerId personId _) (fun row => ?_)
  simp [checkPersonRevision]

theorem requestDeletion_spares (expectedRevision : Int) :
    (requestDeletion env ownerId personId expectedRevision).Spares part := by
  refine Tx.spares_bind (requirePerson_spares ownerId personId _) (fun row => ?_)
  simp [checkPersonRevision, personRealm, besidePeople_mapPeople]

theorem writeMemoryDefaults_spares (expectedRevision : Option Int) (policy : Json) :
    (writeMemoryDefaults sdk env ownerId expectedRevision policy).Spares part := by
  simp [writeMemoryDefaults, requireActiveOwner, EidolonData.addFact, besidePeople_addFact]

theorem writeProvisionalPolicy_spares (expectedRevision : Option Int) (policy : Json) :
    (writeProvisionalPolicy sdk env ownerId personId expectedRevision policy).Spares part := by
  refine Tx.spares_bind (requirePerson_spares ownerId personId _) (fun row => ?_)
  simp [personRealm]

theorem resolveMemoryRealm_spares (create : Bool) :
    (resolveMemoryRealm env ownerId personId create).Spares part := by
  refine Tx.spares_bind (requirePerson_spares ownerId personId _) (fun person => ?_)
  simp only [checkMemoryEligible, personRealm, Tx.spares_iff, Tx.keeps_bind, Tx.keeps_refuseIf,
    Tx.keeps_read]
  intro _ _ stored
  cases stored with
  | some realm => simp
  | none => simp [bindMemory]

theorem suspendMemory_spares (expectedRevision : Int) :
    (suspendMemory sdk env ownerId personId expectedRevision).Spares part := by
  refine Tx.spares_bind (requirePerson_spares ownerId personId _) (fun person => ?_)
  simp [checkPersonRevision, personRealm]

theorem restoreMemory_spares (expectedRevision : Int) :
    (restoreMemory env ownerId personId expectedRevision).Spares part := by
  refine Tx.spares_bind (requirePerson_spares ownerId personId _) (fun person => ?_)
  simp [checkPersonRevision, checkMemoryEligible, personRealm]

section Voices

variable (policies : VoicePolicies)

theorem retainAll_spares (uuid : Nat) (rows : List PersonRow) :
    (retainAll env uuid rows).Spares part := by
  induction rows generalizing uuid with
  | nil => exact ⟨trivial⟩
  | cons row rows induction =>
      simp only [retainAll, Tx.spares_iff, Tx.keeps_bind, besidePeople_writePerson,
        besidePeople_auditPerson]
      exact (induction (uuid + 1)).all

omit shows in
theorem recognitionSnapshot_spares :
    (recognitionSnapshot sdk env policies ownerId).Spares part := by
  simp [recognitionSnapshot]

omit shows in
theorem requireVoicePerson_spares :
    (requireVoicePerson ownerId personId).Spares part := by
  simp [requireVoicePerson, requireActiveOwner, getPerson]

theorem discoverNew_spares (policy : CandidateDiscoveryPolicy) (owner : OwnerRow)
    (request : CandidateDiscovery) :
    (discoverNew sdk env policies policy owner request).Spares part := by
  simp only [discoverNew, insertDiscovered, selectObservations, getPerson, getPersonDeletion,
    Tx.spares_iff, Tx.keeps_bind, Tx.keeps_refuseIf]
  intro _
  refine (recognitionSnapshot_spares sdk env _ policies).keeps ?_
  rintro ⟨revision, persons⟩
  simp only [Tx.keeps_read, Tx.keeps_mapError]
  intros
  refine (candidateCapacity_spares sdk env _ _).keeps (fun _ => ?_)
  refine (insertNewPerson_spares sdk env _ _).keeps (fun person => ?_)
  simp

theorem discoverCandidate_spares (request : CandidateDiscovery) :
    (discoverCandidate sdk env policies ownerId request).Spares part := by
  simp only [discoverCandidate, requireActiveOwner, selectObservations, Tx.spares_iff,
    Tx.keeps_bind, Tx.keeps_require, Tx.keeps_refuseIf, keeps_getOwner, Tx.keeps_read]
  intro policy _ _ _ owner _ prior
  cases prior with
  | nil => exact (discoverNew_spares sdk env policies policy owner request).all
  | cons prior rest =>
      simp only [Tx.keeps_bind, Tx.keeps_refuseIf]
      intro _
      refine (requireVoicePerson_spares _ _).keeps (fun person => ?_)
      simp [getProfile]

theorem preparePromotedMemory_spares (person : PersonRow) :
    (preparePromotedMemory sdk env person).Spares part := by
  simp only [preparePromotedMemory, personRealm, Tx.spares_iff, Tx.keeps_bind, keeps_getOwner,
    Tx.keeps_require, keeps_validated, Tx.keeps_ite, Tx.keeps_read, Tx.keeps_done, implies_true,
    and_true]
  intro _ _ _ _ _ _ realm
  cases realm.filter MemoryRealmRow.isPreparable with
  | some realm => simp
  | none => trivial

theorem promoteCandidate_spares (person : PersonRow) (rows : List CandidateVoiceObservationRow)
    (value : SpeakerObservation) :
    (promoteCandidate sdk env policies person rows value).Spares part := by
  unfold promoteCandidate
  split
  · simp
  · simp only [Tx.spares_iff, Tx.keeps_bind, besidePeople_writeEvidence]
    refine (preparePromotedMemory_spares sdk env _).keeps (fun _ => ?_)
    simp [EidolonData.addFact, besidePeople_addFact]

theorem recordCandidateEvidence_spares (request : CandidateEvidence) :
    (recordCandidateEvidence sdk env policies ownerId request).Spares part := by
  have checks : ∀ person rows,
      (checkEvidence sdk env policies ownerId person rows request).Spares part := by
    intro person rows
    simp only [checkEvidence, selectObservations, Tx.spares_iff, Tx.keeps_bind, Tx.keeps_refuseIf]
    intro _ _
    refine (recognitionSnapshot_spares sdk env _ policies).keeps ?_
    rintro ⟨revision, persons⟩
    simp
  simp only [recordCandidateEvidence, selectObservations, Tx.spares_iff, Tx.keeps_bind,
    Tx.keeps_refuseIf]
  intro _
  refine (requireVoicePerson_spares _ _).keeps (fun person => ?_)
  simp only [Tx.keeps_read]
  intro _ rows previous
  cases previous with
  | cons previous rest => simp
  | nil =>
      simp only [Tx.keeps_bind]
      refine (checks person rows).keeps (fun candidate => ?_)
      simp only [besidePeople_insertObservation, EidolonData.addFact, Tx.keeps_modify,
        besidePeople_addFact, implies_true, true_and]
      exact (promoteCandidate_spares sdk env _ _ _ _).keeps (fun _ => trivial)

omit shows in
theorem ownedEnrollment_spares (enrollmentId : String) :
    (ownedEnrollment ownerId enrollmentId).Spares part := by
  simp [ownedEnrollment, requireActiveOwner, getEnrollment]

theorem createEnrollment_spares (request : EnrollmentCreate) :
    (createEnrollment sdk env ownerId request).Spares part := by
  simp only [createEnrollment, requireActiveOwner, getEnrollment, profileOfPerson, Tx.spares_iff,
    Tx.keeps_bind, keeps_getOwner, Tx.keeps_require]
  intro _ _ _
  refine (requireVoicePerson_spares _ _).keeps (fun person => ?_)
  simp only [Tx.keeps_read]
  intro existing
  cases existing with
  | some row => simp
  | none => simp

theorem completeEnrollment_spares (enrollmentId : String) (request : EnrollmentCompletion) :
    (completeEnrollment sdk env ownerId enrollmentId request).Spares part := by
  have stores : ∀ row stored displayName template,
      (storeEnrolled row stored displayName template).Spares part := by
    intro row stored displayName template
    cases stored with
    | some profile => simp [storeEnrolled, besidePeople_mapPeople]
    | none => simp [storeEnrolled]
  simp only [completeEnrollment, Tx.spares_iff, Tx.keeps_bind, Tx.keeps_require, Tx.keeps_refuseIf]
  intro pcm _ _ _
  refine (ownedEnrollment_spares ownerId enrollmentId).keeps (fun row => ?_)
  simp only [getProfile, profileOfPerson, checkCollecting, checkSamples, Tx.keeps_ite,
    Tx.keeps_bind, Tx.keeps_read, Tx.keeps_require, Tx.keeps_refuseIf, Tx.pure_eq, Tx.keeps_done,
    implies_true, true_and]
  intro _ _
  refine (requireVoicePerson_spares _ _).keeps (fun person => ?_)
  simp only [keeps_validated]
  intros
  refine (stores _ _ _ _).keeps (fun profile => ?_)
  simp [storeRecording, closeEnrollments, besidePeople_mapPeople]

theorem VoiceprintCommand.session_spares (command : VoiceprintCommand) :
    (command.session sdk env policies ownerId).Spares part := by
  cases command with
  | retainExpiredCandidates =>
      simp only [VoiceprintCommand.session, EidolonData.retainExpiredCandidates,
        requireActiveOwner, Tx.spares_iff, Tx.keeps_bind, keeps_getOwner, Tx.keeps_require,
        Tx.keeps_read]
      intros
      exact (retainAll_spares env 0 _).all
  | discoverCandidate request =>
      exact spares_effect (((discoverCandidate_spares sdk env ownerId policies request)))
  | recordCandidateEvidence request =>
      exact spares_effect
        (((recordCandidateEvidence_spares sdk env ownerId policies request)))
  | createEnrollment request =>
      exact spares_effect (((createEnrollment_spares sdk env ownerId request)))
  | readEnrollment enrollmentId =>
      refine spares_effect (((Tx.spares_bind (ownedEnrollment_spares ownerId _) ?_)))
      intro row
      simp
  | cancelEnrollment enrollmentId =>
      refine spares_effect (((Tx.spares_bind (ownedEnrollment_spares ownerId _) ?_)))
      intro row
      simp
  | addSample enrollmentId sampleId sample =>
      refine spares_effect (((Tx.spares_bind (ownedEnrollment_spares ownerId _) ?_)))
      intro row
      simp only [checkCollecting, Tx.spares_iff, Tx.keeps_bind, Tx.keeps_refuseIf]
      intro _
      cases row.samplesJson.get? sampleId with
      | some stored => simp
      | none => simp
  | completeEnrollment enrollmentId request =>
      exact spares_effect
        (((completeEnrollment_spares sdk env ownerId enrollmentId request)))
  | deleteProfile profileId =>
      simp only [VoiceprintCommand.session, EidolonData.deleteProfile, requireActiveOwner,
        getProfile, Tx.spares_iff, Tx.keeps_bind, keeps_getOwner, Tx.keeps_require, Tx.keeps_read,
        Tx.keeps_refuseIf]
      intro _ _ _ stored _
      cases stored with
      | none => trivial
      | some profile => simp [besidePeople_mapPeople]
  | expireEnrollments =>
      simp [VoiceprintCommand.session, EidolonData.expireEnrollments, besidePeople_mapPeople]

end Voices

end People

section Photos

variable {γ : Type} {part : Tables → γ} [Tables.HidesPeople part] (sdk : Sdk) (env : Env)
  (ownerId personId : String)

theorem archivePerson_spares (expectedRevision : Int) :
    (archivePerson sdk env ownerId personId expectedRevision).Spares part := by
  refine Tx.spares_bind (requirePerson_spares ownerId personId _) (fun row => ?_)
  simp [checkPersonRevision, hidesPeople_mapPeople]

theorem permanentlyDelete_spares (expectedRevision : Int) (complete : Bool) :
    (permanentlyDelete env ownerId personId expectedRevision complete).Spares part := by
  simp only [permanentlyDelete, requireActiveOwner, getPersonDeletion, Tx.spares_iff, Tx.keeps_bind,
    keeps_getOwner, Tx.keeps_require, Tx.keeps_read]
  intro _ _ _ stored
  cases stored with
  | some receipt =>
      simp [completeDeletion, getPerson, besidePeople_withoutRealms, hidesPeople_mapPeople]
  | none =>
      simp only [Tx.keeps_bind, Tx.keeps_refuseIf]
      intro _
      exact (requestDeletion_spares env ownerId personId expectedRevision).all

theorem changeFace_spares (expectedRevision : Int) (data : Option (List UInt8)) :
    (changeFace sdk env ownerId personId expectedRevision data).Spares part := by
  refine Tx.spares_bind (requirePerson_spares ownerId personId _) (fun person => ?_)
  simp [getFace, storeFace, hidesPeople_mapPeople]

theorem replaceFace_spares (expectedRevision : Int) (imageBase64 : String) :
    (replaceFace sdk env ownerId personId expectedRevision imageBase64).Spares part := by
  refine Tx.spares_bind (requirePerson_spares ownerId personId _) (fun person => ?_)
  simp only [Tx.spares_iff, Tx.keeps_bind, Tx.keeps_lift]
  intro data _
  exact (changeFace_spares sdk env ownerId personId _ _).all

end Photos

end EidolonData
