import EidolonData.Effects.PersonFrames
import EidolonData.Effects.Persons

/-!
# Effects of the voiceprint and photo commands on the workspace

A discovery binds the realm of the candidate it creates, and new evidence may
prepare the realm of the candidate it promotes.  No other of these commands
writes the workspace.
-/

namespace EidolonData

open Relational

variable (sdk : Sdk) (permits : Permits) (env : Env) (t : Tables) (policies : VoicePolicies)

theorem recognitionSnapshot_readOnly (ownerId : String) :
    (recognitionSnapshot sdk env policies ownerId).Ensures t (fun _ t' => t' = t) := by
  simp [recognitionSnapshot]

theorem requireVoicePerson_effect (ownerId personId : String) :
    (requireVoicePerson ownerId personId).Ensures t (fun person t' =>
      t' = t ∧ t.people.persons.get? personId = some person ∧ person.ownerId = ownerId ∧
        person.status = .active ∧
        ∃ owner, t.workspace.owners.get? ownerId = some owner ∧ owner.status = .active) := by
  simp only [requireVoicePerson, getPerson, Tx.ensures_bind, Tx.ensures_read, Tx.ensures_require,
    Tx.ensures_refuseIf, Tx.pure_eq, Tx.ensures_done, not_not]
  refine (requireActiveOwner_effect t ownerId).mono ?_
  intro owner t₁ outcome person stored alive
  obtain ⟨unchanged, found, active, _⟩ := outcome
  subst unchanged
  obtain ⟨held, accepted⟩ := Option.filter_eq_some_iff.mp stored
  simp only [Bool.and_eq_true, decide_eq_true_eq] at accepted
  exact ⟨rfl, held, accepted.2, alive, owner, found, active⟩

theorem insertDiscovered_changes (owner : OwnerRow) (request : CandidateDiscovery)
    (personId : String) (found : t.workspace.owners.get? owner.ownerId = some owner)
    (active : owner.status = .active) :
    (insertDiscovered sdk env owner request personId).Ensures t
      (fun _ t' => Changes sdk permits t.workspace t'.workspace) := by
  simp only [insertDiscovered, insertObservation, insertProfile, Tx.ensures_bind, Tx.pure_eq,
    Tx.ensures_done]
  refine (insertNewPerson_changes sdk permits env t owner _ found active).mono ?_
  intro person t₁ changes
  rw [ensures_insert]
  intro _
  rw [ensures_insert]
  intro _
  exact changes

theorem discoverCandidate_changes (ownerId : String) (request : CandidateDiscovery) :
    (discoverCandidate sdk env policies ownerId request).Ensures t
      (fun _ t' => Changes sdk permits t.workspace t'.workspace) := by
  simp only [discoverCandidate, selectObservations, Tx.ensures_bind, Tx.ensures_require,
    Tx.ensures_refuseIf]
  intro policy _ _
  refine (requireActiveOwner_effect t ownerId).mono ?_
  intro owner t₁ ⟨unchanged, found, active, stored⟩
  subst unchanged stored
  rw [Tx.ensures_read]
  split
  · simp only [Tx.ensures_bind, Tx.ensures_refuseIf]
    intro _
    refine (requireVoicePerson_effect t₁ _ _).mono ?_
    rintro person t₂ ⟨rfl, -⟩
    simp only [getProfile, Tx.ensures_read, Tx.pure_eq, Tx.ensures_done]
    intro _
    exact .refl
  · simp only [discoverNew, selectObservations, getPerson, getPersonDeletion, Tx.ensures_bind,
      Tx.ensures_refuseIf]
    intro _
    refine (recognitionSnapshot_readOnly sdk env t₁ policies _).mono ?_
    rintro ⟨revision, persons⟩ t₂ unchanged
    subst unchanged
    simp only [Tx.ensures_read, Tx.ensures_mapError]
    intro _ _ _ _ _ _ _
    refine (candidateCapacity_readOnly sdk env t₂ _ _).mono ?_
    intro _ t₃ unchanged
    subst unchanged
    exact insertDiscovered_changes sdk permits env t₃ owner request _ found active

theorem preparePromotedMemory_changes (person : PersonRow)
    (active : ∃ owner, t.workspace.owners.get? person.ownerId = some owner ∧
      owner.status = .active) :
    (preparePromotedMemory sdk env person).Ensures t
      (fun _ t' => Changes sdk permits t.workspace t'.workspace) := by
  simp only [preparePromotedMemory, Tx.ensures_bind, ensures_getOwner, Tx.ensures_require,
    ensures_validated, Tx.ensures_ite, Tx.ensures_done]
  intro owner _ defaults _
  refine ⟨?_, fun _ => .refl⟩
  intro _
  refine (personRealm_effect t person.ownerId person.personId).mono ?_
  intro stored t₁ outcome
  obtain ⟨unchanged, realmFound⟩ := outcome
  subst unchanged
  split
  · next realm preparable =>
      obtain ⟨isRealm, -⟩ := Option.filter_eq_some_iff.mp preparable
      obtain ⟨found, owned, personal⟩ := realmFound realm isRealm
      simp only [Tx.ensures_bind, ensures_auditPerson, Tables.workspace_addFact]
      refine (writeRealm_change sdk permits t₁ realm _ found owned personal active ?_).mono ?_
      · rfl
      intro _ t₂ change
      exact .single change
  · exact (Tx.ensures_done _ _ _).mpr .refl

theorem promoteCandidate_changes (person : PersonRow) (rows : List CandidateVoiceObservationRow)
    (value : SpeakerObservation)
    (active : ∃ owner, t.workspace.owners.get? person.ownerId = some owner ∧
      owner.status = .active) :
    (promoteCandidate sdk env policies person rows value).Ensures t
      (fun _ t' => Changes sdk permits t.workspace t'.workspace) := by
  unfold promoteCandidate
  split
  · simp only [writeEvidence, Tx.ensures_bind, Tx.ensures_modify, Tx.pure_eq, Tx.ensures_done,
      Tables.workspace_mapPeople]
    exact .refl
  · simp only [writeEvidence, Tx.ensures_bind, Tx.ensures_modify, ensures_addFact, Tx.pure_eq,
      Tx.ensures_done, Tables.workspace_addFact]
    exact preparePromotedMemory_changes sdk permits env (t.mapPeople _) _ active

theorem recordCandidateEvidence_changes (ownerId : String) (request : CandidateEvidence) :
    (recordCandidateEvidence sdk env policies ownerId request).Ensures t
      (fun _ t' => Changes sdk permits t.workspace t'.workspace) := by
  have checks : ∀ (t : Tables) person rows,
      (checkEvidence sdk env policies ownerId person rows request).Ensures t
        (fun _ t' => t' = t) := by
    intro t person rows
    simp only [checkEvidence, selectObservations, Tx.ensures_bind, Tx.ensures_refuseIf]
    intro _ _
    refine (recognitionSnapshot_readOnly sdk env t policies _).mono ?_
    rintro ⟨revision, persons⟩ t₁ rfl
    simp
  simp only [recordCandidateEvidence, selectObservations, Tx.ensures_bind, Tx.ensures_refuseIf]
  intro _
  refine (requireVoicePerson_effect t ownerId _).mono ?_
  intro person t₁ outcome
  obtain ⟨unchanged, _, owned, _, active⟩ := outcome
  subst unchanged
  simp only [Tx.ensures_read]
  intro _
  split
  · simp only [Tx.ensures_bind, Tx.ensures_refuseIf, Tx.pure_eq, Tx.ensures_done]
    intro _
    exact .refl
  · simp only [Tx.ensures_bind, insertObservation]
    refine (checks t₁ person _).mono ?_
    intro candidate t₂ unchanged
    subst unchanged
    rw [ensures_insert]
    intro _
    rw [ensures_addFact]
    refine (promoteCandidate_changes sdk permits env _ policies _ _ _ ?_).mono ?_
    · rw [owned]
      exact active
    intro updated t₃ changes
    exact (Tx.ensures_done _ _ _).mpr changes

section Aside

variable (ownerId personId : String)

theorem retainAll_workspace (uuid : Nat) (rows : List PersonRow) :
    (retainAll env uuid rows).Spares Tables.workspace := by
  induction rows generalizing uuid with
  | nil => exact ⟨trivial⟩
  | cons row rows induction =>
      simp only [retainAll, writePerson, auditPerson, addFact, Tx.spares_iff, Tx.keeps_bind,
        Tx.keeps_modify, Tables.workspace_mapPeople, Tables.workspace_addFact, implies_true,
        true_and]
      exact (induction (uuid + 1)).all

theorem requireVoicePerson_workspace :
    (requireVoicePerson ownerId personId).Spares Tables.workspace := by
  simp [requireVoicePerson, requireActiveOwner, getPerson]

theorem ownedEnrollment_workspace (enrollmentId : String) :
    (ownedEnrollment ownerId enrollmentId).Spares Tables.workspace := by
  simp [ownedEnrollment, requireActiveOwner, getEnrollment]

theorem createEnrollment_workspace (request : EnrollmentCreate) :
    (createEnrollment sdk env ownerId request).Spares Tables.workspace := by
  simp only [createEnrollment, requireActiveOwner, getEnrollment, profileOfPerson, Tx.spares_iff,
    Tx.keeps_bind, keeps_getOwner, Tx.keeps_require]
  intro _ _ _
  refine (requireVoicePerson_workspace _ _).keeps (fun person => ?_)
  simp only [Tx.keeps_read]
  intro existing
  cases existing with
  | some row => simp
  | none => simp [insertEnrollment]

theorem completeEnrollment_workspace (enrollmentId : String) (request : EnrollmentCompletion) :
    (completeEnrollment sdk env ownerId enrollmentId request).Spares Tables.workspace := by
  have stores : ∀ row stored displayName template,
      (storeEnrolled row stored displayName template).Spares Tables.workspace := by
    intro row stored displayName template
    cases stored with
    | some profile => simp [storeEnrolled]
    | none => simp [storeEnrolled, insertProfile]
  simp only [completeEnrollment, Tx.spares_iff, Tx.keeps_bind, Tx.keeps_require, Tx.keeps_refuseIf]
  intro pcm _ _ _
  refine (ownedEnrollment_workspace ownerId enrollmentId).keeps (fun row => ?_)
  simp only [getProfile, profileOfPerson, checkCollecting, checkSamples, Tx.keeps_ite,
    Tx.keeps_bind, Tx.keeps_read, Tx.keeps_require, Tx.keeps_refuseIf, Tx.pure_eq, Tx.keeps_done,
    implies_true, true_and]
  intro _ _
  refine (requireVoicePerson_workspace _ _).keeps (fun person => ?_)
  simp only [keeps_validated]
  intros
  refine (stores _ _ _ _).keeps (fun profile => ?_)
  simp [storeRecording, closeEnrollments, updateEnrollmentRow, auditVoiceprint, addFact]

theorem changeFace_workspace (expectedRevision : Int) (data : Option (List UInt8)) :
    (changeFace sdk env ownerId personId expectedRevision data).Spares Tables.workspace := by
  simp [changeFace, requirePerson, requireActiveOwner, getPerson, getFace, storeFace, auditPerson,
    addFact]

theorem replaceFace_workspace (expectedRevision : Int) (imageBase64 : String) :
    (replaceFace sdk env ownerId personId expectedRevision imageBase64).Spares
      Tables.workspace := by
  simp only [replaceFace, requirePerson, requireActiveOwner, getPerson, Tx.spares_iff,
    Tx.keeps_bind, keeps_getOwner, Tx.keeps_require, Tx.keeps_read, Tx.keeps_lift]
  intros
  exact (changeFace_workspace sdk env ownerId personId _ _).all

end Aside

theorem VoiceprintCommand.session_changes (ownerId : String) (command : VoiceprintCommand) :
    (command.session sdk env policies ownerId).Ensures t
      (fun _ t' => Changes sdk permits t.workspace t'.workspace) := by
  have aside : ∀ {α : Type} {program : Session α}, program.Spares Tables.workspace →
      program.Ensures t (fun _ t' => Changes sdk permits t.workspace t'.workspace) := by
    intro α program spares
    refine (spares.ensures t).mono ?_
    intro _ t' same
    rw [same]
  have run : ∀ {α : Type} {program : Session α},
      program.Ensures t (fun _ t' => Changes sdk permits t.workspace t'.workspace) →
      (effect program).Ensures t (fun _ t' => Changes sdk permits t.workspace t'.workspace) := by
    intro α program changes
    simpa only [effect, Tx.ensures_bind, Tx.pure_eq, Tx.ensures_done] using changes
  cases command with
  | retainExpiredCandidates =>
      apply aside
      simp only [VoiceprintCommand.session, EidolonData.retainExpiredCandidates,
        requireActiveOwner, Tx.spares_iff, Tx.keeps_bind, keeps_getOwner, Tx.keeps_require,
        Tx.keeps_read]
      intros
      exact (retainAll_workspace env 0 _).all
  | discoverCandidate request =>
      exact run (discoverCandidate_changes sdk permits env t policies ownerId request)
  | recordCandidateEvidence request =>
      exact run (recordCandidateEvidence_changes sdk permits env t policies ownerId request)
  | createEnrollment request =>
      exact run (aside (createEnrollment_workspace sdk env ownerId request))
  | readEnrollment enrollmentId =>
      refine run (aside (Tx.spares_bind (ownedEnrollment_workspace ownerId _) ?_))
      intro row
      simp [updateEnrollmentRow]
  | cancelEnrollment enrollmentId =>
      refine run (aside (Tx.spares_bind (ownedEnrollment_workspace ownerId _) ?_))
      intro row
      simp [updateEnrollmentRow]
  | addSample enrollmentId sampleId sample =>
      refine run (aside (Tx.spares_bind (ownedEnrollment_workspace ownerId _) ?_))
      intro row
      simp only [checkCollecting, Tx.spares_iff, Tx.keeps_bind, Tx.keeps_refuseIf]
      intro _
      cases row.samplesJson.get? sampleId with
      | some stored => simp
      | none => simp [updateEnrollmentRow]
  | completeEnrollment enrollmentId request =>
      exact run (aside (completeEnrollment_workspace sdk env ownerId enrollmentId request))
  | deleteProfile profileId =>
      apply aside
      simp only [VoiceprintCommand.session, EidolonData.deleteProfile, requireActiveOwner,
        getProfile, Tx.spares_iff, Tx.keeps_bind, keeps_getOwner, Tx.keeps_require, Tx.keeps_read,
        Tx.keeps_refuseIf]
      intro _ _ _ stored _
      cases stored with
      | none => trivial
      | some profile => simp [auditVoiceprint, addFact]
  | expireEnrollments =>
      apply aside
      simp [VoiceprintCommand.session, EidolonData.expireEnrollments]

end EidolonData
