import EidolonData.Effects.Commands
import EidolonData.Effects.PeopleCascade

/-!
# Runs and the people

Whatever the command, a call that commits moves the file of each Person as
the life of a Person allows, and the voices as the outcomes of the voice
commands, of the archiving and of the deletions allow.
-/

namespace EidolonData

open Relational

/-- What the commands can do to the voices of the Persons. -/
inductive VoicesMoved (sdk : Sdk) (env : Env) (t t' : Tables) : Command → Prop where
  | kept (command : Command) (same : t'.voices = t.voices) : VoicesMoved sdk env t t' command
  | made {policies : VoicePolicies} {ownerId : String} {command : VoiceprintCommand}
      (aside : VoicesAside t t') (made : VoiceMade sdk env ownerId t.people command t'.people) :
      VoicesMoved sdk env t t' (.runVoiceprint policies ownerId command)
  | discovered {policies : VoicePolicies} {ownerId : String} {request : CandidateDiscovery}
      (discovered : Discovered sdk env policies ownerId request (sdk.discoveryPersonId ownerId
        request.observation.sessionId request.observation.turnId) t t') :
      VoicesMoved sdk env t t' (.runVoiceprint policies ownerId (.discoverCandidate request))
  | recorded {policies : VoicePolicies} {ownerId : String} {request : CandidateEvidence}
      {person : PersonRow} {candidate : SpeakerCandidate}
      (recorded : EvidenceRecorded sdk env policies ownerId request person candidate t t') :
      VoicesMoved sdk env t t' (.runVoiceprint policies ownerId (.recordCandidateEvidence request))
  | erased {ownerId personId : String} {expectedRevision : Int}
      (voices : t'.voices = (t.people.eraseBiometrics personId).voices) :
      VoicesMoved sdk env t t' (.archivePerson ownerId personId expectedRevision)
  | pruned (command : Command) (pruned : VoicesPruned t.people t'.people) :
      VoicesMoved sdk env t t' command
  | faced (command : Command) {row : PersonFaceRow} {person : PersonRow}
      {faces : Table PersonFaceRow} (voices : t'.voices = { t.voices with faces := faces })
      (personStored : t.people.persons.get? row.personId = some person)
      (personKept : t'.people.persons = t.people.persons) (alive : person.deleted = false)
      (stores : Table.Stores t.people.personFaces faces row) : VoicesMoved sdk env t t' command

section Commands

variable (sdk : Sdk) (env : Env) {t : Tables}

theorem VoicesMoved.of_spares {α : Type} {program : Session α}
    (spares : program.Spares Tables.voices)
    (command : Command) : program.Ensures t (fun _ t' => VoicesMoved sdk env t t' command) := by
  refine (spares.ensures t).mono ?_
  intro _ t' same
  exact .kept command same

theorem archivePerson_erases (ownerId personId : String) (expectedRevision : Int) :
    (archivePerson sdk env ownerId personId expectedRevision).Ensures t (fun _ t' =>
      t'.voices = (t.people.eraseBiometrics personId).voices) := by
  simp only [archivePerson, checkPersonRevision, Tx.ensures_bind, Tx.ensures_refuseIf,
    Tx.ensures_modify, ensures_writePerson_file, ensures_auditPerson]
  refine ((requirePerson_voices ownerId personId _).ensures t).mono ?_
  intro person t₁ same _
  have deactivated : (deactivateMemory sdk ownerId personId).Spares Tables.voices :=
    ⟨(voices_deactivateMemory sdk ownerId personId).mpr trivial⟩
  refine (deactivated.ensures _).mono ?_
  intro _ t₂ again
  rw [voices_addFact, same] at again
  have voices : t₂.people.voices = t.people.voices := again
  show (t₂.people.eraseBiometrics personId).voices = _
  simp only [People.voices, Voices.mk.injEq] at voices
  simp only [People.voices, People.eraseBiometrics, voices]

theorem permanentlyDelete_voices (integrity : t.Integrity) (sourced : t.people.Sourced)
    (ownerId personId : String) (expectedRevision : Int) (complete : Bool) :
    (permanentlyDelete env ownerId personId expectedRevision complete).Ensures t (fun _ t' =>
      VoicesMoved sdk env t t'
        (.permanentlyDelete ownerId personId expectedRevision complete)) := by
  simp only [permanentlyDelete, getPersonDeletion, getPerson, Tx.ensures_bind, Tx.ensures_read]
  refine (requireActiveOwner_effect t ownerId).mono ?_
  rintro owner t₁ ⟨unchanged, -⟩
  rw [unchanged]
  cases stored : t.people.personDeletions.get? personId with
  | none =>
      simp only [Tx.ensures_bind, Tx.ensures_refuseIf]
      intro _
      exact .of_spares sdk env (requestDeletion_voices env ownerId personId expectedRevision) _
  | some receipt =>
      simp only [Tx.ensures_bind, Tx.ensures_read, Tx.ensures_refuseIf, Tx.ensures_ite, Tx.pure_eq,
        Tx.ensures_done, Tx.ensures_require]
      intro _ _
      refine ⟨fun _ => .kept _ rfl, fun _ => ⟨?_, fun _ => .kept _ rfl⟩⟩
      intro _ row _
      simp only [completeDeletion, Tx.ensures_bind, ensures_auditPerson, Tx.ensures_modify,
        Tx.pure_eq, Tx.ensures_done]
      refine .pruned _ ?_
      have pruned : VoicesPruned t.people (People.cascade
          (t.workspace.withoutRealms (fun realm => realm.realmId = receipt.realmId &&
            realm.ownerId = ownerId && realm.personId = some personId))
          { t.people with
            persons := t.people.persons.retain (fun person => person.personId ≠ personId) }) := by
        refine cascade_pruned integrity.people sourced rfl ?_
        intro other person found
        rw [Table.get?_retain] at found
        exact (Option.filter_eq_some_iff.mp found).1
      exact ⟨pruned.observations, pruned.profiles, pruned.recordings, pruned.enrollments,
        pruned.faces⟩

theorem stores_face (faces : Table PersonFaceRow) (row : PersonFaceRow)
    (sameOwner : ∀ face, faces.get? row.personId = some face → face.ownerId = row.ownerId) :
    Table.Stores faces
      (if faces.has row.personId then
        faces.modify row.personId (fun face =>
          { face with
            storageKey := row.storageKey
            sha256 := row.sha256
            revision := row.revision })
      else faces.insert row) row := by
  cases taken : faces.has row.personId with
  | true =>
      obtain ⟨face, found⟩ := Table.has_iff.mp taken
      have keyed : face.personId = row.personId := Table.key_of_get? found
      intro other
      rw [if_pos rfl, Table.get?_modify]
      by_cases same : other = row.personId
      · subst same
        rw [if_pos rfl, found, Option.map_some, keyed, sameOwner face found]
        exact (if_pos rfl).symm
      · rw [if_neg same]
        exact (if_neg same).symm
  | false =>
      rw [if_neg Bool.false_ne_true]
      exact Table.stores_insert (Table.has_eq_false_iff.mp taken)

theorem changeFace_voices (command : Command) (ownerId personId : String) (expectedRevision : Int)
    (data : Option (List UInt8)) :
    (changeFace sdk env ownerId personId expectedRevision data).Ensures t (fun _ t' =>
      VoicesMoved sdk env t t' command ∧ ∀ other, t'.file other = t.file other) := by
  simp only [changeFace, requirePerson, getPerson, getFace, storeFace, Tx.ensures_bind,
    Tx.ensures_require, Tx.ensures_refuseIf, Tx.ensures_read, Tx.ensures_modify,
    ensures_auditPerson, Tx.pure_eq, Tx.ensures_done]
  refine (requireActiveOwner_effect t ownerId).mono ?_
  rintro owner t₁ ⟨unchanged, -⟩ person named _ _
  rw [unchanged] at named ⊢
  obtain ⟨personStored, accepted⟩ := Option.filter_eq_some_iff.mp named
  have alive : person.deleted = false := by simpa using (Bool.and_eq_true_iff.mp accepted).2
  refine ⟨?_, fun _ => file_of_tables rfl rfl rfl⟩
  cases found : t.people.personFaces.get? personId with
  | some face =>
      have keyed : face.personId = personId := Table.key_of_get? found
      have stores := stores_face t.people.personFaces { face with
        storageKey := data.map (fun _ => "person-faces/" ++ (env.uuid 1).hex ++ ".jpg")
        sha256 := data.map sdk.sha256
        revision := face.revision + 1 } ?_
      · exact .faced _ rfl (keyed.symm ▸ personStored) rfl alive stores
      · intro other stored
        rw [keyed, found] at stored
        cases stored
        rfl
  | none =>
      have stores := stores_face t.people.personFaces
        { personId := personId
          ownerId := ownerId
          storageKey := data.map (fun _ => "person-faces/" ++ (env.uuid 1).hex ++ ".jpg")
          sha256 := data.map sdk.sha256
          revision := 0 + 1 } ?_
      · exact .faced _ rfl personStored rfl alive stores
      · intro other stored
        rw [found] at stored
        cases stored

structure PeopleMoved (command : Command) (t t' : Tables) : Prop where
  files : t.Moves sdk env command t'
  voices : VoicesMoved sdk env t t' command

theorem PeopleMoved.of_spares {program : Session Unit} {command : Command}
    (spares : program.Spares Tables.beside) :
    program.Ensures t (fun _ t' => PeopleMoved sdk env command t t') := by
  refine (spares.ensures t).mono ?_
  intro _ t' same
  refine ⟨.of_same (fun _ => file_of_beside same), .kept _ ?_⟩
  exact congrArg (fun part => part.people.voices) same

theorem PeopleMoved.of_others {program : Session Unit} {command : Command}
    (spares : program.Spares (fun t => (t.people, t.workspace))) :
    program.Ensures t (fun _ t' => PeopleMoved sdk env command t t') := by
  refine (spares.ensures t).mono ?_
  intro _ t' same
  obtain ⟨people, workspace⟩ := Prod.mk.injEq _ _ _ _ ▸ same
  refine ⟨.of_same (fun _ => ?_), .kept _ (congrArg People.voices people)⟩
  rw [Tables.file, people, workspace]
  rfl

/-- The commands on enrollments and profiles leave the files. -/
theorem PeopleMoved.of_made {α : Type} {program : Session α} {policies : VoicePolicies}
    {ownerId : String} {command : VoiceprintCommand}
    (makes : program.Makes sdk env ownerId t command) :
    program.Ensures t (fun _ t' =>
      PeopleMoved sdk env (.runVoiceprint policies ownerId command) t t') := by
  refine makes.mono ?_
  rintro _ t' ⟨aside, made⟩
  have realms : t'.workspace.memoryRealms = t.workspace.memoryRealms :=
    congrArg Workspace.memoryRealms aside.workspace
  exact ⟨.of_same (fun _ => file_of_tables aside.persons aside.receipts realms), .made aside made⟩

theorem PeopleMoved.of_moves {α : Type} {program : Session α} {command : Command}
    (moves : program.Ensures t (fun _ t' => t.Moves sdk env command t'))
    (voices : program.Ensures t (fun _ t' => VoicesMoved sdk env t t' command)) :
    (effect program).Ensures t (fun _ t' => PeopleMoved sdk env command t t') := by
  refine (ensures_effect t _ _).mpr ((moves.and voices).mono ?_)
  rintro _ t' ⟨moved, left⟩
  exact ⟨moved, left⟩

theorem VoiceprintCommand.session_people (integrity : t.Integrity) (filed : t.Filed)
    (policies : VoicePolicies) (ownerId : String) (command : VoiceprintCommand) :
    (command.session sdk env policies ownerId).Ensures t (fun _ t' =>
      PeopleMoved sdk env (.runVoiceprint policies ownerId command) t t') := by
  have ran : ∀ {α : Type} {program : Session α} {command : Command},
      program.Ensures t (fun _ t' => PeopleMoved sdk env command t t') →
        (effect program).Ensures t (fun _ t' => PeopleMoved sdk env command t t') :=
    fun moved => (ensures_effect t _ _).mpr moved
  cases command with
  | retainExpiredCandidates =>
      refine ((retainExpiredCandidates_moves sdk env t filed policies ownerId).and
        ((retainExpiredCandidates_voices env ownerId policies).ensures t)).mono ?_
      rintro _ t' ⟨moved, same⟩
      exact ⟨moved, .kept _ same⟩
  | discoverCandidate request =>
      refine .of_moves sdk env (discoverCandidate_moves sdk env policies ownerId t filed request) ?_
      refine (discoverCandidate_effect sdk env policies ownerId t filed request).mono ?_
      rintro _ t' (⟨rfl, -⟩ | discovered)
      · exact .kept _ rfl
      · exact .discovered discovered
  | recordCandidateEvidence request =>
      refine .of_moves sdk env
        (recordCandidateEvidence_moves sdk env policies ownerId t filed request) ?_
      refine (recordCandidateEvidence_effect sdk env policies ownerId t filed request).mono ?_
      rintro _ t' (⟨rfl, -⟩ | ⟨person, candidate, -, recorded⟩)
      · exact .kept _ rfl
      · exact .recorded recorded
  | createEnrollment request =>
      exact ran (.of_made sdk env (createEnrollment_made sdk env t ownerId request))
  | readEnrollment enrollmentId =>
      exact ran (.of_made sdk env (readEnrollment_made sdk env t ownerId enrollmentId))
  | cancelEnrollment enrollmentId =>
      exact ran (.of_made sdk env (cancelEnrollment_made sdk env t ownerId enrollmentId))
  | addSample enrollmentId sampleId sample =>
      exact ran (.of_made sdk env (addSample_made sdk env t ownerId enrollmentId sampleId sample))
  | completeEnrollment enrollmentId request =>
      exact ran (.of_made sdk env (completeEnrollment_made sdk env t ownerId
        integrity.people.profilePerPerson enrollmentId request))
  | deleteProfile profileId =>
      exact .of_made sdk env (deleteProfile_made sdk env t ownerId profileId)
  | expireEnrollments => exact .of_made sdk env (expireEnrollments_made sdk env t ownerId)

theorem Command.session_people (integrity : t.Integrity) (filed : t.Filed)
    (sourced : t.people.Sourced) (command : Command) :
    (command.session sdk env).Ensures t (fun _ t' => PeopleMoved sdk env command t t') := by
  have confined := command.session_confined sdk env
  cases written : command.aggregate with
  | workspace =>
      rw [written] at confined
      exact .of_spares sdk env (spares_view confined Prod.snd)
  | teams =>
      rw [written] at confined
      exact .of_others sdk env (spares_view confined (fun t => (t.people, t.workspace)))
  | home =>
      rw [written] at confined
      exact .of_others sdk env (spares_view confined (fun t => (t.people, t.workspace)))
  | several =>
      rcases Command.of_several written with ⟨ownerId, rfl⟩ | ⟨ownerId, rfl⟩ | ⟨request, rfl⟩ |
        ⟨ownerId, companionId, allowDefault, rfl⟩
      · exact .of_moves sdk env (archiveOwner_moves sdk env filed ownerId) (.of_spares sdk env
          (spares_view (archiveOwner_spares env ownerId) (fun part => part.2.1.voices)) _)
      · refine (ensures_effect t _ _).mpr
          ((deleteOwner_people sdk env integrity filed sourced ownerId).mono ?_)
        rintro _ t' ⟨moved, same | pruned⟩
        · exact ⟨moved, .kept _ same⟩
        · exact ⟨moved, .pruned _ pruned⟩
      · exact .of_spares sdk env (spares_effect
          (initializeOwnerWorkspace_spares sdk env (fun _ => rfl) request))
      · refine (ensures_effect t _ _).mpr ((deleteCompanion_people env integrity sourced ownerId
          companionId allowDefault).mono ?_)
        rintro _ t' ⟨files, voices⟩
        exact ⟨.of_same files, .pruned _ voices⟩
  | people =>
      cases command with
      | createPerson ttl ownerId request =>
          exact .of_moves sdk env (createPerson_moves sdk env t filed ttl ownerId request)
            (.of_spares sdk env (createPerson_voices sdk env ownerId ttl request) _)
      | updatePerson ttl ownerId personId request =>
          exact .of_moves sdk env (updatePerson_moves sdk env t filed ttl ownerId personId request)
            (.of_spares sdk env (updatePerson_voices sdk env ownerId personId ttl request) _)
      | retireCandidate ownerId personId revision =>
          exact .of_moves sdk env (retireCandidate_moves sdk env t filed ownerId personId revision)
            (.of_spares sdk env (retireCandidate_voices env ownerId personId revision) _)
      | archivePerson ownerId personId revision =>
          exact .of_moves sdk env (archivePerson_moves sdk env t filed ownerId personId revision)
            ((archivePerson_erases sdk env ownerId personId revision).mono
              (fun _ _ voices => .erased voices))
      | restorePerson ownerId personId revision =>
          exact .of_moves sdk env (restorePerson_moves sdk env t filed ownerId personId revision)
            (.of_spares sdk env (restorePerson_voices sdk env ownerId personId revision) _)
      | permanentlyDelete ownerId personId revision complete =>
          exact .of_moves sdk env
            (permanentlyDelete_moves sdk env t filed integrity ownerId personId revision complete)
            (permanentlyDelete_voices sdk env integrity sourced ownerId personId revision complete)
      | writeMemoryDefaults ownerId revision policy =>
          exact .of_moves sdk env (writeMemoryDefaults_moves sdk env t ownerId revision policy)
            (.of_spares sdk env (writeMemoryDefaults_voices sdk env ownerId revision policy) _)
      | writeProvisionalPolicy ownerId personId revision policy =>
          exact .of_moves sdk env
            (writeProvisionalPolicy_moves sdk env t filed ownerId personId revision policy)
            (.of_spares sdk env
              (writeProvisionalPolicy_voices sdk env ownerId personId revision policy) _)
      | resolveMemoryRealm ownerId personId create =>
          exact .of_moves sdk env
            (resolveMemoryRealm_moves sdk env t filed ownerId personId create)
            (.of_spares sdk env (resolveMemoryRealm_voices env ownerId personId create) _)
      | suspendMemory ownerId personId revision =>
          exact .of_moves sdk env (suspendMemory_moves sdk env t filed ownerId personId revision)
            (.of_spares sdk env (suspendMemory_voices sdk env ownerId personId revision) _)
      | restoreMemory ownerId personId revision =>
          exact .of_moves sdk env (restoreMemory_moves sdk env t filed ownerId personId revision)
            (.of_spares sdk env (restoreMemory_voices env ownerId personId revision) _)
      | runVoiceprint policies ownerId command =>
          exact command.session_people sdk env integrity filed policies ownerId
      | replaceFace ownerId personId revision imageBase64 =>
          refine (ensures_effect t _ _).mpr ?_
          simp only [EidolonData.replaceFace, Tx.ensures_bind, Tx.ensures_lift]
          refine (requirePerson_file t filed false).mono ?_
          rintro _ t₁ ⟨unchanged, -⟩ data _
          rw [unchanged]
          refine (changeFace_voices sdk env (.replaceFace ownerId personId revision imageBase64)
            ownerId personId revision _).mono ?_
          rintro _ t' ⟨voices, same⟩
          exact ⟨.of_same same, voices⟩
      | deleteFace ownerId personId revision =>
          refine (ensures_effect t _ _).mpr
            ((changeFace_voices sdk env (.deleteFace ownerId personId revision) ownerId personId
              revision none).mono ?_)
          rintro _ t' ⟨voices, same⟩
          exact ⟨.of_same same, voices⟩
      | _ => cases written

theorem Command.session_erases (command : Command) :
    (command.session sdk env).Ensures t (fun _ t' => ∀ ownerId personId expectedRevision,
      command = .archivePerson ownerId personId expectedRevision →
        t'.voices = (t.people.eraseBiometrics personId).voices) := by
  cases command with
  | archivePerson ownerId personId expectedRevision =>
      refine (ensures_effect t _ _).mpr
        ((archivePerson_erases sdk env ownerId personId expectedRevision).mono ?_)
      rintro _ t' voices _ _ _ ⟨⟩
      exact voices
  | _ =>
      intro _ _ _ _ _ _ archives
      cases archives

end Commands

end EidolonData
