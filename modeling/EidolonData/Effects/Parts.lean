import EidolonData.Effects.HomeFrames
import EidolonData.Effects.TeamFrames

/-!
# The parts of the database and the commands that write them

For the homes, for the teams, and for the people with their private realms:
the commands of every other service leave them as they are.
-/

namespace EidolonData

open Relational

variable (sdk : Sdk) (env : Env)

section Onboarding

variable {γ : Type} {part : Tables → γ}

theorem loadOnboardingResult_spares (operationId : String) (fingerprint : Option String)
    (owner : OwnerRow) : (loadOnboardingResult operationId fingerprint owner).Spares part := by
  simp [loadOnboardingResult]

variable [Tables.ShowsRealms part]

theorem createOnboarding_spares (aside : ∀ t, part t.besideHome = part t)
    (request : InitializationRequest) (ownerName companionName : String) :
    (createOnboarding sdk env request ownerName companionName).Spares part := by
  have home : ∀ ownerId traceId, (initializeOwnerHome sdk env ownerId traceId).Spares part := by
    intro ownerId traceId
    rw [← funext aside]
    exact spares_view (initializeOwnerHome_spares sdk env ownerId traceId) part
  refine Tx.spares_bind (by simp) (fun _ => ?_)
  refine Tx.spares_bind (by simp) (fun _ => ?_)
  refine Tx.spares_bind (home _ _) (fun _ => ?_)
  refine Tx.spares_bind (by simp) (fun genomeJson => ?_)
  refine Tx.spares_bind (provisionWorkspaceInSession_spares sdk env _) (fun workspace => ?_)
  simp

theorem initializeOwnerWorkspace_spares (aside : ∀ t, part t.besideHome = part t)
    (request : InitializationRequest) :
    (initializeOwnerWorkspace sdk env request).Spares part := by
  simp only [initializeOwnerWorkspace, Tx.spares_iff, Tx.keeps_bind, keeps_check, keeps_getOwner]
  rintro ⟨ownerName, companionName⟩ _ existing
  cases existing with
  | some owner => exact (loadOnboardingResult_spares _ _ _).all
  | none => exact (createOnboarding_spares sdk env aside request ownerName companionName).all

end Onboarding

theorem archiveOwner_outside {γ : Type} {part : Tables → γ}
    (written : ∀ t change, part (t.mapWorkspace change) = part t)
    (added : ∀ t now fact, part (t.addFact now fact) = part t) (ownerId : String) :
    (archiveOwner env ownerId).Spares part := by
  simp [archiveOwner, addFact, written, added]

theorem archiveOwner_spares (ownerId : String) :
    (archiveOwner env ownerId).Spares (fun t => (t.home, t.people, t.teams)) :=
  archiveOwner_outside env (fun _ _ => rfl) (fun _ _ _ => rfl) ownerId

theorem deleteOwner_teams (ownerId : String) :
    (deleteOwner env ownerId).Spares (fun t => t.teams) := by
  simp only [deleteOwner, Tx.spares_iff, Tx.keeps_bind, keeps_getOwner]
  intro stored
  cases stored with
  | none => trivial
  | some owner =>
      simp only [Tx.keeps_bind, Tx.keeps_read, Tx.keeps_modify, addFact, Tx.pure_eq, Tx.keeps_done,
        and_true]
      intro _
      exact ⟨fun _ => rfl, fun _ => rfl, fun _ => rfl⟩

theorem breakCompanionPointers_spares {γ : Type} {part : Tables → γ} [Tables.ShowsRealms part]
    (owner : Option OwnerRow) (companionId : String) :
    (breakCompanionPointers owner companionId).Spares part := by
  cases owner with
  | none => simp [breakCompanionPointers]
  | some owner => simp [breakCompanionPointers]

theorem deleteCompanion_teams (ownerId companionId : String) (allowDefault : Bool) :
    (deleteCompanion env ownerId companionId allowDefault).Spares (fun t => t.teams) := by
  have beside : ∀ owner, (breakCompanionPointers owner companionId).Spares Tables.beside :=
    fun owner => breakCompanionPointers_spares owner companionId
  have teams := fun owner => spares_view (beside owner) Beside.teams
  simp only [deleteCompanion, Tx.spares_iff, Tx.keeps_bind, keeps_getCompanion, Tx.keeps_require,
    keeps_getOwner, Tx.keeps_refuseIf, Tx.keeps_read]
  intros
  refine (teams _).keeps (fun _ => ?_)
  simp only [addFact, Tx.keeps_modify, Tx.pure_eq, Tx.keeps_done, and_true]
  exact ⟨fun _ => rfl, fun _ => rfl⟩

/-- The tables a command writes. -/
inductive Aggregate where
  | workspace
  | people
  | teams
  | home
  /-- Those of several services. -/
  | several
  deriving DecidableEq

def Command.aggregate : Command → Aggregate
  | archiveOwner _ | deleteOwner _ | initializeOwnerWorkspace _ | deleteCompanion _ _ _ => .several
  | createPerson _ _ _ | updatePerson _ _ _ _ | retireCandidate _ _ _ | archivePerson _ _ _
  | restorePerson _ _ _ | permanentlyDelete _ _ _ _ | writeMemoryDefaults _ _ _
  | writeProvisionalPolicy _ _ _ _ | resolveMemoryRealm _ _ _ | suspendMemory _ _ _
  | restoreMemory _ _ _ | runVoiceprint _ _ _ | replaceFace _ _ _ _ | deleteFace _ _ _ => .people
  | writeTeam _ _ => .teams
  | writeHome _ _ => .home
  | _ => .workspace

def Aggregate.Confines (program : Session Unit) : Aggregate → Prop
  | workspace => program.Spares Tables.besideWorkspace
  | people => program.Spares Tables.besidePeople
  | teams => program.Spares Tables.besideTeams
  | home => program.Spares Tables.besideHome
  | several => True

theorem Command.spares_workspace {γ : Type} {part : Tables → γ} [Tables.ShowsRealms part]
    (command : Command) (written : command.aggregate = .workspace) :
    (command.session sdk env).Spares part := by
  cases command with
  | createOwner => exact spares_effect (createOwner_spares env _ _ _ _ _)
  | updateOwner => exact spares_effect (updateOwner_spares env _ _ _ _)
  | renameOwner => exact spares_effect (renameOwner_spares _ _)
  | provisionWorkspace => exact spares_effect (provisionWorkspace_spares sdk env _)
  | provisionCompanion => exact spares_effect (provisionCompanion_spares sdk env _)
  | ensureMemoryRealm => exact spares_effect (ensureMemoryRealm_spares env _ _ _)
  | beginRetirement => exact spares_effect (beginRetirement_spares sdk env _ _ _ _)
  | archiveCompanion => exact spares_effect (archiveCompanion_spares sdk env _ _ _)
  | putAwayCompanion => exact spares_effect (putAwayCompanion_spares sdk env _ _ _ _)
  | restoreCompanion => exact spares_effect (restoreCompanion_spares sdk env _ _ _)
  | setDefaultCompanion => exact spares_effect (setDefaultCompanion_spares env _ _ _)
  | editPersona => exact spares_effect (editPersona_spares sdk env _ _ _)
  | renameCompanion companionId displayName =>
      exact spares_effect (renameCompanion_spares sdk env companionId displayName)
  | restoreChapter companionId genomeId ownerId =>
      exact spares_effect (restoreChapter_spares sdk env companionId genomeId _ ownerId)
  | rollbackToGenome ownerId companionId genomeId =>
      exact spares_effect (rollbackToGenome_spares sdk env ownerId companionId genomeId)
  | resetToOrigin => exact spares_effect (resetToOrigin_spares sdk env _ _)
  | createGenome => exact spares_effect (createGenome_spares sdk env _)
  | recordObservation => exact spares_effect (recordObservation_spares env _)
  | createEvolutionProposal => exact spares_effect (createEvolutionProposal_spares sdk env _)
  | approveEvolution => exact spares_effect (approveEvolution_spares sdk env _ _ _ _)
  | rejectEvolution => exact spares_effect (rejectEvolution_spares env _ _ _ _)
  | bindGuard => exact spares_effect (bindGuard_spares env _ _ _ _ _ _)
  | updateGuardPolicy => exact spares_effect (updateGuardPolicy_spares env _ _ _ _)
  | disableGuard => exact spares_effect (disableGuard_spares env _ _)
  | _ => cases written

/-- The commands that rewrite or remove rows with an object of their own. -/
def Command.handlesObjects : Command → Bool
  | deleteOwner _ | deleteCompanion _ _ _ | archivePerson _ _ _ | permanentlyDelete _ _ _ _
  | replaceFace _ _ _ _ | deleteFace _ _ _ => true
  | _ => false

theorem Command.spares_voices {γ : Type} {part : Tables → γ} [Tables.ShowsPhotos part]
    (command : Command) (written : command.aggregate = .people)
    (other : command.handlesObjects = false) : (command.session sdk env).Spares part := by
  cases command with
  | createPerson => exact spares_effect (createPerson_spares sdk env _ _ _)
  | updatePerson => exact spares_effect (updatePerson_spares sdk env _ _ _ _)
  | retireCandidate => exact spares_effect (retireCandidate_spares env _ _ _)
  | restorePerson => exact spares_effect (restorePerson_spares sdk env _ _ _)
  | writeMemoryDefaults => exact spares_effect (writeMemoryDefaults_spares sdk env _ _ _)
  | writeProvisionalPolicy => exact spares_effect (writeProvisionalPolicy_spares sdk env _ _ _ _)
  | resolveMemoryRealm => exact spares_effect (resolveMemoryRealm_spares env _ _ _)
  | suspendMemory => exact spares_effect (suspendMemory_spares sdk env _ _ _)
  | restoreMemory => exact spares_effect (restoreMemory_spares env _ _ _)
  | runVoiceprint policies ownerId command => exact command.session_spares sdk env ownerId policies
  | archivePerson | permanentlyDelete | replaceFace | deleteFace => cases other
  | _ => cases written

/-- The commands on Persons, their voices and their photos. -/
theorem Command.spares_people {γ : Type} {part : Tables → γ} [Tables.HidesPeople part]
    (command : Command) (written : command.aggregate = .people) :
    (command.session sdk env).Spares part := by
  cases other : command.handlesObjects with
  | false => exact command.spares_voices sdk env written other
  | true =>
      cases command with
      | archivePerson => exact spares_effect (archivePerson_spares sdk env _ _ _)
      | permanentlyDelete => exact spares_effect (permanentlyDelete_spares env _ _ _ _)
      | replaceFace => exact spares_effect (replaceFace_spares sdk env _ _ _ _)
      | deleteFace => exact spares_effect (changeFace_spares sdk env _ _ _ _)
      | deleteOwner | deleteCompanion => cases written
      | _ => cases other

theorem Command.session_confined (command : Command) :
    command.aggregate.Confines (command.session sdk env) := by
  cases written : command.aggregate with
  | workspace => exact command.spares_workspace sdk env written
  | people => exact command.spares_people sdk env written
  | teams =>
      cases command with
      | writeTeam ownerId team => exact spares_effect (team.session_spares sdk ownerId)
      | _ => cases written
  | home =>
      cases command with
      | writeHome ownerId write => exact spares_effect (write.session_spares sdk env ownerId)
      | _ => cases written
  | several => trivial

theorem Command.of_several {command : Command} (several : command.aggregate = .several) :
    (∃ ownerId, command = .archiveOwner ownerId) ∨ (∃ ownerId, command = .deleteOwner ownerId) ∨
      (∃ request, command = .initializeOwnerWorkspace request) ∨
        ∃ ownerId companionId allowDefault,
          command = .deleteCompanion ownerId companionId allowDefault := by
  cases command with
  | archiveOwner ownerId => exact Or.inl ⟨ownerId, rfl⟩
  | deleteOwner ownerId => exact Or.inr (Or.inl ⟨ownerId, rfl⟩)
  | initializeOwnerWorkspace request => exact Or.inr (Or.inr (Or.inl ⟨request, rfl⟩))
  | deleteCompanion ownerId companionId allowDefault =>
      exact Or.inr (Or.inr (Or.inr ⟨ownerId, companionId, allowDefault, rfl⟩))
  | _ => cases several

theorem Command.session_teams (command : Command)
    (other : ∀ ownerId team, command ≠ .writeTeam ownerId team) :
    (command.session sdk env).Spares (fun t => t.teams) := by
  have confined := command.session_confined sdk env
  cases written : command.aggregate with
  | workspace =>
      rw [written] at confined
      exact spares_view confined (fun part => part.2.teams)
  | people =>
      rw [written] at confined
      exact spares_view confined Prod.snd
  | home =>
      rw [written] at confined
      exact spares_view confined Tables.teams
  | teams =>
      cases command with
      | writeTeam ownerId team => exact absurd rfl (other ownerId team)
      | _ => cases written
  | several =>
      rcases Command.of_several written with ⟨ownerId, rfl⟩ | ⟨ownerId, rfl⟩ | ⟨request, rfl⟩ |
        ⟨ownerId, companionId, allowDefault, rfl⟩
      · exact spares_effect (spares_view (archiveOwner_spares env ownerId) (fun part => part.2.2))
      · exact spares_effect (deleteOwner_teams env ownerId)
      · have beside : (EidolonData.initializeOwnerWorkspace sdk env request).Spares
            Tables.beside :=
          initializeOwnerWorkspace_spares sdk env (fun _ => rfl) request
        exact spares_effect (spares_view beside Beside.teams)
      · exact spares_effect (deleteCompanion_teams env ownerId companionId allowDefault)

/-- The homes are written by the writers of the registry, an onboarding and
the deletions. -/
theorem Command.session_home (command : Command)
    (other : ∀ ownerId write, command ≠ .writeHome ownerId write)
    (initialized : ∀ request, command ≠ .initializeOwnerWorkspace request)
    (keepsOwner : ∀ ownerId, command ≠ .deleteOwner ownerId)
    (keepsCompanion : ∀ ownerId companionId allowDefault,
      command ≠ .deleteCompanion ownerId companionId allowDefault) :
    (command.session sdk env).Spares (fun t => t.home) := by
  have confined := command.session_confined sdk env
  cases written : command.aggregate with
  | workspace =>
      rw [written] at confined
      exact spares_view confined Prod.fst
  | people =>
      rw [written] at confined
      exact spares_view confined Prod.fst
  | teams =>
      rw [written] at confined
      exact spares_view confined Tables.home
  | home =>
      cases command with
      | writeHome ownerId write => exact absurd rfl (other ownerId write)
      | _ => cases written
  | several =>
      rcases Command.of_several written with ⟨ownerId, rfl⟩ | ⟨ownerId, rfl⟩ | ⟨request, rfl⟩ |
        ⟨ownerId, companionId, allowDefault, rfl⟩
      · exact spares_effect (spares_view (archiveOwner_spares env ownerId) Prod.fst)
      · exact absurd rfl (keepsOwner ownerId)
      · exact absurd rfl (initialized request)
      · exact absurd rfl (keepsCompanion ownerId companionId allowDefault)

end EidolonData
