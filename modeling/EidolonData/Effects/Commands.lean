import EidolonData.Commands
import EidolonData.Effects.Deletion
import EidolonData.Effects.Guard
import EidolonData.Effects.Lifecycle
import EidolonData.Effects.Onboarding
import EidolonData.Effects.Persona
import EidolonData.Effects.TeamFrames
import EidolonData.Effects.Voiceprints

/-!
# Runs and their invariants

Every command is a chain of changes, the archiving of an Owner, or a removal.
An invariant of the workspace is proved for these three and then holds along
every run whose commands its condition lets through.
-/

namespace EidolonData

open Relational

section Effects

variable (sdk : Sdk) (permits : Permits) (env : Env) (t : Tables)

/-- The condition of a run on one command, in the state it runs in. -/
def Command.Permitted (w : Workspace) : Command → Prop
  | beginRetirement ownerId companionId expectedRevision _ =>
      permits.Allow sdk w ownerId companionId .retiring expectedRevision
  | archiveCompanion ownerId companionId expectedRevision =>
      permits.Allow sdk w ownerId companionId .archived expectedRevision
  | putAwayCompanion ownerId companionId expectedRevision _ =>
      permits.Allow sdk w ownerId companionId .retiring expectedRevision
  | restoreCompanion ownerId companionId expectedRevision =>
      permits.Allow sdk w ownerId companionId .active expectedRevision
  | editPersona companionId request =>
      permits.silent ∨ ¬ w.RenamedSilently sdk companionId request
  | createGenome request =>
      permits.genomeIds request.genomeId ∧ (permits.silent ∨ ¬ w.CommitsSilently request)
  | createEvolutionProposal proposal => permits.genomeIds proposal.proposedGenomeId
  | _ => True

theorem Command.permitted_all (w : Workspace) (command : Command) :
    command.Permitted sdk .all w := by
  cases command with
  | beginRetirement | archiveCompanion | putAwayCompanion | restoreCompanion =>
      intro companion _ _ _ _
      trivial
  | editPersona => exact Or.inl trivial
  | createGenome => exact ⟨trivial, Or.inl trivial⟩
  | _ => trivial

def Command.Effect (w w' : Workspace) : Command → Prop
  | archiveOwner ownerId =>
      w' = w ∨ ∃ owner now, w.owners.get? ownerId = some owner ∧ owner.status = .active ∧
        w' = w.archiveOwner now owner
  | deleteOwner ownerId => w' = w ∨ Removal (.owner ownerId) w w'
  | deleteCompanion ownerId companionId _ =>
      Removal (.companion companionId) w w' ∧
        ∃ companion, w.companions.get? companionId = some companion ∧ companion.ownerId = ownerId
  | _ => Changes sdk permits w w'

theorem ensures_effect {α : Type} (program : Session α) (post : Unit → Tables → Prop) :
    (effect program).Ensures t post ↔ program.Ensures t (fun _ t' => post () t') := by
  simp only [effect, Tx.ensures_bind, Tx.pure_eq, Tx.ensures_done]

theorem run_of_effect {α : Type} {program : Session α} {t t' : Tables} {done : Unit}
    (ran : (effect program).run t = .ok (done, t')) :
    ∃ value, program.run t = .ok (value, t') := by
  simp only [effect, Tx.run_bind] at ran
  cases first : program.run t with
  | error error =>
      rw [first] at ran
      cases ran
  | ok finished =>
      obtain ⟨value, middle⟩ := finished
      rw [first] at ran
      cases ran
      exact ⟨value, rfl⟩

/-- A command that leaves the workspace alone is the empty chain. -/
theorem ensures_unchanged {α : Type} {program : Session α}
    (unchanged : program.Ensures t (fun _ t' => t'.workspace = t.workspace)) :
    program.Ensures t (fun _ t' => Changes sdk permits t.workspace t'.workspace) := by
  refine unchanged.mono ?_
  intro _ t' same
  rw [same]

/-- What a run establishes of the states the constraints accept. -/
theorem ensures_accepted {α : Type} {program : Session α} {post : Tables → Prop}
    (ensures : program.Ensures t (fun _ t' => post t')) :
    (effect program).Ensures t (fun _ t' => t'.workspace.Integrity → post t') := by
  refine (ensures_effect t _ _).mpr (ensures.mono ?_)
  intro _ t' established _
  exact established

theorem Command.session_effect (command : Command)
    (permitted : command.Permitted sdk permits t.workspace) :
    (command.session sdk env).Ensures t (fun _ t' => t'.workspace.Integrity →
      command.Effect sdk permits t.workspace t'.workspace) := by
  cases command with
  | createOwner => exact ensures_accepted t (createOwner_changes sdk permits env t _ _ _ _ _)
  | updateOwner => exact ensures_accepted t (updateOwner_changes sdk permits env t _ _ _ _)
  | renameOwner => exact ensures_accepted t (renameOwner_changes sdk permits t _ _)
  | archiveOwner ownerId =>
      refine ensures_accepted t ((archiveOwner_effect env t ownerId).mono ?_)
      intro _ t' archived
      rcases archived with same | ⟨owner, found, active, same⟩
      · exact Or.inl same
      · exact Or.inr ⟨owner, env.now, found, active, same⟩
  | deleteOwner ownerId =>
      refine ensures_accepted t ((deleteOwner_effect env t ownerId).mono ?_)
      intro _ t' deleted
      exact deleted.imp_left (fun same => by rw [same])
  | initializeOwnerWorkspace =>
      exact ensures_accepted t (initializeOwnerWorkspace_changes sdk permits env t _)
  | provisionWorkspace =>
      exact ensures_accepted t (provisionWorkspace_changes sdk permits env t _)
  | provisionCompanion =>
      exact ensures_accepted t (provisionCompanion_changes sdk permits env t _)
  | ensureMemoryRealm =>
      exact ensures_accepted t (ensureMemoryRealm_changes sdk permits env t _ _ _)
  | beginRetirement =>
      exact ensures_accepted t
        (beginRetirement_changes sdk permits env t _ _ _ _ permitted)
  | archiveCompanion =>
      exact ensures_accepted t (archiveCompanion_changes sdk permits env t _ _ _ permitted)
  | putAwayCompanion =>
      exact ensures_accepted t
        (putAwayCompanion_changes sdk permits env t _ _ _ _ permitted)
  | restoreCompanion =>
      exact ensures_accepted t (restoreCompanion_changes sdk permits env t _ _ _ permitted)
  | setDefaultCompanion =>
      exact ensures_accepted t (setDefaultCompanion_changes sdk permits env t _ _ _)
  | deleteCompanion =>
      exact ensures_accepted t (deleteCompanion_effect env t _ _ _)
  | editPersona =>
      exact ensures_accepted t (editPersona_changes sdk permits env t _ _ _ permitted)
  | renameCompanion =>
      exact ensures_accepted t (changes_of_chapter sdk permits t
        (renameCompanion_effect sdk permits env t _ _))
  | restoreChapter =>
      exact ensures_accepted t (changes_of_chapter sdk permits t
        (restoreChapter_effect sdk permits env t _ _ _ _))
  | rollbackToGenome =>
      exact ensures_accepted t (changes_of_chapter sdk permits t
        (restoreChapter_effect sdk permits env t _ _ _ _))
  | resetToOrigin =>
      exact ensures_accepted t (changes_of_chapter sdk permits t
        (resetToOrigin_effect sdk permits env t _ _))
  | createGenome =>
      exact (ensures_effect t _ _).mpr
        (createGenome_changes sdk permits env t _ permitted.1 permitted.2)
  | recordObservation =>
      exact ensures_accepted t
        (ensures_unchanged sdk permits t (recordObservation_workspace env t _))
  | createEvolutionProposal =>
      exact ensures_accepted t
        (createEvolutionProposal_changes sdk permits env t _ permitted)
  | approveEvolution =>
      refine ensures_accepted t ((approveEvolution_effect sdk permits env t _ _ _ _).mono ?_)
      rintro _ t' ⟨_, _, -, ⟨-, approved⟩ | ⟨-, denied⟩⟩
      · exact .single approved.change
      · exact .single denied.change
  | rejectEvolution =>
      exact ensures_accepted t (rejectEvolution_changes sdk permits env t _ _ _ _)
  | bindGuard => exact ensures_accepted t (bindGuard_changes sdk permits env t _ _ _ _ _ _)
  | updateGuardPolicy =>
      exact ensures_accepted t (updateGuardPolicy_changes sdk permits env t _ _ _ _)
  | disableGuard => exact ensures_accepted t (disableGuard_changes sdk permits env t _ _)
  | createPerson =>
      exact ensures_accepted t (createPerson_changes sdk permits env t _ _ _)
  | updatePerson =>
      exact ensures_accepted t (updatePerson_changes sdk permits env t _ _ _ _)
  | retireCandidate =>
      exact ensures_accepted t
        (ensures_unchanged sdk permits t (retireCandidate_workspace env t _ _ _))
  | archivePerson =>
      exact ensures_accepted t (archivePerson_changes sdk permits env t _ _ _)
  | restorePerson =>
      exact ensures_accepted t (restorePerson_changes sdk permits env t _ _ _)
  | permanentlyDelete =>
      exact ensures_accepted t (permanentlyDelete_changes sdk permits env t _ _ _ _)
  | writeMemoryDefaults =>
      exact ensures_accepted t (writeMemoryDefaults_changes sdk permits env t _ _ _)
  | writeProvisionalPolicy =>
      exact ensures_accepted t (writeProvisionalPolicy_changes sdk permits env t _ _ _ _)
  | resolveMemoryRealm =>
      exact ensures_accepted t (resolveMemoryRealm_changes sdk permits env t _ _ _)
  | suspendMemory =>
      exact ensures_accepted t (suspendMemory_changes sdk permits env t _ _ _)
  | restoreMemory =>
      exact ensures_accepted t (restoreMemory_changes sdk permits env t _ _ _)
  | runVoiceprint policies ownerId command =>
      refine (command.session_changes sdk permits env t policies ownerId).mono ?_
      intro _ t' changes _
      exact changes
  | replaceFace ownerId personId =>
      exact ensures_accepted t (ensures_unchanged sdk permits t
        ((replaceFace_workspace sdk env ownerId personId _ _).ensures t))
  | deleteFace ownerId personId =>
      exact ensures_accepted t (ensures_unchanged sdk permits t
        ((changeFace_workspace sdk env ownerId personId _ none).ensures t))
  | writeTeam ownerId command =>
      refine ensures_accepted t (ensures_unchanged sdk permits t ?_)
      refine ((command.session_spares sdk ownerId).ensures t).mono ?_
      intro _ t' same
      show t'.besideTeams.workspace = t.besideTeams.workspace
      rw [same]
  | writeHome ownerId write =>
      exact ensures_accepted t
        (ensures_unchanged sdk permits t (write.session_workspace sdk env t ownerId))

end Effects

section Runs

variable {sdk : Sdk} {permits : Permits}

theorem Call.step_effect (call : Call) (db : Database)
    (permitted : call.command.Permitted sdk permits db.tables.workspace) :
    call.step sdk db = db ∨
      call.command.Effect sdk permits db.tables.workspace (call.step sdk db).tables.workspace := by
  unfold Call.step
  refine Database.after_induct (motive := fun db' => db' = db ∨
    call.command.Effect sdk permits db.tables.workspace db'.tables.workspace) (Or.inl rfl) ?_
  intro value db' ran
  exact Or.inr (call.command.session_effect sdk permits call.env db.tables permitted value
    db'.tables ran db'.property.workspace)

/-- A call is rolled back, or leaves what the run of its command establishes. -/
theorem Call.step_post (call : Call) (db : Database) {post : Tables → Prop}
    (ensures : (call.command.session sdk call.env).Ensures db.tables (fun _ t' => post t')) :
    call.step sdk db = db ∨ post (call.step sdk db).tables := by
  unfold Call.step
  refine Database.after_induct (motive := fun db' => db' = db ∨ post db'.tables)
    (Or.inl rfl) ?_
  intro value db' ran
  exact Or.inr (ensures value _ ran)

theorem replay_preserves (holds : Database → Prop)
    (kept : ∀ (call : Call) (db : Database), holds db → holds (call.step sdk db))
    (calls : List Call) (db : Database) (before : holds db) : holds (replay sdk calls db) := by
  induction calls generalizing db with
  | nil => exact before
  | cons call calls induction => exact induction (call.step sdk db) (kept call db before)

/-- What the run of a command establishes holds after its call, unless the
call was rolled back. -/
theorem Call.step_ensures {α : Type} (call : Call) (db : Database) {program : Session α}
    {post : Tables → Prop} (runs : call.command.session sdk call.env = effect program)
    (ensures : program.Ensures db.tables (fun _ t' => post t')) :
    call.step sdk db = db ∨ post (call.step sdk db).tables := by
  unfold Call.step
  rw [runs]
  refine Database.after_induct (motive := fun db' => db' = db ∨ post db'.tables)
    (Or.inl rfl) ?_
  intro value db' ran
  exact Or.inr ((ensures_effect db.tables program (fun _ => post)).mpr ensures value _ ran)

theorem Call.step_of_run {α : Type} (call : Call) (db : Database) {program : Session α}
    {value : α} {t : Tables} (runs : call.command.session sdk call.env = effect program)
    (ran : program.run db.tables = .ok (value, t)) (accepted : t.Integrity) :
    call.step sdk db = ⟨t, accepted⟩ := by
  unfold Call.step
  rw [runs]
  have finished : (effect program).run db.tables = .ok ((), t) := by
    simp only [effect, Tx.run_bind_ok ran, Tx.pure_eq, Tx.run_done]
  exact Database.after_of_run finished accepted

/-- A command that changes nothing when it succeeds leaves the database as it
was. -/
theorem Call.step_unchanged {α : Type} (call : Call) (db : Database) {program : Session α}
    (runs : call.command.session sdk call.env = effect program)
    (ensures : program.Ensures db.tables (fun _ t' => t' = db.tables)) :
    call.step sdk db = db := by
  rcases call.step_ensures db runs ensures with same | same
  · exact same
  · exact Subtype.ext same

/-- Every call of a run meets a condition in the state it runs in. -/
def Heeds (sdk : Sdk) (condition : Workspace → Command → Prop) : List Call → Database → Prop
  | [], _ => True
  | call :: calls, db =>
      condition db.tables.workspace call.command ∧ Heeds sdk condition calls (call.step sdk db)

instance Heeds.decidable {condition : Workspace → Command → Prop}
    [∀ w command, Decidable (condition w command)] :
    ∀ (calls : List Call) (db : Database), Decidable (Heeds sdk condition calls db)
  | [], _ => inferInstanceAs (Decidable True)
  | call :: calls, db =>
      have : Decidable (Heeds sdk condition calls (call.step sdk db)) := Heeds.decidable _ _
      inferInstanceAs (Decidable (_ ∧ _))

theorem Heeds.mono {condition weaker : Workspace → Command → Prop}
    (implied : ∀ w command, condition w command → weaker w command) (calls : List Call)
    (db : Database) (heeds : Heeds sdk condition calls db) : Heeds sdk weaker calls db := by
  induction calls generalizing db with
  | nil => trivial
  | cons call calls induction =>
      obtain ⟨heeded, rest⟩ := heeds
      exact ⟨implied _ _ heeded, induction _ rest⟩

/-- An invariant that every change, every archiving of an Owner and every
removal preserves. -/
structure Invariant (sdk : Sdk) (permits : Permits) (holds : Workspace → Prop) : Prop where
  change : ∀ {w w'}, Change sdk permits w w' → holds w → holds w'
  archived : ∀ {w owner} now, w.owners.get? owner.ownerId = some owner → owner.status = .active →
    holds w → holds (w.archiveOwner now owner)
  removed : ∀ {doomed w w'}, Removal doomed w w' → holds w → holds w'

theorem Invariant.effect {holds : Workspace → Prop} (invariant : Invariant sdk permits holds)
    {command : Command} {w w' : Workspace} (effect : command.Effect sdk permits w w')
    (before : holds w) : holds w' := by
  cases command with
  | archiveOwner ownerId =>
      rcases effect with rfl | ⟨owner, now, found, active, rfl⟩
      · exact before
      · have same : owner.ownerId = ownerId := Table.key_of_get? found
        subst same
        exact invariant.archived now found active before
  | deleteOwner ownerId =>
      rcases effect with rfl | removal
      · exact before
      · exact invariant.removed removal before
  | deleteCompanion ownerId companionId allowDefault =>
      exact invariant.removed effect.1 before
  | _ => exact Changes.preserve invariant.change effect before

theorem Invariant.replay {holds : Workspace → Prop} (invariant : Invariant sdk permits holds)
    (calls : List Call) (db : Database)
    (heeds : Heeds sdk (fun w command => command.Permitted sdk permits w) calls db)
    (before : holds db.tables.workspace) : holds (replay sdk calls db).tables.workspace := by
  induction calls generalizing db with
  | nil => exact before
  | cons call calls induction =>
      obtain ⟨permitted, rest⟩ := heeds
      apply induction (call.step sdk db) rest
      rcases call.step_effect db permitted with same | effect
      · rw [same]
        exact before
      · exact invariant.effect effect before

/-- A run without a condition. -/
theorem heeds_all (sdk : Sdk) (calls : List Call) (db : Database) :
    Heeds sdk (fun w command => command.Permitted sdk .all w) calls db := by
  induction calls generalizing db with
  | nil => trivial
  | cons call calls induction =>
      exact ⟨call.command.permitted_all sdk db.tables.workspace, induction _⟩

end Runs

end EidolonData
