import EidolonData.Results.DefaultPointer
import EidolonData.Effects.Histories
import EidolonData.Invariants.Runtime

/-!
# The revision of a Companion

Two states of a run in which a Companion has the same revision agree on what
the revision stands for, as long as no genome is committed by
`create_genome` and no edit renames a Companion to the name its genome has
already: these two write the row under the revision it had.
-/

namespace EidolonData

open Relational

/-- The revision only grows, and an equal one means an equal Companion. -/
structure CompanionRow.Tracks (old new : CompanionRow) : Prop where
  revision : old.revision ≤ new.revision
  agrees : new.revision = old.revision → old.Agrees new

theorem CompanionRow.Agrees.trans {first second third : CompanionRow}
    (one : first.Agrees second) (two : second.Agrees third) : first.Agrees third :=
  { displayName := two.displayName.trans one.displayName
    lifecycleState := two.lifecycleState.trans one.lifecycleState
    genome := two.genome.trans one.genome
    config := two.config.trans one.config }

theorem CompanionRow.Tracks.refl (companion : CompanionRow) : companion.Tracks companion :=
  { revision := le_refl _
    agrees := fun _ => .refl companion }

theorem CompanionRow.Tracks.trans {first second third : CompanionRow}
    (one : first.Tracks second) (two : second.Tracks third) : first.Tracks third := by
  refine ⟨le_trans one.revision two.revision, ?_⟩
  intro same
  have middle : second.revision = first.revision :=
    le_antisymm (same ▸ two.revision) one.revision
  exact (one.agrees middle).trans (two.agrees (same.trans middle.symm))

theorem CompanionRow.tracks_moveTo (companion : CompanionRow) (target : LifecycleState) :
    companion.Tracks (companion.moveTo target) := by
  have advanced : (companion.moveTo target).revision = companion.revision + 1 := rfl
  refine ⟨by omega, ?_⟩
  intro same
  omega

/-- No Companion changes under its revision. -/
def Permits.keepingRevisions : Permits :=
  { Permits.all with silent := False }

section Tracks

variable {sdk : Sdk} {w w' : Workspace}

theorem Change.tracks (change : Change sdk .keepingRevisions w w') :
    Table.Carries CompanionRow.Tracks w.companions w'.companions := by
  refine change.companions_related CompanionRow.tracks_moveTo ?_
  intro old new _ precedes guarded
  exact ⟨precedes.revision, guarded.resolve_left id⟩

/-- A Companion that a deletion spares has a genome of its own, which stays. -/
theorem Removal.tracks {permits : Permits} {doomed : Doomed} (removal : Removal doomed w w')
    (sound : w.RuntimeSound sdk permits) {companionId : String} {old new : CompanionRow}
    (before : w.companions.get? companionId = some old)
    (after : w'.companions.get? companionId = some new) : old.Tracks new := by
  obtain ⟨row, found, -, -, kept⟩ := removal.companion after
  rw [before] at found
  cases found
  obtain ⟨genome, stored, pointed, own, -⟩ := sound.current before
  refine ⟨le_of_eq kept.revision.symm, fun _ => ?_⟩
  exact
    { displayName := kept.displayName
      lifecycleState := kept.lifecycleState
      genome := (kept.genome pointed stored own).trans pointed.symm
      config := kept.config }

theorem Command.Effect.tracks {command : Command}
    (effect : command.Effect sdk .keepingRevisions w w')
    (sound : w.RuntimeSound sdk .keepingRevisions) {companionId : String}
    {old new : CompanionRow} (before : w.companions.get? companionId = some old)
    (after : w'.companions.get? companionId = some new) : old.Tracks new :=
  Command.Effect.companion_related CompanionRow.Tracks.refl CompanionRow.Tracks.trans Change.tracks
    CompanionRow.tracks_moveTo (fun removal => removal.tracks sound before after) effect
      before after

end Tracks

/-- A command that would write a Companion under the revision it has. -/
def Command.WritesSilently (sdk : Sdk) (w : Workspace) : Command → Prop
  | editPersona companionId request => w.RenamedSilently sdk companionId request
  | createGenome request => w.CommitsSilently request
  | _ => False

theorem Command.permitted_keepingRevisions (sdk : Sdk) (w : Workspace) (command : Command)
    (heeded : ¬ command.WritesSilently sdk w) : command.Permitted sdk .keepingRevisions w := by
  cases command with
  | beginRetirement | archiveCompanion | putAwayCompanion | restoreCompanion =>
      intro companion _ _ _ _
      trivial
  | editPersona => exact Or.inr heeded
  | createGenome => exact ⟨trivial, Or.inr heeded⟩
  | _ => trivial

/-- In a run that writes no Companion silently, states with the same revision
of a Companion agree on its name, lifecycle, genome and preferences. -/
theorem companion_revision_tracks (sdk : Sdk) (calls between : List Call) (companionId : String)
    (old new : CompanionRow)
    (heeds : Heeds sdk (fun w command => ¬ command.WritesSilently sdk w) between
      (replay sdk calls .empty))
    (before : (replay sdk calls .empty).tables.workspace.companions.get? companionId = some old)
    (lasts : CompanionLasts sdk companionId between (replay sdk calls .empty))
    (after : (replay sdk (calls ++ between) .empty).tables.workspace.companions.get? companionId =
      some new)
    (same : new.revision = old.revision) : old.Agrees new := by
  have sound := runtimeSound_invariant.replay calls .empty (heeds_all sdk calls .empty)
    runtimeSound_empty
  rw [replay_append] at after
  have tracks := Heeds.companion_relates runtimeSound_invariant CompanionRow.Tracks.refl
    CompanionRow.Tracks.trans (Command.permitted_keepingRevisions sdk)
    (fun sound _ effect => Command.Effect.tracks effect sound) heeds lasts { sound with } before
    after
  exact tracks.agrees same

/-- The default, chosen again: a command that leaves the revision. -/
def chosenAgain : List Call :=
  [{ env := { uuid := fun site => .ofNat (512 + site), now := 32 }
     command := .setDefaultCompanion "owner" "c_owner" none }]

theorem companion_revision_tracks_default :
    ∃ old new,
      (replay .plain (numbered firstDefaultCommands) .empty).tables.workspace.companions.get?
        "c_owner" = some old ∧
      (replay .plain (numbered firstDefaultCommands ++ chosenAgain)
        .empty).tables.workspace.companions.get? "c_owner" = some new ∧ old.Agrees new := by
  have stored : ((replay .plain (numbered firstDefaultCommands)
      .empty).tables.workspace.companions.get? "c_owner").map (fun row => row.revision) =
      some 1 := by
    decide +kernel
  have stays : ((replay .plain (numbered firstDefaultCommands ++ chosenAgain)
      .empty).tables.workspace.companions.get? "c_owner").map (fun row => row.revision) =
      some 1 := by
    decide +kernel
  obtain ⟨old, before, revision⟩ := Option.map_eq_some_iff.mp stored
  obtain ⟨new, after, revision'⟩ := Option.map_eq_some_iff.mp stays
  refine ⟨old, new, before, after, ?_⟩
  exact companion_revision_tracks .plain (numbered firstDefaultCommands) chosenAgain "c_owner" old
    new ⟨id, trivial⟩ before ⟨Table.has_of_get? before, trivial⟩ after
    (revision'.trans revision.symm)

def genomeCommitted : List Call :=
  [{ env := { uuid := fun site => .ofNat (512 + site), now := 32 }
     command := .createGenome
      { genomeId := "g_second"
        companionId := "c_owner"
        ownerId := "owner"
        eventId := "e_second"
        version := 2 } }]

/-- The genome becomes the current one under the revision there was. -/
theorem genome_committed_under_revision :
    ¬ ∀ (calls between : List Call) (companionId : String) (old new : CompanionRow),
      (replay .plain calls .empty).tables.workspace.companions.get? companionId = some old →
      CompanionLasts .plain companionId between (replay .plain calls .empty) →
      (replay .plain (calls ++ between) .empty).tables.workspace.companions.get? companionId =
        some new →
      new.revision = old.revision → old.Agrees new := by
  intro tracks
  have stored : ((replay .plain (numbered firstDefaultCommands)
      .empty).tables.workspace.companions.get? "c_owner").map
        (fun row => (row.revision, decide (row.currentGenomeId = some "g_second"))) =
      some (1, false) := by
    decide +kernel
  have moved : ((replay .plain (numbered firstDefaultCommands ++ genomeCommitted)
      .empty).tables.workspace.companions.get? "c_owner").map
        (fun row => (row.revision, row.currentGenomeId)) = some (1, some "g_second") := by
    decide +kernel
  obtain ⟨old, before, state⟩ := Option.map_eq_some_iff.mp stored
  obtain ⟨new, after, state'⟩ := Option.map_eq_some_iff.mp moved
  obtain ⟨revision, current⟩ := Prod.mk.inj state
  obtain ⟨revision', current'⟩ := Prod.mk.inj state'
  have agrees := tracks (numbered firstDefaultCommands) genomeCommitted "c_owner" old new before
    ⟨Table.has_of_get? before, trivial⟩ after (revision'.trans revision.symm)
  exact of_decide_eq_false current (agrees.genome.symm.trans current')

end EidolonData
