import EidolonData.Invariants.Archived

/-!
# Archived Owners along a run

An archived Owner stays put away in every run that restores no Companion of
an archived Owner.  `restore_companion` looks at the Companion only, so such a
restore is accepted and leaves the Owner archived with an active Companion.
-/

namespace EidolonData

open Relational

def Command.RestoresArchived (sdk : Sdk) (w : Workspace) : Command → Prop
  | restoreCompanion ownerId companionId expectedRevision =>
      ∃ companion owner, w.companions.get? companionId = some companion ∧
        companion.ownerId = ownerId ∧ companion.lifecycleState ≠ .active ∧
        requireTransition sdk companion .active expectedRevision = .ok () ∧
        w.owners.get? ownerId = some owner ∧ owner.status = .archived
  | _ => False

theorem Permits.keepingArchived_allow (sdk : Sdk) (w : Workspace) (ownerId companionId : String)
    (target : LifecycleState) (expectedRevision : Option Int) (asleep : target ≠ .active) :
    Permits.keepingArchived.Allow sdk w ownerId companionId target expectedRevision := by
  intro companion _ _ _ _ active
  exact absurd active asleep

theorem Command.permitted_keepingArchived (sdk : Sdk) (w : Workspace) (command : Command)
    (heeded : ¬ command.RestoresArchived sdk w) : command.Permitted sdk .keepingArchived w := by
  cases command with
  | restoreCompanion ownerId companionId expectedRevision =>
      intro companion found owned asleep accepted _ owner ownerFound archived
      rw [owned] at ownerFound
      exact heeded ⟨companion, owner, found, owned, asleep, accepted, ownerFound, archived⟩
  | beginRetirement | archiveCompanion | putAwayCompanion =>
      exact Permits.keepingArchived_allow sdk w _ _ _ _ (by simp)
  | editPersona => exact Or.inl trivial
  | createGenome => exact ⟨trivial, Or.inl trivial⟩
  | _ => trivial

/-- Nothing of an archived Owner is active in a run that restores none of its
Companions. -/
theorem archived_owner_stays_put_away (sdk : Sdk) (calls : List Call)
    (heeds : Heeds sdk (fun w command => ¬ command.RestoresArchived sdk w) calls .empty) :
    (replay sdk calls .empty).tables.workspace.ArchivedSound :=
  archivedSound_invariant.replay calls .empty
    (heeds.mono (Command.permitted_keepingArchived sdk) calls .empty) archivedSound_empty

/-- An Owner archived with its one Companion. -/
def archivingCommands : List Command :=
  [.createOwner "owner" "" "person" none none, .provisionWorkspace { ownerId := "owner" },
    .archiveOwner "owner"]

theorem archived_owner_stays_put_away_archiving :
    (replay .plain (numbered archivingCommands) .empty).tables.workspace.ArchivedSound :=
  archived_owner_stays_put_away .plain (numbered archivingCommands) ⟨id, id, id, trivial⟩

/-- The Companion of an archived Owner, restored. -/
theorem restored_under_archived_owner :
    ¬ ∀ calls, (replay .plain calls .empty).tables.workspace.ArchivedSound := by
  intro sound
  let w := (replay .plain (numbered (archivingCommands ++
    [.restoreCompanion "owner" "c_owner" none])) .empty).tables.workspace
  have archived : (w.owners.get? "owner").map (fun row => row.status) = some .archived := by
    decide +kernel
  have active : (w.companions.get? "c_owner").map (fun row => (row.ownerId, row.lifecycleState)) =
      some ("owner", .active) := by
    decide +kernel
  obtain ⟨owner, ownerFound, status⟩ := Option.map_eq_some_iff.mp archived
  obtain ⟨companion, found, state⟩ := Option.map_eq_some_iff.mp active
  obtain ⟨owned, alive⟩ := Prod.mk.inj state
  exact (sound _).companions ownerFound status found owned alive

end EidolonData
