import EidolonData.Invariants.Default

/-!
# The default pointer along a run

A set default is an active Companion of its Owner that is no Guard, and only
archiving or deleting the Owner, or deleting the default itself, unsets it.
-/

namespace EidolonData

open Relational

/-- The Owner has a default no more: its row is gone, or its pointer is null. -/
def Workspace.Undefaulted (w : Workspace) (ownerId : String) : Prop :=
  ∀ owner, w.owners.get? ownerId = some owner → owner.defaultCompanionId = none

def Command.MayUnset (ownerId companionId : String) : Command → Prop
  | archiveOwner archived => archived = ownerId
  | deleteOwner deleted => deleted = ownerId
  | deleteCompanion _ deleted _ => deleted = companionId
  | _ => False

theorem Removal.unset {doomed : Doomed} {w w' : Workspace} (removal : Removal doomed w w')
    (owned : w.DefaultOwned) {ownerId companionId : String} {owner : OwnerRow}
    (found : w.owners.get? ownerId = some owner)
    (pointed : owner.defaultCompanionId = some companionId) (spared : ¬ doomed.owners ownerId)
    (unset : w'.Undefaulted ownerId) : doomed.companions companionId := by
  obtain ⟨new, stays, rewritten⟩ := removal.ownerStays found spared
  have gone := unset new stays
  cases rewritten with
  | same =>
      rw [pointed] at gone
      cases gone
  | released other pointedOther doomedOther =>
      rw [pointed] at pointedOther
      cases pointedOther
      exact doomedOther
  | foreign other pointedOther notOwn =>
      rw [pointed] at pointedOther
      cases pointedOther
      obtain ⟨companion, companionFound, own, -⟩ := owned found pointed
      have same : owner.ownerId = ownerId := Table.key_of_get? found
      exact absurd (own.trans same.symm) (notOwn companion companionFound)

theorem Command.Effect.unset {sdk : Sdk} {permits : Permits} {command : Command}
    {w w' : Workspace} (effect : command.Effect sdk permits w w') (owned : w.DefaultOwned)
    {ownerId companionId : String} {owner : OwnerRow}
    (found : w.owners.get? ownerId = some owner)
    (pointed : owner.defaultCompanionId = some companionId) (unset : w'.Undefaulted ownerId) :
    command.MayUnset ownerId companionId := by
  have unchanged : w' ≠ w := by
    rintro rfl
    have none := unset owner found
    rw [pointed] at none
    cases none
  cases command with
  | archiveOwner archived =>
      rcases effect with same | ⟨other, now, otherFound, -, rfl⟩
      · exact absurd same unchanged
      · have same : other.ownerId = archived := Table.key_of_get? otherFound
        subst same
        by_contra different
        have stores : Table.Stores w.owners (w.archiveOwner now other).owners _ :=
          archiveOwner_stores otherFound
        have kept := (stores.other (fun equal => different equal.symm)).trans found
        have none := unset owner kept
        rw [pointed] at none
        cases none
  | deleteOwner deleted =>
      rcases effect with same | removal
      · exact absurd same unchanged
      · by_contra different
        exact removal.unset owned found pointed (fun equal => different equal.symm) unset
  | deleteCompanion other deleted allowDefault =>
      exact (effect.1.unset owned found pointed id unset).symm
  | _ =>
      obtain ⟨new, stays, precedes⟩ := Changes.outlives effect |>.owners _ _ found
      exact precedes.pointed (by simp [pointed]) (unset new stays)

/-- Along every run the pointer is sound, and a step that unsets it archives or
deletes its Owner, or deletes the default itself. -/
theorem default_pointer_sound (sdk : Sdk)
    (eligible : sdk.defaultEligibleLifecycleStates = [.active]) (calls : List Call) :
    (∀ ownerId owner companionId,
      (replay sdk calls .empty).tables.workspace.owners.get? ownerId = some owner →
      owner.defaultCompanionId = some companionId →
      ∃ companion,
        (replay sdk calls .empty).tables.workspace.companions.get? companionId = some companion ∧
        companion.ownerId = ownerId ∧ companion.lifecycleState = .active ∧
        companion.kind ≠ .guard) ∧
    (∀ (call : Call) ownerId owner companionId,
      (replay sdk calls .empty).tables.workspace.owners.get? ownerId = some owner →
      owner.defaultCompanionId = some companionId →
      (call.step sdk (replay sdk calls .empty)).tables.workspace.Undefaulted ownerId →
      call.command.MayUnset ownerId companionId) := by
  have offers : sdk.OffersActive := by
    intro state member
    simpa [eligible] using member
  have sound : (replay sdk calls .empty).tables.workspace.DefaultSound :=
    (defaultSound_invariant offers).replay calls .empty (heeds_all sdk calls .empty)
      defaultSound_empty
  constructor
  · intro ownerId owner companionId found pointed
    obtain ⟨companion, companionFound, own, notGuard⟩ := sound.owned found pointed
    exact ⟨companion, companionFound, own, sound.active found pointed companionFound, notGuard⟩
  · intro call ownerId owner companionId found pointed unset
    rcases call.step_effect (replay sdk calls .empty)
      (call.command.permitted_all sdk _) with same | effect
    · rw [same] at unset
      have none := unset owner found
      rw [pointed] at none
      cases none
    · exact effect.unset sound.owned found pointed unset

/-- An Owner with its first Companion. -/
def firstDefaultCommands : List Command :=
  [.createOwner "owner" "" "person" none none, .provisionWorkspace { ownerId := "owner" }]

theorem default_pointer_sound_first :
    let db := replay .plain (numbered firstDefaultCommands) .empty
    (db.tables.workspace.owners.get? "owner").map (fun row => row.defaultCompanionId) =
        some (some "c_owner") ∧
      ∀ ownerId owner companionId, db.tables.workspace.owners.get? ownerId = some owner →
        owner.defaultCompanionId = some companionId →
        ∃ companion, db.tables.workspace.companions.get? companionId = some companion ∧
          companion.ownerId = ownerId ∧ companion.lifecycleState = .active ∧
          companion.kind ≠ .guard :=
  ⟨by decide +kernel, (default_pointer_sound .plain rfl (numbered firstDefaultCommands)).1⟩

end EidolonData
