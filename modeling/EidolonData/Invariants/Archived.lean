import EidolonData.Effects.Commands
import EidolonData.Workspace.Origins

/-!
# Archived Owners

What an archived Owner has put away stays put away as long as no command
brings one of its Companions back to life; every other command that could
asks for an active Owner or an active Companion.
-/

namespace EidolonData

open Relational

/-- Nothing of an archived Owner is active. -/
structure Workspace.ArchivedSound (w : Workspace) : Prop where
  unset : ∀ {ownerId owner}, w.owners.get? ownerId = some owner → owner.status = .archived →
    owner.defaultCompanionId = none
  companions : ∀ {ownerId owner companionId companion}, w.owners.get? ownerId = some owner →
    owner.status = .archived → w.companions.get? companionId = some companion →
    companion.ownerId = ownerId → companion.lifecycleState ≠ .active
  realms : ∀ {ownerId owner realmId realm}, w.owners.get? ownerId = some owner →
    owner.status = .archived → w.memoryRealms.get? realmId = some realm →
    realm.ownerId = ownerId → realm.status ≠ .active
  bindings : ∀ {ownerId owner bindingId binding}, w.owners.get? ownerId = some owner →
    owner.status = .archived → w.guardBindings.get? bindingId = some binding →
    binding.ownerId = ownerId → binding.state ≠ .active

/-- No Companion of an archived Owner becomes active. -/
def Permits.keepingArchived : Permits :=
  { moves := fun w companion target => target = .active → ∀ owner,
      w.owners.get? companion.ownerId = some owner → owner.status ≠ .archived
    genomeIds := fun _ => True
    silent := True
    handed := by
      intro w owners' companion _ active
      cases active
    retired := by
      intro w companion _ active
      cases active
    generated := fun _ _ => trivial }

variable {sdk : Sdk} {w w' : Workspace}

theorem Change.archived_before {permits : Permits} (change : Change sdk permits w w')
    {ownerId : String} {owner : OwnerRow} (found : w'.owners.get? ownerId = some owner)
    (archived : owner.status = .archived) :
    ∃ old, w.owners.get? ownerId = some old ∧ old.status = .archived := by
  have same : owner.ownerId = ownerId := Table.key_of_get? found
  subst same
  cases change.owner_origin found with
  | stored old oldFound status default => exact ⟨old, oldFound, status.symm.trans archived⟩
  | created fresh active unset fits =>
      rw [active] at archived
      cases archived
  | pointed old companion oldFound rewritten target answers =>
      rw [rewritten] at archived
      exact ⟨old, oldFound, archived⟩

theorem Change.archivedCompanions (change : Change sdk .keepingArchived w w')
    (sound : w.ArchivedSound) {ownerId companionId : String} {owner : OwnerRow}
    {companion : CompanionRow} (found : w.owners.get? ownerId = some owner)
    (archived : owner.status = .archived)
    (companionFound : w'.companions.get? companionId = some companion)
    (owned : companion.ownerId = ownerId) : companion.lifecycleState ≠ .active := by
  cases change.companion_origin companionFound with
  | stored old oldFound sameOwner kind lifecycle realm config genome guarded =>
      rw [lifecycle]
      exact sound.companions found archived oldFound (sameOwner.symm.trans owned)
  | moved old target oldFound rewritten notDefault permitted =>
      intro active
      have sameOwner : old.ownerId = ownerId := by
        rw [← owned, rewritten]
        rfl
      have toActive : target = .active := by
        rw [rewritten] at active
        exact active
      exact permitted toActive owner (by rw [sameOwner]; exact found) archived
  | provisioned active genome realm rows genomeStored realmStored realmShared =>
      have sameOwner : active.ownerId = ownerId := rows.companionOwner.symm.trans owned
      have stored := rows.ownerStored
      rw [sameOwner, found] at stored
      cases stored
      rw [rows.ownerActive] at archived
      cases archived

theorem Change.archivedSound (change : Change sdk .keepingArchived w w')
    (sound : w.ArchivedSound) : w'.ArchivedSound := by
  refine { unset := ?_, companions := ?_, realms := ?_, bindings := ?_ }
  · intro ownerId owner found archived
    obtain ⟨before, beforeFound, beforeArchived⟩ := change.archived_before found archived
    have unset := sound.unset beforeFound beforeArchived
    have same : owner.ownerId = ownerId := Table.key_of_get? found
    subst same
    cases change.owner_origin found with
    | stored old oldFound status default =>
        rw [default]
        rw [beforeFound] at oldFound
        cases oldFound
        exact unset
    | created fresh active unset fits => exact unset
    | pointed old companion oldFound rewritten target answers =>
        -- an Owner without a default takes an active Companion only
        rw [beforeFound] at oldFound
        cases oldFound
        have active : companion.lifecycleState = .active := by
          rcases answers.state with active | ⟨pointed, -⟩
          · exact active
          · exact absurd unset pointed
        have sameOwner : before.ownerId = owner.ownerId := by
          rw [rewritten]
          rfl
        exact absurd active (change.archivedCompanions sound beforeFound beforeArchived target
          (answers.owned.trans sameOwner))
  · intro ownerId owner companionId companion found archived companionFound owned
    obtain ⟨before, beforeFound, beforeArchived⟩ := change.archived_before found archived
    exact change.archivedCompanions sound beforeFound beforeArchived companionFound owned
  · intro ownerId owner realmId realm found archived realmFound owned active
    obtain ⟨before, beforeFound, beforeArchived⟩ := change.archived_before found archived
    cases change.realm_origin realmFound active with
    | stored old oldFound sameOwner status =>
        exact sound.realms beforeFound beforeArchived oldFound (sameOwner.symm.trans owned)
          (status active)
    | ofOwner other otherFound otherActive =>
        rw [owned, beforeFound] at otherFound
        cases otherFound
        rw [otherActive] at beforeArchived
        cases beforeArchived
    | ofCompanion companion companionFound companionOwned companionActive =>
        exact sound.companions beforeFound beforeArchived companionFound
          (companionOwned.trans owned) companionActive
  · intro ownerId owner bindingId binding found archived bindingFound owned active
    obtain ⟨before, beforeFound, beforeArchived⟩ := change.archived_before found archived
    cases change.binding_origin bindingFound active with
    | stored old oldFound sameOwner companion oldActive =>
        exact sound.bindings beforeFound beforeArchived oldFound (sameOwner.symm.trans owned)
          oldActive
    | added companion companionFound companionOwned guard companionActive =>
        exact change.archivedCompanions sound beforeFound beforeArchived companionFound
          (companionOwned.trans owned) companionActive

theorem archivedSound_archived {owner : OwnerRow} (now : Timestamp)
    (stored : w.owners.get? owner.ownerId = some owner) (sound : w.ArchivedSound) :
    (w.archiveOwner now owner).ArchivedSound := by
  have before : ∀ {ownerId row}, (w.archiveOwner now owner).owners.get? ownerId = some row →
      row.status = .archived → ownerId = owner.ownerId ∨
        (ownerId ≠ owner.ownerId ∧ w.owners.get? ownerId = some row) := by
    intro ownerId row found _
    rcases (archiveOwner_stores stored).of_get? found with ⟨same, -⟩ | other
    · exact Or.inl same
    · exact Or.inr other
  refine { unset := ?_, companions := ?_, realms := ?_, bindings := ?_ }
  · intro ownerId row found archived
    rcases (archiveOwner_stores stored).of_get? found with ⟨-, rfl⟩ | ⟨-, other⟩
    · rfl
    · exact sound.unset other archived
  · intro ownerId row companionId companion found archived companionFound owned
    obtain ⟨old, oldFound, moved⟩ := archiveOwner_companion companionFound
    rcases moved with ⟨-, -, rfl⟩ | ⟨other, rfl⟩
    · simp [CompanionRow.moveTo]
    · rcases before found archived with rfl | ⟨-, rowFound⟩
      · intro active
        exact other ⟨owned, active⟩
      · exact sound.companions rowFound archived oldFound owned
  · intro ownerId row realmId realm found archived realmFound owned
    obtain ⟨old, oldFound, rested⟩ := archiveOwner_realm realmFound
    rcases rested with ⟨-, -, rfl⟩ | ⟨other, rfl⟩
    · simp
    · rcases before found archived with rfl | ⟨-, rowFound⟩
      · intro active
        exact other ⟨owned, active⟩
      · exact sound.realms rowFound archived oldFound owned
  · intro ownerId row bindingId binding found archived bindingFound owned active
    obtain ⟨bindingStored, notOwn⟩ := archiveOwner_binding bindingFound active
    rcases before found archived with rfl | ⟨-, rowFound⟩
    · exact notOwn owned
    · exact sound.bindings rowFound archived bindingStored owned active

theorem archivedSound_removed {doomed : Doomed} (removal : Removal doomed w w')
    (sound : w.ArchivedSound) : w'.ArchivedSound := by
  have before : ∀ {ownerId owner}, w'.owners.get? ownerId = some owner →
      owner.status = .archived →
      ∃ old, w.owners.get? ownerId = some old ∧ old.status = .archived ∧
        old.Spared doomed w owner := by
    intro ownerId owner found archived
    obtain ⟨old, oldFound, -, spared⟩ := removal.owner found
    exact ⟨old, oldFound, spared.status.symm.trans archived, spared⟩
  refine { unset := ?_, companions := ?_, realms := ?_, bindings := ?_ }
  · intro ownerId owner found archived
    obtain ⟨old, oldFound, oldArchived, spared⟩ := before found archived
    have unset := sound.unset oldFound oldArchived
    cases spared with
    | same => exact unset
    | released => rfl
    | foreign => rfl
  · intro ownerId owner companionId companion found archived companionFound owned
    obtain ⟨old, oldFound, oldArchived, -⟩ := before found archived
    obtain ⟨oldCompanion, oldCompanionFound, -, -, kept⟩ := removal.companion companionFound
    rw [kept.lifecycleState]
    exact sound.companions oldFound oldArchived oldCompanionFound (kept.ownerId.symm.trans owned)
  · intro ownerId owner realmId realm found archived realmFound owned
    obtain ⟨old, oldFound, oldArchived, -⟩ := before found archived
    exact sound.realms oldFound oldArchived (removal.realm realmFound).1 owned
  · intro ownerId owner bindingId binding found archived bindingFound owned
    obtain ⟨old, oldFound, oldArchived, -⟩ := before found archived
    exact sound.bindings oldFound oldArchived (removal.binding bindingFound).1 owned

theorem archivedSound_invariant : Invariant sdk .keepingArchived Workspace.ArchivedSound :=
  { change := Change.archivedSound
    archived := fun now stored _ sound => archivedSound_archived now stored sound
    removed := archivedSound_removed }

theorem archivedSound_empty : Database.empty.tables.workspace.ArchivedSound := by
  refine { unset := ?_, companions := ?_, realms := ?_, bindings := ?_ }
  · intro ownerId owner found
    cases found
  · intro ownerId owner companionId companion found
    cases found
  · intro ownerId owner realmId realm found
    cases found
  · intro ownerId owner bindingId binding found
    cases found

end EidolonData
