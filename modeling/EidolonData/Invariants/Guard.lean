import EidolonData.Effects.Commands
import EidolonData.Workspace.Origins

/-!
# Active guard bindings

An active binding names an active Guard of its Owner as long as no lifecycle
move takes a bound Guard out of `active`: the binding is checked when it is
written, and nothing releases it afterwards.
-/

namespace EidolonData

open Relational

/-- An active binding names an active Guard of its Owner. -/
def Workspace.BindingSound (w : Workspace) : Prop :=
  ∀ {bindingId binding}, w.guardBindings.get? bindingId = some binding →
    binding.state = .active →
    ∃ companion, w.companions.get? binding.guardCompanionId = some companion ∧
      companion.ownerId = binding.ownerId ∧ companion.kind = .guard ∧
      companion.lifecycleState = .active

/-- An active binding names this Companion. -/
def Workspace.Bound (w : Workspace) (companionId : String) : Prop :=
  ∃ bindingId binding, w.guardBindings.get? bindingId = some binding ∧
    binding.state = .active ∧ binding.guardCompanionId = companionId

/-- No bound Companion leaves `active`. -/
def Permits.keepingGuards : Permits :=
  { moves := fun w companion target => companion.lifecycleState = .active → target ≠ .active →
      ¬ w.Bound companion.companionId
    genomeIds := fun _ => True
    silent := True
    handed := fun _ _ _ permitted => permitted
    retired := by
      intro w companion retiring active
      rw [retiring] at active
      cases active
    generated := fun _ _ => trivial }

variable {sdk : Sdk} {w w' : Workspace}

theorem Change.bindingSound (change : Change sdk .keepingGuards w w')
    (sound : w.BindingSound) : w'.BindingSound := by
  intro bindingId binding found active
  have same : binding.bindingId = bindingId := Table.key_of_get? found
  subst same
  cases change.binding_origin found active with
  | added companion companionFound owned guard alive =>
      exact ⟨companion, companionFound, owned, guard, alive⟩
  | stored old oldFound ownerId guardId oldActive =>
      obtain ⟨companion, companionFound, owned, guard, alive⟩ := sound oldFound oldActive
      rw [← guardId] at companionFound
      obtain ⟨companion', stays, precedes⟩ := change.outlives.companions _ _ companionFound
      refine ⟨companion', stays, (precedes.ownerId.trans owned).trans ownerId.symm,
        precedes.kind.trans guard, ?_⟩
      have key' : companion'.companionId = binding.guardCompanionId := Table.key_of_get? stays
      rw [← key'] at companionFound
      cases change.companion_origin stays with
      | stored before beforeFound sameOwner kind lifecycle realm config genome guarded =>
          rw [companionFound] at beforeFound
          cases beforeFound
          exact lifecycle.trans alive
      | moved before target beforeFound rewritten notDefault permitted =>
          rw [companionFound] at beforeFound
          cases beforeFound
          by_cases toActive : target = .active
          · rw [rewritten, toActive]
            rfl
          · have companionKey : companion.companionId = companion'.companionId :=
              Table.key_of_get? companionFound
            refine absurd ⟨_, old, oldFound, oldActive, ?_⟩ (permitted alive toActive)
            rw [companionKey, key', guardId]
      | provisioned owner genome realm rows genomeStored realmStored realmShared =>
          exact rows.companionActive

theorem bindingSound_archived {owner : OwnerRow} (now : Timestamp) (sound : w.BindingSound) :
    (w.archiveOwner now owner).BindingSound := by
  intro bindingId binding found active
  obtain ⟨stored, notOwn⟩ := archiveOwner_binding found active
  obtain ⟨companion, companionFound, owned, guard, alive⟩ := sound stored active
  have carries : Table.Carries CompanionRow.Precedes w.companions
      (w.archiveOwner now owner).companions := archiveOwner_carries
  obtain ⟨companion', stays, -⟩ := carries _ _ companionFound
  obtain ⟨old, oldFound, moved⟩ := archiveOwner_companion stays
  rw [companionFound] at oldFound
  cases oldFound
  rcases moved with ⟨ownedToo, -, -⟩ | ⟨-, rfl⟩
  · exact absurd (owned.symm.trans ownedToo) notOwn
  · exact ⟨companion', stays, owned, guard, alive⟩

theorem bindingSound_removed {doomed : Doomed} (removal : Removal doomed w w')
    (sound : w.BindingSound) : w'.BindingSound := by
  intro bindingId binding found active
  obtain ⟨stored, companion', stays, owned⟩ := removal.binding found
  obtain ⟨companion, companionFound, -, guard, alive⟩ := sound stored active
  obtain ⟨old, oldFound, -, -, kept⟩ := removal.companion stays
  rw [companionFound] at oldFound
  cases oldFound
  exact ⟨companion', stays, owned, kept.kind.trans guard, kept.lifecycleState.trans alive⟩

theorem bindingSound_invariant : Invariant sdk .keepingGuards Workspace.BindingSound :=
  { change := Change.bindingSound
    archived := fun now _ _ sound => bindingSound_archived now sound
    removed := bindingSound_removed }

theorem bindingSound_empty : Database.empty.tables.workspace.BindingSound := by
  intro bindingId binding found
  cases found

end EidolonData
