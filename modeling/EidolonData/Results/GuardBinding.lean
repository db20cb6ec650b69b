import EidolonData.Invariants.Guard

/-!
# Guard bindings along a run

An active binding names an active Guard of its Owner in every run whose
lifecycle steps leave bound Companions alone.  No lifecycle step looks at the
bindings, so retiring or archiving a bound Guard leaves the binding active.
-/

namespace EidolonData

open Relational

/-- A Companion that this step would take out of `active` while it is bound. -/
def Workspace.DisarmedBy (w : Workspace) (sdk : Sdk) (ownerId companionId : String)
    (target : LifecycleState) (expectedRevision : Option Int) : Prop :=
  ∃ companion, w.companions.get? companionId = some companion ∧ companion.ownerId = ownerId ∧
    companion.lifecycleState = .active ∧
    requireTransition sdk companion target expectedRevision = .ok () ∧ w.Bound companionId

/-- A lifecycle step that is accepted for a bound active Companion. -/
def Command.Disarms (sdk : Sdk) (w : Workspace) : Command → Prop
  | beginRetirement ownerId companionId expectedRevision _ =>
      w.DisarmedBy sdk ownerId companionId .retiring expectedRevision
  | putAwayCompanion ownerId companionId expectedRevision _ =>
      w.DisarmedBy sdk ownerId companionId .retiring expectedRevision
  | archiveCompanion ownerId companionId expectedRevision =>
      w.DisarmedBy sdk ownerId companionId .archived expectedRevision
  | _ => False

theorem Permits.keepingGuards_allow {sdk : Sdk} {w : Workspace} {ownerId companionId : String}
    {target : LifecycleState} {expectedRevision : Option Int}
    (spared : ¬ w.DisarmedBy sdk ownerId companionId target expectedRevision) :
    Permits.keepingGuards.Allow sdk w ownerId companionId target expectedRevision := by
  intro companion found owned _ accepted active _ bound
  have same : companion.companionId = companionId := Table.key_of_get? found
  rw [same] at bound
  exact spared ⟨companion, found, owned, active, accepted, bound⟩

theorem Command.permitted_keepingGuards (sdk : Sdk) (w : Workspace) (command : Command)
    (heeded : ¬ command.Disarms sdk w) : command.Permitted sdk .keepingGuards w := by
  cases command with
  | beginRetirement | putAwayCompanion | archiveCompanion =>
      exact Permits.keepingGuards_allow heeded
  | restoreCompanion =>
      intro companion _ _ _ _ _ asleep
      exact absurd rfl asleep
  | editPersona => exact Or.inl trivial
  | createGenome => exact ⟨trivial, Or.inl trivial⟩
  | _ => trivial

/-- Active bindings name active Guards in a run that disarms none. -/
theorem guard_binding_target (sdk : Sdk) (calls : List Call)
    (heeds : Heeds sdk (fun w command => ¬ command.Disarms sdk w) calls .empty) :
    (replay sdk calls .empty).tables.workspace.BindingSound :=
  bindingSound_invariant.replay calls .empty
    (heeds.mono (Command.permitted_keepingGuards sdk) calls .empty) bindingSound_empty

/-- An Owner's Guard, bound to a device. -/
def bindingCommands : List Command :=
  [.createOwner "owner" "" "person" none none,
    .provisionWorkspace { ownerId := "owner", kind := "guard" },
    .bindGuard "owner" "c_owner" "device" "silent_presence" none (some "binding")]

theorem guard_binding_target_bound :
    (replay .plain (numbered bindingCommands) .empty).tables.workspace.BindingSound :=
  guard_binding_target .plain (numbered bindingCommands) ⟨id, id, id, trivial⟩

/-- The bound Guard, retired. -/
theorem retired_guard_still_bound :
    ¬ ∀ calls, (replay .plain calls .empty).tables.workspace.BindingSound := by
  intro sound
  let w := (replay .plain (numbered (bindingCommands ++
    [.beginRetirement "owner" "c_owner" none none])) .empty).tables.workspace
  have bound : (w.guardBindings.get? "binding").map
      (fun row => (row.guardCompanionId, row.state)) = some ("c_owner", .active) := by
    decide +kernel
  have retiring : (w.companions.get? "c_owner").map (fun row => row.lifecycleState) =
      some .retiring := by
    decide +kernel
  obtain ⟨binding, found, target⟩ := Option.map_eq_some_iff.mp bound
  obtain ⟨named, active⟩ := Prod.mk.inj target
  obtain ⟨companion, companionFound, -, -, alive⟩ := sound _ found active
  rw [named] at companionFound
  have state : w.companions.get? "c_owner" = some companion := companionFound
  rw [state, Option.map_some, alive] at retiring
  cases retiring

end EidolonData
