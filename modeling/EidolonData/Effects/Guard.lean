import EidolonData.Services.Guard
import EidolonData.Workspace.Changes

/-!
# Effects of the guard bindings

A binding is added to an active Guard of its Owner or loses its activity.
-/

namespace EidolonData

open Relational

variable (sdk : Sdk) (permits : Permits) (env : Env) (t : Tables)

theorem guard_of_validateGuardCompanion {stored : Option CompanionRow} {ownerId : String}
    {companion : CompanionRow} (valid : validateGuardCompanion stored ownerId = .ok companion) :
    stored = some companion ∧ companion.ownerId = ownerId ∧ companion.kind = .guard ∧
      companion.lifecycleState = .active := by
  unfold validateGuardCompanion at valid
  split at valid
  · cases valid
  · next row found =>
      obtain ⟨held, owned⟩ := Option.filter_eq_some_iff.mp found
      split at valid
      · cases valid
      · next active =>
          split at valid
          · cases valid
          · next guard =>
              cases valid
              exact ⟨held, by simpa using owned, by simpa using guard, by simpa using active⟩

theorem bindGuard_changes (ownerId guardCompanionId deviceId policyId : String)
    (policyJson : Option JsonDict) (bindingId : Option String) :
    (bindGuard env ownerId guardCompanionId deviceId policyId policyJson bindingId).Ensures t
      (fun _ t' => Changes sdk permits t.workspace t'.workspace) := by
  simp only [bindGuard, Tx.ensures_bind, ensures_check, ensures_getCompanion, Tx.ensures_attempt,
    ensures_addFact, Tx.ensures_read, Tx.ensures_refuseIf, Tx.pure_eq, Tx.ensures_done,
    Tables.workspace_addFact]
  intro _ _ _ _ _ _ companion valid t₁ inserted _
  obtain ⟨found, owned, guard, active⟩ := guard_of_validateGuardCompanion valid
  split at inserted
  · cases inserted
  · next absent =>
      cases inserted
      have fresh := Table.has_eq_false_iff.mp (by simpa using absent)
      exact .single (.bindingAdded _ companion _ found owned guard active fresh
        (Table.stores_insert fresh))

theorem updateGuardPolicy_changes (bindingId : String) (expectedRevision : Int)
    (policyId : String) (policyJson : JsonDict) :
    (updateGuardPolicy env bindingId expectedRevision policyId policyJson).Ensures t
      (fun _ t' => Changes sdk permits t.workspace t'.workspace) := by
  simp only [updateGuardPolicy, Tx.ensures_bind, ensures_check, Tx.ensures_refuseIf,
    ensures_getBinding, Tx.ensures_require, ensures_updateBindingRow, ensures_addFact, Tx.pure_eq,
    Tx.ensures_done, Tables.workspace_addFact]
  intro _ _ _ row found _ _
  have stored : row.bindingId = bindingId := Table.key_of_get? found
  subst stored
  refine .single (.bindingEdited row _ _ found ?_ ?_ ?_ ?_ (Table.stores_modify found))
  · rfl
  · rfl
  · rfl
  · exact id

theorem disableGuard_changes (bindingId : String) (revoke : Bool) :
    (disableGuard env bindingId revoke).Ensures t
      (fun _ t' => Changes sdk permits t.workspace t'.workspace) := by
  simp only [disableGuard, Tx.ensures_bind, ensures_getBinding, Tx.ensures_require,
    Tx.ensures_ite, Tx.ensures_refuseIf, ensures_updateBindingRow, ensures_addFact, Tx.pure_eq,
    Tx.ensures_done, Tables.workspace_addFact]
  intro row found
  have stored : row.bindingId = bindingId := Table.key_of_get? found
  subst stored
  refine ⟨fun _ => .refl, ?_⟩
  intro _ active
  refine .single (.bindingEdited row _ _ found ?_ ?_ ?_ ?_ (Table.stores_modify found))
  · rfl
  · rfl
  · rfl
  · intro _
    simpa using active

end EidolonData
