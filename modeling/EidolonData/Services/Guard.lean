import EidolonData.Services.Session

/-!
# Guard bindings

`GuardBindingsRepository`: the governed reference from an Owner's Guard
Companion to a physical device.
-/

namespace EidolonData

open Relational

def validateOpaqueId (label value : String) : Except Error Unit :=
  if matchesOpaqueId value then .ok ()
  else
    .error (.valueError (label ++
      " must be 1-128 safe opaque characters (letters, numbers, _, ., :, or -)"))

/-- `_validate_guard_companion`. -/
def validateGuardCompanion (stored : Option CompanionRow) (ownerId : String) :
    Except Error CompanionRow :=
  match stored.filter (fun row => row.ownerId = ownerId) with
  | none => .error (.valueError "guard companion not found for owner")
  | some companion =>
      if companion.lifecycleState ≠ .active then
        .error (.valueError "guard companion is not active")
      else if companion.kind ≠ .guard then
        .error (.valueError "companion kind must be guard")
      else
        .ok companion

def bindGuard (env : Env) (ownerId guardCompanionId deviceId policyId : String)
    (policyJson : Option JsonDict) (bindingId : Option String) : Session GuardBindingRow := do
  let bindingId := orDefault bindingId ("gb_" ++ (env.uuid 0).hex)
  let taken := Error.valueError
    "an active binding already exists for this device or guard companion"
  check (validateOpaqueId "device_id" deviceId)
  check (validateOpaqueId "policy_id" policyId)
  check (validateOpaqueId "binding_id" bindingId)
  let stored ← getCompanion guardCompanionId
  let _ ← check (validateGuardCompanion stored ownerId)
  let row : GuardBindingRow :=
    { bindingId := bindingId
      ownerId := ownerId
      guardCompanionId := guardCompanionId
      deviceId := deviceId
      state := .active
      policyId := policyId
      policyRevision := 1
      policyJson := policyJson.getD []
      createdAt := env.now }
  Tx.attempt (fun t =>
    if t.workspace.guardBindings.has bindingId then .error taken
    else .ok (t.mapWorkspace (fun w =>
      { w with guardBindings := w.guardBindings.insert row })))
  addFact env (governanceFact (env.uuid 1) env.now ownerId "guard_binding" bindingId
    "guard.binding.created"
    [("guard_companion_id", .str guardCompanionId), ("device_id", .str deviceId),
     ("policy_id", .str policyId), ("policy_revision", .int 1)])
  -- the flush: an `IntegrityError` is answered as a refusal of its own
  let accepted ← Tx.read (fun t => decide t.Integrity)
  Tx.refuseIf (accepted = false) taken
  return row

def updateGuardPolicy (env : Env) (bindingId : String) (expectedRevision : Int)
    (policyId : String) (policyJson : JsonDict) : Session GuardBindingRow := do
  check (validateOpaqueId "policy_id" policyId)
  Tx.refuseIf (expectedRevision < 1) (.valueError "expected_revision must be positive")
  let stored ← getBinding bindingId
  let row ← Tx.require stored (.keyError ("guard binding not found: " ++ bindingId))
  Tx.refuseIf (row.state ≠ .active)
    (.valueError "only an active guard binding can be updated")
  Tx.refuseIf (row.policyRevision ≠ expectedRevision)
    (.valueError ("guard policy revision conflict: expected " ++ toString expectedRevision ++
      ", current " ++ toString row.policyRevision))
  let updated : GuardBindingRow :=
    { row with
      policyId := policyId
      policyJson := policyJson
      policyRevision := row.policyRevision + 1 }
  updateBindingRow bindingId (fun stored =>
    { stored with
      policyId := updated.policyId
      policyJson := updated.policyJson
      policyRevision := updated.policyRevision })
  addFact env (governanceFact (env.uuid 0) env.now row.ownerId "guard_binding" row.bindingId
    "guard.policy.updated"
    [("device_id", .str row.deviceId), ("policy_id", .str policyId),
     ("policy_revision", .int updated.policyRevision)])
  return updated

def disableGuard (env : Env) (bindingId : String) (revoke : Bool) : Session GuardBindingRow := do
  let stored ← getBinding bindingId
  let row ← Tx.require stored (.keyError ("guard binding not found: " ++ bindingId))
  let target : BindingState := if revoke then .revoked else .disabled
  if row.state = target then
    return row
  else
    Tx.refuseIf (row.state ≠ .active)
      (.valueError ("cannot transition guard binding from " ++ row.state.text ++ " to " ++
        target.text))
    let updated : GuardBindingRow :=
      { row with
        state := target
        revokedAt := if revoke then some env.now else row.revokedAt
        disabledAt := if revoke then row.disabledAt else some env.now }
    updateBindingRow bindingId (fun stored =>
      { stored with
        state := updated.state
        revokedAt := updated.revokedAt
        disabledAt := updated.disabledAt })
    addFact env (governanceFact (env.uuid 0) env.now row.ownerId "guard_binding" row.bindingId
      ("guard.binding." ++ target.text) [("device_id", .str row.deviceId)])
    return updated

end EidolonData
