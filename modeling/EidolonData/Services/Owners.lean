import EidolonData.Services.Session

/-!
# Owner commands

`OwnerService` and the rename of the Owners repository.
-/

namespace EidolonData

open Relational

def validateOwnerId (ownerId : String) : Except Error String :=
  let value := strip ownerId
  if value ≠ ownerId ∨ matchesOwnerId value = false then
    .error (.ownerWorkspaceError
      "owner_id must be 1-48 chars and contain only letters, numbers, _, ., or -")
  else
    .ok value

def createOwner (env : Env) (ownerId displayName kind : String)
    (profileJson settingsJson : Option JsonDict) : Session OwnerRow := do
  let ownerId ← check (validateOwnerId ownerId)
  let kind ← Tx.require (OwnerKind.ofText? kind)
    (.ownerWorkspaceError "owner kind must be person, family, or team")
  let existing ← getOwner ownerId
  Tx.refuseIf existing.isSome (.ownerWorkspaceError "owner already exists")
  let owner : OwnerRow :=
    { ownerId := ownerId
      displayName := orDefault (some (strip displayName)) ownerId
      kind := kind
      status := .active
      profileJson := profileJson.getD []
      settingsJson := settingsJson.getD [] }
  insertOwner owner
  addFact env (governanceFact (env.uuid 0) env.now ownerId "owner" ownerId "owner.created"
    [("kind", .str kind.text), ("display_name", .str owner.displayName)])
  return owner

/-- The display name an update asks for. -/
def updatedDisplayName (owner : OwnerRow) : Option String → Except Error String
  | none => .ok owner.displayName
  | some text =>
      if strip text = "" then .error (.ownerWorkspaceError "display_name cannot be blank")
      else .ok (strip text)

def updateOwner (env : Env) (ownerId : String) (displayName : Option String)
    (profileJson settingsJson : Option JsonDict) : Session OwnerRow := do
  let stored ← getOwner ownerId
  let owner ← Tx.require stored (.keyError ("owner not found: " ++ ownerId))
  Tx.refuseIf (owner.status ≠ .active)
    (.ownerWorkspaceError "only an active owner can be updated")
  let name ← check (updatedDisplayName owner displayName)
  let changed :=
    (if displayName.isSome then ["display_name"] else []) ++
      (if profileJson.isSome then ["profile"] else []) ++
        (if settingsJson.isSome then ["settings"] else [])
  let updated : OwnerRow :=
    { owner with
      displayName := name
      profileJson := profileJson.getD owner.profileJson
      settingsJson := settingsJson.getD owner.settingsJson }
  if changed = [] then
    return owner
  else
    updateOwnerRow ownerId (fun row =>
      { row with
        displayName := updated.displayName
        profileJson := updated.profileJson
        settingsJson := updated.settingsJson })
    addFact env (governanceFact (env.uuid 0) env.now ownerId "owner" ownerId "owner.updated"
      [("changed_fields", .arr (changed.map .str))])
    return updated

/-- `OwnersRepository.rename`. -/
def renameOwner (ownerId displayName : String) : Session (Option OwnerRow) := do
  let stored ← getOwner ownerId
  match stored with
  | none => return none
  | some owner =>
      updateOwnerRow ownerId (fun row => { row with displayName := displayName })
      return some { owner with displayName := displayName }

/-- The rows `archive_owner` rewrites, in one flush: the active Companions, the
Owner, the active realms and the active bindings. -/
def Workspace.archiveOwner (w : Workspace) (now : Timestamp) (owner : OwnerRow) : Workspace :=
  { owners := w.owners.modify owner.ownerId (fun row =>
      { row with
        status := .archived
        defaultCompanionId := none
        revision := owner.revision + 1 })
    companions := w.companions.update (fun row =>
      if row.ownerId = owner.ownerId ∧ row.lifecycleState = .active then
        { row with lifecycleState := .archived, revision := row.revision + 1 }
      else row) (by intro row; split <;> rfl)
    personaGenomes := w.personaGenomes
    memoryRealms := w.memoryRealms.update (fun row =>
      if row.ownerId = owner.ownerId ∧ row.status = .active then
        { row with status := .inactive }
      else row) (by intro row; split <;> rfl)
    guardBindings := w.guardBindings.update (fun row =>
      if row.ownerId = owner.ownerId ∧ row.state = .active then
        { row with state := .disabled, disabledAt := some now }
      else row) (by intro row; split <;> rfl) }

def archiveOwner (env : Env) (ownerId : String) : Session OwnerRow := do
  let stored ← getOwner ownerId
  let owner ← Tx.require stored (.keyError ("owner not found: " ++ ownerId))
  if owner.status = .archived then
    return owner
  else
    Tx.refuseIf (owner.status ≠ .active)
      (.ownerWorkspaceError ("cannot archive owner in state " ++ owner.status.text))
    let realms ← Tx.read (fun t => t.workspace.memoryRealms.select (fun row =>
      row.ownerId = ownerId && row.status = .active))
    let bindings ← Tx.read (fun t => t.workspace.guardBindings.select (fun row =>
      row.ownerId = ownerId && row.state = .active))
    Tx.modify (fun t => t.mapWorkspace (fun w => w.archiveOwner env.now owner))
    addFact env (governanceFact (env.uuid 0) env.now ownerId "owner" ownerId "owner.archived"
      [("memory_realms_inactivated", .int realms.length),
       ("guard_bindings_disabled", .int bindings.length)])
    return { owner with
      status := .archived
      defaultCompanionId := none
      revision := owner.revision + 1 }

end EidolonData
