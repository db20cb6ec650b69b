import EidolonData.Services.Workspace

/-!
# The lifecycle of a Companion

Retirement, archiving, putting away and restoring, and the Owner's choice of
a default.  Where the source passes a loaded row from one helper to the next,
or finds it again in the session's identity map, the model passes the row.
-/

namespace EidolonData

open Relational

/-- `_owned_companion`: this Owner's Companion in whatever state it is in. -/
def ownedCompanion (ownerId companionId : String) : Session CompanionRow := do
  let stored ← getCompanion companionId
  Tx.require (stored.filter (fun row => row.ownerId = ownerId))
    (.companionLifecycleConflict "companion not found for owner" .notFound)

/-- `_require_transition`: refuse a move the lifecycle does not allow, or a
stale caller. -/
def requireTransition (sdk : Sdk) (companion : CompanionRow) (target : LifecycleState)
    (expectedRevision : Option Int) : Except Error Unit :=
  if target ∉ sdk.lifecycleTransitions companion.lifecycleState then
    .error (.companionLifecycleConflict
      ("a " ++ companion.lifecycleState.text ++ " companion cannot become " ++ target.text)
      .transitionNotAllowed)
  else if expectedRevision.any (fun expected => expected ≠ companion.revision) then
    .error (.companionLifecycleConflict "companion revision has moved since this caller read it"
      .revisionStale)
  else
    .ok ()

/-- Who could answer for the Owner instead of one Companion. -/
def Sdk.canReplace (sdk : Sdk) (ownerId retiringId : String) (row : CompanionRow) : Bool :=
  row.ownerId = ownerId && row.companionId ≠ retiringId &&
    row.lifecycleState ∈ sdk.defaultEligibleLifecycleStates && row.kind ≠ .guard

/-- `_eligible_replacement`. -/
def eligibleReplacement (sdk : Sdk) (ownerId retiringId : String)
    (replacementCompanionId : Option String) : Session CompanionRow := do
  let others ← Tx.read (fun t => t.workspace.companions.select (sdk.canReplace ownerId retiringId))
  Tx.refuseIf (others = [])
    (.companionLifecycleConflict "this owner has no other companion that could answer"
      .lastActiveCompanion)
  let replacementId ← Tx.require replacementCompanionId
    (.companionLifecycleConflict "archiving the default companion requires a replacement"
      .defaultReplacementRequired)
  Tx.require (others.find? (fun candidate => candidate.companionId = replacementId))
    (.companionLifecycleConflict "the named replacement cannot answer for this owner"
      .defaultReplacementIneligible)

/-- The Owner row with its default moved, as the session holds it. -/
def OwnerRow.pointAt (owner : OwnerRow) (companionId : String) : OwnerRow :=
  { owner with
    defaultCompanionId := some companionId
    revision := owner.revision + 1 }

/-- The flush of a moved default. -/
def writeDefault (owner : OwnerRow) : Session Unit :=
  updateOwnerRow owner.ownerId (fun row =>
    { row with
      defaultCompanionId := owner.defaultCompanionId
      revision := owner.revision })

/-- The Companion row in its next lifecycle state, as the session holds it. -/
def CompanionRow.moveTo (companion : CompanionRow) (target : LifecycleState) : CompanionRow :=
  { companion with
    lifecycleState := target
    revision := companion.revision + 1 }

/-- The flush of a lifecycle move. -/
def writeLifecycle (companion : CompanionRow) : Session Unit :=
  updateCompanionRow companion.companionId (fun row =>
    { row with
      lifecycleState := companion.lifecycleState
      revision := companion.revision })

/-- The replacement of the retiring default: the pointer moves in the same
transaction. -/
def handOverDefault (sdk : Sdk) (env : Env) (owner : OwnerRow) (companionId : String)
    (replacementCompanionId : Option String) : Session (OwnerRow × Option CompanionRow) :=
  if owner.defaultCompanionId = some companionId then do
    let replacement ← eligibleReplacement sdk owner.ownerId companionId replacementCompanionId
    writeDefault (owner.pointAt replacement.companionId)
    addFact env (governanceFact (env.uuid 0) env.now owner.ownerId "owner" owner.ownerId
      "owner.default_companion_changed"
      [("companion_id", .str replacement.companionId),
       ("previous_companion_id", .str companionId), ("reason", .str "retirement")])
    return (owner.pointAt replacement.companionId, some replacement)
  else
    return (owner, none)

/-- `_retire`: the Companion and, where it was loaded, the Owner as the session
then holds them. -/
def retire (sdk : Sdk) (env : Env) (ownerId : String) (companion : CompanionRow)
    (expectedRevision : Option Int) (replacementCompanionId : Option String) :
    Session (CompanionRow × Option OwnerRow) := do
  if companion.lifecycleState = .retiring then
    return (companion, none)
  else
    check (requireTransition sdk companion .retiring expectedRevision)
    let stored ← getOwner ownerId
    let owner ← Tx.require stored (.ownerWorkspaceNotFound "owner not found")
    let (owner, replacement) ← handOverDefault sdk env owner companion.companionId
      replacementCompanionId
    writeLifecycle (companion.moveTo .retiring)
    addFact env (governanceFact (env.uuid 1) env.now ownerId "companion" companion.companionId
      "companion.retirement_begun"
      [("replacement_companion_id",
        Json.ofString? (replacement.map (fun row => row.companionId)))])
    return (companion.moveTo .retiring, some owner)

def beginRetirement (sdk : Sdk) (env : Env) (ownerId companionId : String)
    (expectedRevision : Option Int) (replacementCompanionId : Option String) :
    Session CompanionRow := do
  let companion ← ownedCompanion ownerId companionId
  let (companion, _) ← retire sdk env ownerId companion expectedRevision replacementCompanionId
  return companion

/-- `session.get(OwnerRow, owner_id)`, answered by the identity map where this
session has loaded the Owner. -/
def getLoadedOwner (ownerId : String) : Option OwnerRow → Session (Option OwnerRow)
  | some owner => Tx.done (some owner)
  | none => getOwner ownerId

/-- `_archive`. -/
def archive (sdk : Sdk) (env : Env) (ownerId : String) (companion : CompanionRow)
    (loaded : Option OwnerRow) (expectedRevision : Option Int) : Session CompanionRow := do
  if companion.lifecycleState = .archived then
    return companion
  else
    check (requireTransition sdk companion .archived expectedRevision)
    let owner ← getLoadedOwner ownerId loaded
    Tx.refuseIf (owner.any (fun row => row.defaultCompanionId = some companion.companionId))
      (.companionLifecycleConflict "companion is still this owner's default"
        .defaultReplacementRequired)
    writeLifecycle (companion.moveTo .archived)
    addFact env (governanceFact (env.uuid 2) env.now ownerId "companion" companion.companionId
      "companion.archived")
    return companion.moveTo .archived

def archiveCompanion (sdk : Sdk) (env : Env) (ownerId companionId : String)
    (expectedRevision : Option Int) : Session CompanionRow := do
  let companion ← ownedCompanion ownerId companionId
  archive sdk env ownerId companion none expectedRevision

/-- `put_away_companion`: retire it and archive it, in one transaction. -/
def putAwayCompanion (sdk : Sdk) (env : Env) (ownerId companionId : String)
    (expectedRevision : Option Int) (replacementCompanionId : Option String) :
    Session CompanionRow := do
  let companion ← ownedCompanion ownerId companionId
  if companion.lifecycleState ≠ .archived then
    let (companion, owner) ← retire sdk env ownerId companion expectedRevision
      replacementCompanionId
    archive sdk env ownerId companion owner none
  else
    return companion

def restoreCompanion (sdk : Sdk) (env : Env) (ownerId companionId : String)
    (expectedRevision : Option Int) : Session CompanionRow := do
  let companion ← ownedCompanion ownerId companionId
  if companion.lifecycleState = .active then
    return companion
  else
    check (requireTransition sdk companion .active expectedRevision)
    writeLifecycle (companion.moveTo .active)
    addFact env (governanceFact (env.uuid 0) env.now ownerId "companion" companionId
      "companion.restored" [("restored_from", .str "archived")])
    return companion.moveTo .active

/-- The pointer half of `set_default_companion`. -/
def moveDefault (env : Env) (owner : OwnerRow) (companionId : String) : Session Unit :=
  if owner.defaultCompanionId ≠ some companionId then do
    writeDefault (owner.pointAt companionId)
    addFact env (governanceFact (env.uuid 2) env.now owner.ownerId "owner" owner.ownerId
      "owner.default_companion_changed"
      [("companion_id", .str companionId),
       ("previous_companion_id", Json.ofString? owner.defaultCompanionId)])
  else
    Tx.done ()

def setDefaultCompanion (env : Env) (ownerId companionId : String)
    (expectedRevision : Option Int) : Session CompanionRow := do
  let companion ← ownedActiveCompanion ownerId companionId
  Tx.refuseIf (companion.kind = .guard)
    (.ownerWorkspaceError "a guard companion cannot be the default")
  let stored ← getOwner ownerId
  let owner ← Tx.require stored (.ownerWorkspaceNotFound "owner not found")
  Tx.refuseIf (expectedRevision.any (fun expected => expected ≠ owner.revision) ∧
      owner.defaultCompanionId ≠ some companionId)
    (.ownerWorkspaceConflict "owner revision has moved since this caller read it")
  moveDefault env owner companionId
  let (realm, created) ← ensureMemoryRealmInSession env companion {}
  if created then
    realmCataloged env ownerId companionId realm
    return { companion with defaultMemoryRealmId := some realm.realmId }
  else
    return { companion with defaultMemoryRealmId := some realm.realmId }

end EidolonData
