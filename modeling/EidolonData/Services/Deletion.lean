import EidolonData.Services.Session

/-!
# Deletion

The hard deletion of a Companion and of an Owner, with the receipts for what
lies outside the database.
-/

namespace EidolonData

open Relational

structure CompanionDeletionResult where
  ownerId : String
  companionId : String
  faceAssetStorageKeys : List String
  deletedRows : JsonDict
  deriving DecidableEq, Repr

/-- Both storage keys of a face, the empty ones left out. -/
def CompanionFaceAssetRow.storageKeys (row : CompanionFaceAssetRow) : List String :=
  ([row.condStorageKey] ++ row.idleStorageKey.toList).filter (· ≠ "")

/-- The writes of `delete_companion` before the `DELETE`: the pointers are
broken first. -/
def breakCompanionPointers (owner : Option OwnerRow) (companionId : String) : Session Unit := do
  match owner with
  | some owner =>
      if owner.defaultCompanionId = some companionId then
        updateOwnerRow owner.ownerId (fun row =>
          { row with
            defaultCompanionId := none
            revision := owner.revision + 1 })
      else
        Tx.done ()
  | none => Tx.done ()
  updateCompanionRow companionId (fun row =>
    { row with
      currentGenomeId := none
      defaultMemoryRealmId := none })

def deleteCompanion (env : Env) (ownerId companionId : String) (allowDefault : Bool) :
    Session CompanionDeletionResult := do
  let stored ← getCompanion companionId
  let _ ← Tx.require (stored.filter (fun row => row.ownerId = ownerId))
    (.companionDeletionError "companion not found for owner")
  let owner ← getOwner ownerId
  Tx.refuseIf (owner.any (fun row => row.defaultCompanionId = some companionId) ∧
      allowDefault = false)
    (.companionDeletionError
      "refusing to delete this Owner's default companion without allow_default")
  let faces ← Tx.read (fun t => t.faces.companionFaceAssets.select (fun row =>
    row.companionId = companionId))
  let genomes ← Tx.read (fun t => t.workspace.personaGenomes.select (fun row =>
    row.companionId = companionId))
  let bindings ← Tx.read (fun t => t.workspace.guardBindings.select (fun row =>
    row.guardCompanionId = companionId))
  let deletedRows : JsonDict :=
    [("companions", .int 1), ("persona_genomes", .int genomes.length),
     ("companion_face_assets", .int faces.length), ("guard_bindings", .int bindings.length)]
  breakCompanionPointers owner companionId
  Tx.modify (fun t => t.deleteCompanion companionId)
  addFact env (governanceFact (env.uuid 0) env.now ownerId "companion" companionId
    "companion.deleted" [("deleted_rows", .obj deletedRows)])
  return {
    ownerId := ownerId
    companionId := companionId
    faceAssetStorageKeys := faces.flatMap (fun row => row.storageKeys)
    deletedRows := deletedRows }

structure OwnerDeletionResult where
  ownerId : String
  deleted : Bool
  realmIds : List String
  objectStorageKeys : List String
  deletedRows : JsonDict
  deriving DecidableEq, Repr

/-- The storage keys of an Owner's face references. -/
def Faces.referenceKeys (f : Faces) (ownerId : String) : List String :=
  (f.ownerFaceReferences.select (fun row =>
    (f.ownerFaceProfileRevisions.get? row.profileRevisionId).any
      (fun revision => revision.ownerId = ownerId))).map (fun row => row.storageKey)

/-- What `delete_owner` counts and returns, read before the deletion. -/
def ownerReceipt (ownerId : String) (t : Tables) : OwnerDeletionResult :=
  let companions := t.workspace.companions.select (fun row => row.ownerId = ownerId)
  let companionIds := companions.map (fun row => row.companionId)
  let genomes := t.workspace.personaGenomes.select (fun row => row.companionId ∈ companionIds)
  let realms := t.workspace.memoryRealms.select (fun row => row.ownerId = ownerId)
  let faces := t.faces.companionFaceAssets.select (fun row => row.ownerId = ownerId)
  let bindings := t.workspace.guardBindings.select (fun row => row.ownerId = ownerId)
  let revisions := t.faces.ownerFaceProfileRevisions.select (fun row => row.ownerId = ownerId)
  let referenceKeys := t.faces.referenceKeys ownerId
  let personKeys := (t.people.personFaces.select (fun row => row.ownerId = ownerId)).filterMap
    (fun row => row.storageKey)
  { ownerId := ownerId
    deleted := true
    realmIds := realms.map (fun row => row.realmId)
    objectStorageKeys := faces.flatMap (fun row => row.storageKeys) ++ referenceKeys ++ personKeys
    deletedRows :=
      [("owners", .int 1), ("companions", .int companions.length),
       ("persona_genomes", .int genomes.length), ("memory_realms", .int realms.length),
       ("companion_face_assets", .int faces.length), ("guard_bindings", .int bindings.length),
       ("owner_face_profile_revisions", .int revisions.length),
       ("owner_face_references", .int referenceKeys.length)] }

/-- The pointers of an Owner's Companions, broken before the `DELETE`. -/
def Workspace.breakPointers (w : Workspace) (ownerId : String) : Workspace :=
  { w with
    companions := w.companions.update (fun row =>
      if row.ownerId = ownerId then
        { row with
          currentGenomeId := none
          defaultMemoryRealmId := none }
      else row) (by intro row; split <;> rfl) }

def deleteOwner (env : Env) (ownerId : String) : Session OwnerDeletionResult := do
  let stored ← getOwner ownerId
  match stored with
  | none =>
      return {
        ownerId := ownerId
        deleted := false
        realmIds := []
        objectStorageKeys := []
        deletedRows := [] }
  | some _ => do
      let receipt ← Tx.read (ownerReceipt ownerId)
      Tx.modify (fun t => t.mapWorkspace (fun w => w.breakPointers ownerId))
      Tx.modify (fun t => t.deleteOwner ownerId)
      addFact env (governanceFact (env.uuid 0) env.now ownerId "owner" ownerId "owner.deleted"
        [("realm_ids", .arr (receipt.realmIds.map .str)),
         ("deleted_rows", .obj receipt.deletedRows)])
      return receipt

end EidolonData
