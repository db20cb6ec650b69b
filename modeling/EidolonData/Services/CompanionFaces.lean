import EidolonData.Services.OwnerFaceProfiles

/-!
# Companion faces

`CompanionFaceAssetsRepository`: the display face of a Companion.  A new face
supersedes the one before it, whose row stays.
-/

namespace EidolonData

open Relational

/-- `_validate_asset_inputs`. -/
def validateAssetInputs (contentType : String) (sizeBytes : Int) (sha256 storageKey : String) :
    Except Error Unit :=
  if contentType ≠ "image/jpeg" then
    .error (.valueError "companion face asset must be image/jpeg")
  else if sizeBytes ≤ 0 then
    .error (.valueError "companion face asset size must be positive")
  else if matchesSha256 sha256 = false then
    .error (.valueError "companion face asset sha256 must be lowercase hexadecimal")
  else if isSafeRelativePath storageKey = false then
    .error (.valueError "companion face asset storage key must be a safe relative path")
  else
    .ok ()

def CompanionFaceAssetRow.isActiveOf (row : CompanionFaceAssetRow) (companionId : String) : Bool :=
  row.companionId = companionId && row.state = .active

/-- The row after the active faces of a Companion are superseded. -/
def CompanionFaceAssetRow.supersede (companionId : String) (row : CompanionFaceAssetRow) :
    CompanionFaceAssetRow :=
  { row with state := if row.isActiveOf companionId then .superseded else row.state }

def Faces.supersedeFaces (f : Faces) (companionId : String) : Faces :=
  { f with
    companionFaceAssets :=
      f.companionFaceAssets.update (CompanionFaceAssetRow.supersede companionId) (fun _ => rfl) }

def Faces.facesOf (f : Faces) (companionId : String) : List CompanionFaceAssetRow :=
  f.companionFaceAssets.select (fun row => row.companionId = companionId)

/-- A governance fact of a companion's face. -/
def companionFaceFact (uuid : Uuid) (now : Timestamp) (row : CompanionFaceAssetRow)
    (action : String) (payload : JsonDict) : AuditFact :=
  { governanceFact uuid now row.ownerId "companion_face_asset" row.faceAssetId action payload with
    dataClassification := "sensitive" }

/-- The refusal of a face at its commit. -/
def faceChanged : Error :=
  .valueError "companion face asset changed concurrently or storage key is reused; retry"

def setFace (env : Env) (companionId condStorageKey condContentType : String)
    (condSizeBytes : Int) (condSha256 : String) : Session CompanionFaceAssetRow := do
  check (validateAssetInputs condContentType condSizeBytes condSha256 condStorageKey)
  let stored ← getCompanion companionId
  let companion ← Tx.require stored (.keyError ("companion not found: " ++ companionId))
  Tx.modify (fun t => t.mapFaces (fun f => f.supersedeFaces companionId))
  let versions ← Tx.read (fun t => (t.faces.facesOf companionId).map (fun row => row.version))
  let row : CompanionFaceAssetRow :=
    { faceAssetId := "cfa_" ++ (env.uuid 0).hex
      companionId := companionId
      ownerId := companion.ownerId
      version := versions.max?.getD 0 + 1
      condStorageKey := condStorageKey
      condSizeBytes := condSizeBytes
      condSha256 := condSha256 }
  Tx.attempt (fun t =>
    if t.faces.companionFaceAssets.has row.faceAssetId then .error faceChanged
    else .ok (t.mapFaces (fun f =>
      { f with companionFaceAssets := f.companionFaceAssets.insert row })))
  addFact env (companionFaceFact (env.uuid 1) env.now row "companion.face_asset.activated"
    [("companion_id", .str companionId), ("version", .int row.version),
     ("sha256", .str condSha256)])
  let accepted ← Tx.read (fun t => decide t.Integrity)
  Tx.refuseIf (accepted = false) faceChanged
  return row

/-- The checks of `set_idle_clip`. -/
def validateIdleClip (sizeBytes : Int) (sha256 storageKey : String) : Except Error Unit :=
  if sizeBytes ≤ 0 then
    .error (.valueError "idle clip size must be positive")
  else if matchesSha256 sha256 = false then
    .error (.valueError "idle clip sha256 must be lowercase hexadecimal")
  else if isSafeRelativePath storageKey = false then
    .error (.valueError "idle clip storage key must be a safe relative path")
  else
    .ok ()

/-- The clip a face had before is overwritten; its key is handed to nobody. -/
def setIdleClip (env : Env) (faceAssetId storageKey : String) (sizeBytes : Int)
    (sha256 : String) : Session CompanionFaceAssetRow := do
  check (validateIdleClip sizeBytes sha256 storageKey)
  let stored ← Tx.read (fun t => t.faces.companionFaceAssets.get? faceAssetId)
  let row ← Tx.require stored (.keyError ("companion face asset not found: " ++ faceAssetId))
  Tx.modify (fun t => t.mapFaces (fun f =>
    { f with
      companionFaceAssets := f.companionFaceAssets.modify faceAssetId (fun row =>
        { row with idleStorageKey := some storageKey }) (fun _ => rfl) }))
  addFact env (companionFaceFact (env.uuid 0) env.now row "companion.face_asset.idle_clip_ready"
    [("companion_id", .str row.companionId), ("version", .int row.version),
     ("sha256", .str sha256)])
  return { row with idleStorageKey := some storageKey }

def getActiveFace (companionId : String) : Session (Option CompanionFaceAssetRow) :=
  Tx.read (fun t => (t.faces.companionFaceAssets.select (fun row =>
    row.isActiveOf companionId)).head?)

def clearFace (env : Env) (companionId : String) : Session Bool := do
  let active ← getActiveFace companionId
  match active with
  | none => return false
  | some row => do
      Tx.modify (fun t => t.mapFaces (fun f =>
        { f with
          companionFaceAssets := f.companionFaceAssets.modify row.faceAssetId (fun row =>
            { row with state := .superseded }) (fun _ => rfl) }))
      addFact env (companionFaceFact (env.uuid 0) env.now row "companion.face_asset.cleared"
        [("companion_id", .str companionId), ("version", .int row.version)])
      return true

end EidolonData
