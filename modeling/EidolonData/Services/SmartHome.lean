import Mathlib.Data.String.Basic
import EidolonData.Library.Ordering
import EidolonData.Services.Session

/-!
# The smart-home registry

The Owner's home as rows, and the SDK registry they are loaded to.  A write
moves the registry's revision first, loads the registry, builds the one it
would produce and has the SDK accept it, edits the rows, and records one fact.
-/

namespace EidolonData

open Relational

section Rows

def Area.row (ownerId : String) (position : Int) (area : Area) : SmartHomeAreaRow :=
  { ownerId := ownerId
    areaId := area.areaId
    name := area.name
    sortOrder := area.order
    position := position }

/-- The columns an update of an area writes. -/
def SmartHomeAreaRow.assign (row : SmartHomeAreaRow) (area : Area) : SmartHomeAreaRow :=
  { row with
    name := area.name
    sortOrder := area.order }

def SmartHomeAreaRow.load (row : SmartHomeAreaRow) : Area :=
  { areaId := row.areaId
    name := row.name
    order := row.sortOrder }

/-- `_device_columns`, in place. -/
def SmartHomeDeviceRow.assign (row : SmartHomeDeviceRow) (device : Device) :
    SmartHomeDeviceRow :=
  { row with
    name := device.name
    aliasesJson := device.aliases
    deviceType := device.type
    areaId := device.areaId
    provider := device.provider
    providerRef := device.providerRef
    traitsJson := device.traits
    limitsJson := device.limits
    source := device.source
    overridesJson := device.overrides
    syncedAtMs := device.syncedAtMs
    orphaned := device.orphaned }

def Device.row (ownerId : String) (position : Int) (device : Device) : SmartHomeDeviceRow :=
  SmartHomeDeviceRow.assign
    { ownerId := ownerId
      deviceId := device.deviceId
      name := device.name
      deviceType := device.type
      position := position } device

def SmartHomeDeviceRow.load (row : SmartHomeDeviceRow) : Device :=
  { deviceId := row.deviceId
    name := row.name
    aliases := row.aliasesJson
    type := row.deviceType
    areaId := row.areaId
    provider := row.provider
    providerRef := row.providerRef
    traits := row.traitsJson
    limits := row.limitsJson
    source := if row.source = "" then "manual" else row.source
    overrides := row.overridesJson
    syncedAtMs := row.syncedAtMs
    orphaned := row.orphaned }

/-- `_scene_columns`, in place. -/
def SmartHomeSceneRow.assign (row : SmartHomeSceneRow) (scene : Scene) : SmartHomeSceneRow :=
  { row with
    name := scene.name
    provider := scene.provider
    providerRef := scene.providerRef }

def Scene.row (ownerId : String) (position : Int) (scene : Scene) : SmartHomeSceneRow :=
  SmartHomeSceneRow.assign
    { ownerId := ownerId
      sceneId := scene.sceneId
      name := scene.name
      position := position } scene

/-- `_action_rows`. -/
def Scene.actionRows (ownerId : String) (scene : Scene) : List SmartHomeSceneActionRow :=
  scene.actions.zipIdx.map fun (action, index) =>
    { ownerId := ownerId
      sceneId := scene.sceneId
      position := index
      deviceId := action.deviceId
      trait := action.trait
      command := action.command
      paramsJson := action.params }

def SmartHomeSceneActionRow.load (row : SmartHomeSceneActionRow) : SceneAction :=
  { deviceId := row.deviceId
    trait := row.trait
    command := row.command
    params := row.paramsJson }

/-- The scene of a row with the actions among these rows. -/
def SmartHomeSceneRow.load (actions : List SmartHomeSceneActionRow) (row : SmartHomeSceneRow) :
    Scene :=
  { sceneId := row.sceneId
    name := row.name
    provider := row.provider
    providerRef := row.providerRef
    actions := (actions.filter (fun action => action.sceneId = row.sceneId)).map
      SmartHomeSceneActionRow.load }

def Placement.row (ownerId : String) (placement : Placement) : SmartHomePlacementRow :=
  { ownerId := ownerId
    deviceRef := placement.deviceRef
    areaId := placement.areaId }

/-- The column a second statement about a device writes. -/
def SmartHomePlacementRow.assign (row : SmartHomePlacementRow) (placement : Placement) :
    SmartHomePlacementRow :=
  { row with areaId := placement.areaId }

def SmartHomePlacementRow.load (row : SmartHomePlacementRow) : Placement :=
  { deviceRef := row.deviceRef
    areaId := row.areaId }

end Rows

section Queries

variable (h : SmartHome) (ownerId : String)

/-- `ORDER BY sort_order, position`. -/
def SmartHome.selectAreas : List SmartHomeAreaRow :=
  orderBy (fun row => row.sortOrder)
    (orderBy (fun row => row.position) (h.areas.select (fun row => row.ownerId = ownerId)))

def SmartHome.selectDevices : List SmartHomeDeviceRow :=
  orderBy (fun row => row.position) (h.devices.select (fun row => row.ownerId = ownerId))

def SmartHome.selectScenes : List SmartHomeSceneRow :=
  orderBy (fun row => row.position) (h.scenes.select (fun row => row.ownerId = ownerId))

/-- `ORDER BY scene_id, position`. -/
def SmartHome.selectActions : List SmartHomeSceneActionRow :=
  orderBy (fun row => row.sceneId)
    (orderBy (fun row => row.position) (h.sceneActions.select (fun row => row.ownerId = ownerId)))

def SmartHome.selectPlacements : List SmartHomePlacementRow :=
  orderBy (fun row => row.deviceRef) (h.placements.select (fun row => row.ownerId = ownerId))

end Queries

/-- `load_registry`: each of the five queries is a statement of its own. -/
def loadRegistry (sdk : Sdk) (ownerId : String) (revision : Int) : Session Registry := do
  let areas ← Tx.read (fun t => t.home.selectAreas ownerId)
  let devices ← Tx.read (fun t => t.home.selectDevices ownerId)
  let scenes ← Tx.read (fun t => t.home.selectScenes ownerId)
  let actions ← Tx.read (fun t => t.home.selectActions ownerId)
  match actions.find? (fun action => scenes.all (fun scene => scene.sceneId ≠ action.sceneId)) with
  | some action => Tx.refuse (.keyError action.sceneId)
  | none => do
      let placements ← Tx.read (fun t => t.home.selectPlacements ownerId)
      let registry : Registry :=
        { revision := revision
          areas := areas.map SmartHomeAreaRow.load
          devices := devices.map SmartHomeDeviceRow.load
          scenes := scenes.map (SmartHomeSceneRow.load actions)
          placements := placements.map SmartHomePlacementRow.load }
      Tx.lift (fun fault => .validationError fault.detail) (sdk.validateRegistry registry)
      return registry

/-- `get_registry`: the revision is read before the rows it labels. -/
def getRegistry (sdk : Sdk) (ownerId : String) : Session Registry := do
  let revision ← Tx.read (fun t =>
    (t.home.registries.get? ownerId).map (fun row => row.revision))
  loadRegistry sdk ownerId (revision.getD 0)

/-- `_sdk_refusal`, and the error it is raised as. -/
def RegistryFault.error (fault : RegistryFault) : Error :=
  match fault.first with
  | .sdk code message => .smartHomeRegistryInvalid message code
  | .tooLong field message =>
      .smartHomeRegistryInvalid ("LIMIT_EXCEEDED: " ++ field ++ ": " ++ message) "LIMIT_EXCEEDED"
  | .other => .validationError fault.detail

/-- `_Change`: what one command sees and proposes inside its transaction. -/
structure HomeChange where
  ownerId : String
  current : Registry
  revision : Int

/-- `propose`, of the whole registry the command would produce. -/
def HomeChange.propose (sdk : Sdk) (c : HomeChange) (document : Registry) : Session Registry := do
  let proposed := { document with revision := c.revision }
  Tx.lift RegistryFault.error (sdk.validateRegistry proposed)
  return proposed

/-- `_advance_revision` at revision 0: the registry's first row. -/
def openRegistry (ownerId : String) : Session Int := do
  let existing ← Tx.read (fun t => t.home.registries.get? ownerId)
  match existing with
  | some row => Tx.refuse (.smartHomeRegistryConflict 0 row.revision)
  | none => do
      -- An `INSERT` the database refuses is answered like a row it finds.
      Tx.attempt (fun t =>
        if t.home.registries.has ownerId || !t.workspace.owners.has ownerId then
          .error (.smartHomeRegistryConflict 0 1)
        else .ok (t.mapHome (fun h =>
          { h with registries := h.registries.insert { ownerId := ownerId, revision := 1 } })))
      return 1

/-- `_advance_revision`; past the first write it is one guarded `UPDATE`. -/
def advanceRevision (ownerId : String) (expectedRevision : Int) : Session Int :=
  if expectedRevision = 0 then openRegistry ownerId
  else do
    Tx.attempt (fun t =>
      let current := (t.home.registries.get? ownerId).map (fun row => row.revision)
      if current = some expectedRevision then
        .ok (t.mapHome (fun h =>
          { h with registries := h.registries.modify ownerId (fun row =>
              { row with revision := row.revision + 1 }) }))
      else .error (.smartHomeRegistryConflict expectedRevision (current.getD 0)))
    return expectedRevision + 1

/-- The fact of a registry write. -/
def registryChanged (uuid : Uuid) (now : Timestamp) (ownerId change target : String)
    (revision : Int) (traceId : Option String) : AuditFact :=
  governanceFact uuid now ownerId "smarthome_registry" ownerId "smarthome.registry.changed"
    [("revision", .int revision), ("change", .str change), ("target", .str target)]
    none .success traceId

/-- `_change`: one registry write around the body of a command. -/
def changeRegistry (sdk : Sdk) (env : Env) (ownerId : String) (expectedRevision : Int)
    (change target : String) (body : HomeChange → Session Registry) : Session Registry := do
  Tx.refuseIf (expectedRevision < 0)
    (.valueError "expected_revision must be a non-negative integer")
  let owner ← getOwner ownerId
  Tx.refuseIf (owner = none) (.smartHomeRegistryNotFound "owner not found")
  let revision ← advanceRevision ownerId expectedRevision
  let current ← loadRegistry sdk ownerId expectedRevision
  let proposed ← body { ownerId := ownerId, current := current, revision := revision }
  addFact env (registryChanged (env.uuid 0) env.now ownerId change target proposed.revision none)
  return proposed

section Statements

/-- `next_position`. -/
def nextPosition (positions : SmartHome → List Int) : Session Int :=
  Tx.read (fun t => nextAfter (positions t.home))

def getArea (ownerId areaId : String) : Session (Option SmartHomeAreaRow) :=
  Tx.read (fun t => t.home.areas.get? (ownerId, areaId))

def getDevice (ownerId deviceId : String) : Session (Option SmartHomeDeviceRow) :=
  Tx.read (fun t => t.home.devices.get? (ownerId, deviceId))

def getScene (ownerId sceneId : String) : Session (Option SmartHomeSceneRow) :=
  Tx.read (fun t => t.home.scenes.get? (ownerId, sceneId))

def getPlacement (ownerId deviceRef : String) : Session (Option SmartHomePlacementRow) :=
  Tx.read (fun t => t.home.placements.get? (ownerId, deviceRef))

/-- A statement on the rows of the home that only a taken key can stop. -/
def writeRows (write : SmartHome → Option SmartHome) : Session Unit :=
  Tx.attempt (fun t =>
    match write t.home with
    | some home => .ok (t.mapHome (fun _ => home))
    | none => .error .integrityError)

end Statements

section Areas

variable (sdk : Sdk) (env : Env) (ownerId : String)

def createArea (area : Area) (expectedRevision : Int) : Session Registry :=
  changeRegistry sdk env ownerId expectedRevision "area.created" area.areaId fun c => do
    let proposed ← c.propose sdk { c.current with areas := c.current.areas ++ [area] }
    let position ← nextPosition (fun h =>
      (h.areas.select (fun row => row.ownerId = ownerId)).map (fun row => row.position))
    writeRows (fun h => do
      let areas ← h.areas.insertAll? [area.row ownerId position]
      return { h with areas := areas })
    return proposed

def updateArea (area : Area) (expectedRevision : Int) : Session Registry :=
  changeRegistry sdk env ownerId expectedRevision "area.updated" area.areaId fun c => do
    let row ← getArea ownerId area.areaId
    let _ ← Tx.require row (.smartHomeRegistryNotFound "area not found for owner")
    let proposed ← c.propose sdk { c.current with
      areas := c.current.areas.map (fun existing =>
        if existing.areaId = area.areaId then area else existing) }
    writeRows (fun h => some { h with
      areas := h.areas.modify (ownerId, area.areaId) (fun row => row.assign area) })
    return proposed

def deleteArea (areaId : String) (expectedRevision : Int) : Session Registry :=
  changeRegistry sdk env ownerId expectedRevision "area.deleted" areaId fun c => do
    let row ← getArea ownerId areaId
    let _ ← Tx.require row (.smartHomeRegistryNotFound "area not found for owner")
    let devices := c.current.devices.filter (fun device => device.areaId = some areaId)
    let placed := c.current.placements.filter (fun placement => placement.areaId = areaId)
    Tx.refuseIf (devices ≠ [] ∨ placed ≠ [])
      (.smartHomeRegistryRefused
        ("area " ++ sdk.repr areaId ++ " still has " ++ toString devices.length ++
          " device(s) and " ++ toString placed.length ++
          " placement(s); move or remove them first") "AREA_NOT_EMPTY")
    let proposed ← c.propose sdk { c.current with
      areas := c.current.areas.filter (fun existing => existing.areaId ≠ areaId) }
    writeRows (fun h => some { h with
      areas := h.areas.retain (fun row => key row ≠ (ownerId, areaId)) })
    return proposed

end Areas

section Devices

variable (sdk : Sdk) (env : Env) (ownerId : String)

def createDevice (device : Device) (expectedRevision : Int) : Session Registry :=
  changeRegistry sdk env ownerId expectedRevision "device.created" device.deviceId fun c => do
    let proposed ← c.propose sdk { c.current with devices := c.current.devices ++ [device] }
    let position ← nextPosition (fun h =>
      (h.devices.select (fun row => row.ownerId = ownerId)).map (fun row => row.position))
    writeRows (fun h => do
      let devices ← h.devices.insertAll? [device.row ownerId position]
      return { h with devices := devices })
    return proposed

def updateDevice (device : Device) (expectedRevision : Int) : Session Registry :=
  changeRegistry sdk env ownerId expectedRevision "device.updated" device.deviceId fun c => do
    let row ← getDevice ownerId device.deviceId
    let _ ← Tx.require row (.smartHomeRegistryNotFound "device not found for owner")
    let proposed ← c.propose sdk { c.current with
      devices := c.current.devices.map (fun existing =>
        if existing.deviceId = device.deviceId then device else existing) }
    writeRows (fun h => some { h with
      devices := h.devices.modify (ownerId, device.deviceId) (fun row => row.assign device) })
    return proposed

def deleteDevice (deviceId : String) (expectedRevision : Int) : Session Registry :=
  changeRegistry sdk env ownerId expectedRevision "device.deleted" deviceId fun c => do
    let row ← getDevice ownerId deviceId
    let _ ← Tx.require row (.smartHomeRegistryNotFound "device not found for owner")
    let scenes := c.current.scenes.filter (fun scene =>
      scene.actions.any (fun action => action.deviceId = deviceId))
    Tx.refuseIf (scenes ≠ [])
      (.smartHomeRegistryRefused
        ("device " ++ sdk.repr deviceId ++ " is used by scene(s) " ++
          ", ".intercalate (scenes.map (fun scene => scene.sceneId)) ++
          "; remove it from them first") "DEVICE_IN_SCENE")
    let proposed ← c.propose sdk { c.current with
      devices := c.current.devices.filter (fun existing => existing.deviceId ≠ deviceId) }
    writeRows (fun h => some { h with
      devices := h.devices.retain (fun row => key row ≠ (ownerId, deviceId)) })
    return proposed

end Devices

section Scenes

variable (sdk : Sdk) (env : Env) (ownerId : String)

/-- `_delete_actions`. -/
def SmartHome.withoutActions (h : SmartHome) (sceneId : String) : SmartHome :=
  { h with sceneActions := h.sceneActions.retain (fun row =>
      ¬ (row.ownerId = ownerId ∧ row.sceneId = sceneId)) }

/-- The actions of a scene whose rows have been flushed or removed. -/
def SmartHome.addActions (h : SmartHome) (scene : Scene) : Option SmartHome := do
  let sceneActions ← h.sceneActions.insertAll? (scene.actionRows ownerId)
  return { h with sceneActions := sceneActions }

def createScene (scene : Scene) (expectedRevision : Int) : Session Registry :=
  changeRegistry sdk env ownerId expectedRevision "scene.created" scene.sceneId fun c => do
    let proposed ← c.propose sdk { c.current with scenes := c.current.scenes ++ [scene] }
    let position ← nextPosition (fun h =>
      (h.scenes.select (fun row => row.ownerId = ownerId)).map (fun row => row.position))
    writeRows (fun h => do
      let scenes ← h.scenes.insertAll? [scene.row ownerId position]
      { h with scenes := scenes }.addActions ownerId scene)
    return proposed

def updateScene (scene : Scene) (expectedRevision : Int) : Session Registry :=
  changeRegistry sdk env ownerId expectedRevision "scene.updated" scene.sceneId fun c => do
    let row ← getScene ownerId scene.sceneId
    let _ ← Tx.require row (.smartHomeRegistryNotFound "scene not found for owner")
    let proposed ← c.propose sdk { c.current with
      scenes := c.current.scenes.map (fun existing =>
        if existing.sceneId = scene.sceneId then scene else existing) }
    writeRows (fun h =>
      { h with scenes := h.scenes.modify (ownerId, scene.sceneId) (fun row =>
          row.assign scene) }.withoutActions ownerId scene.sceneId |>.addActions ownerId scene)
    return proposed

def deleteScene (sceneId : String) (expectedRevision : Int) : Session Registry :=
  changeRegistry sdk env ownerId expectedRevision "scene.deleted" sceneId fun c => do
    let row ← getScene ownerId sceneId
    let _ ← Tx.require row (.smartHomeRegistryNotFound "scene not found for owner")
    let proposed ← c.propose sdk { c.current with
      scenes := c.current.scenes.filter (fun existing => existing.sceneId ≠ sceneId) }
    writeRows (fun h => some { h.withoutActions ownerId sceneId with
      scenes := h.scenes.retain (fun row => key row ≠ (ownerId, sceneId)) })
    return proposed

end Scenes

section Placements

variable (sdk : Sdk) (env : Env) (ownerId : String)

def setPlacement (placement : Placement) (expectedRevision : Int) : Session Registry :=
  changeRegistry sdk env ownerId expectedRevision "placement.set" placement.deviceRef fun c => do
    let row ← getPlacement ownerId placement.deviceRef
    let proposed ← c.propose sdk { c.current with
      placements := c.current.placements.filter (fun existing =>
        existing.deviceRef ≠ placement.deviceRef) ++ [placement] }
    writeRows (fun h =>
      match row with
      | none => do
          let placements ← h.placements.insertAll? [placement.row ownerId]
          return { h with placements := placements }
      | some _ => some { h with
          placements := h.placements.modify (ownerId, placement.deviceRef) (fun row =>
            row.assign placement) })
    return proposed

def clearPlacement (deviceRef : String) (expectedRevision : Int) : Session Registry :=
  changeRegistry sdk env ownerId expectedRevision "placement.cleared" deviceRef fun c => do
    let row ← getPlacement ownerId deviceRef
    let _ ← Tx.require row (.smartHomeRegistryNotFound "placement not found for owner")
    let proposed ← c.propose sdk { c.current with
      placements := c.current.placements.filter (fun existing => existing.deviceRef ≠ deviceRef) }
    writeRows (fun h => some { h with
      placements := h.placements.retain (fun row => key row ≠ (ownerId, deviceRef)) })
    return proposed

end Placements

section Samples

variable (sdk : Sdk) (env : Env) (ownerId : String)

/-- The rows `_populate_sample` adds to an empty registry. -/
def SmartHome.populate? (h : SmartHome) (sample : Registry) : Option SmartHome := do
  let areas ← h.areas.insertAll? (sample.areas.zipIdx.map fun (area, index) =>
    area.row ownerId index)
  let devices ← h.devices.insertAll? (sample.devices.zipIdx.map fun (device, index) =>
    device.row ownerId index)
  let scenes ← h.scenes.insertAll? (sample.scenes.zipIdx.map fun (scene, index) =>
    scene.row ownerId index)
  let sceneActions ← h.sceneActions.insertAll?
    (sample.scenes.flatMap fun scene => scene.actionRows ownerId)
  let placements ← h.placements.insertAll?
    (sample.placements.map fun placement => placement.row ownerId)
  return { h with
    areas := areas
    devices := devices
    scenes := scenes
    sceneActions := sceneActions
    placements := placements }

/-- `_populate_sample`. -/
def populateSample (sample : Registry) (c : HomeChange) : Session Registry := do
  Tx.refuseIf (c.current.areas ≠ [] ∨ c.current.devices ≠ [] ∨ c.current.scenes ≠ [] ∨
      c.current.placements ≠ [])
    (.smartHomeRegistryRefused "a sample can only be loaded into an empty smart home registry"
      "REGISTRY_NOT_EMPTY")
  let proposed ← c.propose sdk sample
  writeRows (fun h => h.populate? c.ownerId sample)
  return proposed

def loadSample (name : String) (expectedRevision : Int) : Session Registry := do
  let sample ← Tx.require (sdk.sample? name)
    (.smartHomeRegistryNotFound ("unknown smart home sample " ++ sdk.repr name))
  changeRegistry sdk env ownerId expectedRevision "sample.loaded" name (populateSample sdk sample)

/-- `initialize_owner_home`, in the transaction of the new Owner's onboarding. -/
def initializeOwnerHome (traceId : String) : Session Unit := do
  let revision ← advanceRevision ownerId 0
  let _ ← populateSample sdk sdk.apartmentSample
    { ownerId := ownerId, current := { revision := 0 }, revision := revision }
  addFact env (registryChanged (env.uuid 6) env.now ownerId "sample.loaded" "apartment" revision
    (some traceId))

end Samples

/-- The commands on one Owner's areas, devices, scenes and placements. -/
inductive HomeEdit where
  | createArea (area : Area)
  | updateArea (area : Area)
  | deleteArea (areaId : String)
  | createDevice (device : Device)
  | updateDevice (device : Device)
  | deleteDevice (deviceId : String)
  | createScene (scene : Scene)
  | updateScene (scene : Scene)
  | deleteScene (sceneId : String)
  | setPlacement (placement : Placement)
  | clearPlacement (deviceRef : String)
  deriving DecidableEq, Repr

def editHome (sdk : Sdk) (env : Env) (ownerId : String) (edit : HomeEdit)
    (expectedRevision : Int) : Session Registry :=
  match edit with
  | .createArea area => createArea sdk env ownerId area expectedRevision
  | .updateArea area => updateArea sdk env ownerId area expectedRevision
  | .deleteArea areaId => deleteArea sdk env ownerId areaId expectedRevision
  | .createDevice device => createDevice sdk env ownerId device expectedRevision
  | .updateDevice device => updateDevice sdk env ownerId device expectedRevision
  | .deleteDevice deviceId => deleteDevice sdk env ownerId deviceId expectedRevision
  | .createScene scene => createScene sdk env ownerId scene expectedRevision
  | .updateScene scene => updateScene sdk env ownerId scene expectedRevision
  | .deleteScene sceneId => deleteScene sdk env ownerId sceneId expectedRevision
  | .setPlacement placement => setPlacement sdk env ownerId placement expectedRevision
  | .clearPlacement deviceRef => clearPlacement sdk env ownerId deviceRef expectedRevision

/-- The writers of one Owner's registry. -/
inductive HomeWrite where
  | edit (edit : HomeEdit) (expectedRevision : Int)
  | loadSample (name : String) (expectedRevision : Int)
  /-- The turn of `initialize_default_homes` on one of the Owners it listed. -/
  | initializeDefault
  deriving DecidableEq, Repr

/-- The revision a writer names. -/
def HomeWrite.expectedRevision : HomeWrite → Int
  | edit _ expectedRevision => expectedRevision
  | loadSample _ expectedRevision => expectedRevision
  | initializeDefault => 0

def HomeWrite.session (sdk : Sdk) (env : Env) (ownerId : String) : HomeWrite → Session Registry
  | edit change expectedRevision => editHome sdk env ownerId change expectedRevision
  | loadSample name expectedRevision => EidolonData.loadSample sdk env ownerId name expectedRevision
  | initializeDefault => EidolonData.loadSample sdk env ownerId "apartment" 0

/-- The Owners `initialize_default_homes` lists: active, with a home nobody
has written. -/
def defaultHomeCandidates (t : Tables) : List String :=
  orderBy id ((t.workspace.owners.select (fun row =>
    row.status = .active && !t.home.registries.has row.ownerId)).map (fun row => row.ownerId))

end EidolonData
