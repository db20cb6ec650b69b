import EidolonData.Library.Keyed
import EidolonData.Services.SmartHome

/-!
# The home behind the rows

What the registry store is for: one Owner's home as four sequences in the
order of insertion, and the commands as edits of them.  The registry a reader
gets shows the areas by their order and the placements by their device.
-/

namespace EidolonData

open Relational

structure Home where
  revision : Int := 0
  areas : List Area := []
  devices : List Device := []
  scenes : List Scene := []
  placements : List Placement := []

/-- The registry a home is read as. -/
def Home.registry (home : Home) : Registry :=
  { revision := home.revision
    areas := orderBy Area.order home.areas
    devices := home.devices
    scenes := home.scenes
    placements := orderBy Placement.deviceRef home.placements }

/-- The home after a command, one revision on. -/
def HomeEdit.apply (home : Home) (edit : HomeEdit) : Home :=
  let next := { home with revision := home.revision + 1 }
  match edit with
  | createArea area => { next with areas := home.areas ++ [area] }
  | updateArea area => { next with areas := inPlace Area.areaId area home.areas }
  | deleteArea areaId => { next with areas := without Area.areaId areaId home.areas }
  | createDevice device => { next with devices := home.devices ++ [device] }
  | updateDevice device => { next with devices := inPlace Device.deviceId device home.devices }
  | deleteDevice deviceId => { next with devices := without Device.deviceId deviceId home.devices }
  | createScene scene => { next with scenes := home.scenes ++ [scene] }
  | updateScene scene => { next with scenes := inPlace Scene.sceneId scene home.scenes }
  | deleteScene sceneId => { next with scenes := without Scene.sceneId sceneId home.scenes }
  | setPlacement placement =>
      { next with placements := setItem Placement.deviceRef placement home.placements }
  | clearPlacement deviceRef =>
      { next with placements := without Placement.deviceRef deviceRef home.placements }

/-- The home a sample is loaded as. -/
def Registry.settle (sample : Registry) (revision : Int) : Home :=
  { revision := revision
    areas := sample.areas
    devices := sample.devices
    scenes := sample.scenes
    placements := sample.placements }

/-- A registry without the entry a command is about. -/
def HomeEdit.bystanders (registry : Registry) (edit : HomeEdit) : Registry :=
  let others := { registry with revision := 0 }
  match edit with
  | createArea area | updateArea area =>
      { others with areas := without Area.areaId area.areaId registry.areas }
  | deleteArea areaId => { others with areas := without Area.areaId areaId registry.areas }
  | createDevice device | updateDevice device =>
      { others with devices := without Device.deviceId device.deviceId registry.devices }
  | deleteDevice deviceId =>
      { others with devices := without Device.deviceId deviceId registry.devices }
  | createScene scene | updateScene scene =>
      { others with scenes := without Scene.sceneId scene.sceneId registry.scenes }
  | deleteScene sceneId => { others with scenes := without Scene.sceneId sceneId registry.scenes }
  | setPlacement placement =>
      { others with
        placements := without Placement.deviceRef placement.deviceRef registry.placements }
  | clearPlacement deviceRef =>
      { others with placements := without Placement.deviceRef deviceRef registry.placements }

/-- Leaving one entry out before or after the ordering is the same. -/
theorem without_orderBy {α κ γ : Type} [DecidableEq κ] [LinearOrder γ] (key : α → κ)
    (column : α → γ) (target : κ) (items : List α) :
    without key target (orderBy column items) = orderBy column (without key target items) :=
  filter_orderBy column _ items

/-- What a command is not about keeps its content and its place. -/
theorem HomeEdit.bystanders_apply (edit : HomeEdit) (home : Home) :
    edit.bystanders (edit.apply home).registry = edit.bystanders home.registry := by
  cases edit with
  | createArea area =>
      simp only [bystanders, apply, Home.registry, without_orderBy, without_append]
  | updateArea area =>
      simp only [bystanders, apply, Home.registry, without_orderBy, without_inPlace]
  | deleteArea areaId =>
      simp only [bystanders, apply, Home.registry, without_orderBy, without_without]
  | createDevice device => simp only [bystanders, apply, Home.registry, without_append]
  | updateDevice device => simp only [bystanders, apply, Home.registry, without_inPlace]
  | deleteDevice deviceId => simp only [bystanders, apply, Home.registry, without_without]
  | createScene scene => simp only [bystanders, apply, Home.registry, without_append]
  | updateScene scene => simp only [bystanders, apply, Home.registry, without_inPlace]
  | deleteScene sceneId => simp only [bystanders, apply, Home.registry, without_without]
  | setPlacement placement =>
      simp only [bystanders, apply, Home.registry, without_orderBy, without_setItem]
  | clearPlacement deviceRef =>
      simp only [bystanders, apply, Home.registry, without_orderBy, without_without]

/-- The registry a command proposes, from the one it loaded. -/
def HomeEdit.document (current : Registry) (edit : HomeEdit) : Registry :=
  match edit with
  | createArea area => { current with areas := current.areas ++ [area] }
  | updateArea area => { current with areas := inPlace Area.areaId area current.areas }
  | deleteArea areaId => { current with areas := without Area.areaId areaId current.areas }
  | createDevice device => { current with devices := current.devices ++ [device] }
  | updateDevice device =>
      { current with devices := inPlace Device.deviceId device current.devices }
  | deleteDevice deviceId =>
      { current with devices := without Device.deviceId deviceId current.devices }
  | createScene scene => { current with scenes := current.scenes ++ [scene] }
  | updateScene scene => { current with scenes := inPlace Scene.sceneId scene current.scenes }
  | deleteScene sceneId => { current with scenes := without Scene.sceneId sceneId current.scenes }
  | setPlacement placement =>
      { current with
        placements := without Placement.deviceRef placement.deviceRef current.placements ++
          [placement] }
  | clearPlacement deviceRef =>
      { current with placements := without Placement.deviceRef deviceRef current.placements }

/-- Two registries with the same devices and scenes, and the same areas and
placements in some order. -/
structure Registry.Agrees (left right : Registry) : Prop where
  areas : left.areas.Perm right.areas
  devices : left.devices = right.devices
  scenes : left.scenes = right.scenes
  placements : left.placements.Perm right.placements

theorem Registry.Agrees.trans {first second third : Registry} (one : first.Agrees second)
    (two : second.Agrees third) : first.Agrees third :=
  { areas := one.areas.trans two.areas
    devices := one.devices.trans two.devices
    scenes := one.scenes.trans two.scenes
    placements := one.placements.trans two.placements }

theorem Registry.Agrees.symm {left right : Registry} (agrees : left.Agrees right) :
    right.Agrees left :=
  { areas := agrees.areas.symm
    devices := agrees.devices.symm
    scenes := agrees.scenes.symm
    placements := agrees.placements.symm }

/-- Two registries that agree are not told apart by a change of their devices
and scenes, nor by one of an order. -/
theorem Home.registry_agrees {home : Home} {registry : Registry}
    (areas : home.areas.Perm registry.areas) (devices : home.devices = registry.devices)
    (scenes : home.scenes = registry.scenes)
    (placements : home.placements.Perm registry.placements) : home.registry.Agrees registry :=
  { areas := (orderBy_perm _ _).trans areas
    devices := devices
    scenes := scenes
    placements := (orderBy_perm _ _).trans placements }

/-- What a command proposes is the home it leads to, up to the orders. -/
theorem HomeEdit.document_agrees (edit : HomeEdit) {home : Home} {current : Registry}
    (loaded : current.Agrees home.registry)
    (refs : (home.placements.map Placement.deviceRef).Nodup) :
    (edit.apply home).registry.Agrees (edit.document current) := by
  have areas : home.areas.Perm current.areas :=
    (orderBy_perm _ _).symm.trans loaded.areas.symm
  have placements : home.placements.Perm current.placements :=
    (orderBy_perm _ _).symm.trans loaded.placements.symm
  have devices : home.devices = current.devices := loaded.devices.symm
  have scenes : home.scenes = current.scenes := loaded.scenes.symm
  cases edit with
  | createArea area => exact Home.registry_agrees (areas.append_right _) devices scenes placements
  | updateArea area => exact Home.registry_agrees (areas.map _) devices scenes placements
  | deleteArea areaId => exact Home.registry_agrees (areas.filter _) devices scenes placements
  | createDevice device =>
      exact Home.registry_agrees areas (congrArg (· ++ [device]) devices) scenes placements
  | updateDevice device =>
      exact Home.registry_agrees areas (congrArg (inPlace _ device) devices) scenes placements
  | deleteDevice deviceId =>
      exact Home.registry_agrees areas (congrArg (without _ deviceId) devices) scenes placements
  | createScene scene =>
      exact Home.registry_agrees areas devices (congrArg (· ++ [scene]) scenes) placements
  | updateScene scene =>
      exact Home.registry_agrees areas devices (congrArg (inPlace _ scene) scenes) placements
  | deleteScene sceneId =>
      exact Home.registry_agrees areas devices (congrArg (without _ sceneId) scenes) placements
  | setPlacement placement =>
      refine Home.registry_agrees areas devices scenes ?_
      exact (setItem_perm refs placement).trans ((placements.filter _).append_right _)
  | clearPlacement deviceRef =>
      exact Home.registry_agrees areas devices scenes (placements.filter _)

/-- What the store relies on in the SDK's validation of a registry: the home
nobody has written is one, the order of areas and placements does not matter,
and a device names where it comes from. -/
structure Sdk.RegistryContract (sdk : Sdk) : Prop where
  unwritten : sdk.validateRegistry { revision := 0 } = .ok ()
  unordered : ∀ left right : Registry, left.revision = right.revision → left.Agrees right →
    sdk.validateRegistry left = .ok () → sdk.validateRegistry right = .ok ()
  sourced : ∀ registry : Registry, sdk.validateRegistry registry = .ok () →
    ∀ device ∈ registry.devices, device.source ≠ ""

end EidolonData
