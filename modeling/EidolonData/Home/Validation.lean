import EidolonData.Home.Registry

/-!
# Validated registries

What the store may take for granted of a registry the SDK accepted: the
identifiers and the area names are unique, and every reference resolves.
-/

namespace EidolonData

open Relational

/-- Unique identifiers and area names, and references that resolve. -/
@[mk_iff]
structure Registry.WellFormed (registry : Registry) : Prop where
  areaIds : (registry.areas.map Area.areaId).Nodup
  areaNames : (registry.areas.map Area.name).Nodup
  deviceIds : (registry.devices.map Device.deviceId).Nodup
  sceneIds : (registry.scenes.map Scene.sceneId).Nodup
  placementRefs : (registry.placements.map Placement.deviceRef).Nodup
  deviceArea : ∀ device ∈ registry.devices,
    device.areaId.all (fun areaId => areaId ∈ registry.areas.map Area.areaId) = true
  actionDevice : ∀ scene ∈ registry.scenes, ∀ action ∈ scene.actions,
    action.deviceId ∈ registry.devices.map Device.deviceId
  placementArea : ∀ placement ∈ registry.placements,
    placement.areaId ∈ registry.areas.map Area.areaId

instance (registry : Registry) : Decidable registry.WellFormed :=
  decidable_of_iff _ (Registry.wellFormed_iff registry).symm

/-- The order of areas and placements does not matter. -/
theorem Registry.WellFormed.agrees {left right : Registry} (wellFormed : left.WellFormed)
    (agrees : left.Agrees right) : right.WellFormed := by
  have areas : ∀ areaId, areaId ∈ left.areas.map Area.areaId ↔
      areaId ∈ right.areas.map Area.areaId := fun _ => (agrees.areas.map _).mem_iff
  constructor
  · exact (agrees.areas.map _).nodup_iff.mp wellFormed.areaIds
  · exact (agrees.areas.map _).nodup_iff.mp wellFormed.areaNames
  · rw [← agrees.devices]
    exact wellFormed.deviceIds
  · rw [← agrees.scenes]
    exact wellFormed.sceneIds
  · exact (agrees.placements.map _).nodup_iff.mp wellFormed.placementRefs
  · intro device member
    have resolved := wellFormed.deviceArea device (agrees.devices ▸ member)
    simpa only [areas] using resolved
  · intro scene member action actionMember
    rw [← agrees.devices]
    exact wellFormed.actionDevice scene (agrees.scenes ▸ member) action actionMember
  · intro placement member
    exact (areas _).mp (wellFormed.placementArea placement (agrees.placements.mem_iff.mpr member))

theorem Registry.WellFormed.labelled {registry : Registry} {revision : Int}
    (wellFormed : { registry with revision := revision }.WellFormed) : registry.WellFormed :=
  { areaIds := wellFormed.areaIds
    areaNames := wellFormed.areaNames
    deviceIds := wellFormed.deviceIds
    sceneIds := wellFormed.sceneIds
    placementRefs := wellFormed.placementRefs
    deviceArea := wellFormed.deviceArea
    actionDevice := wellFormed.actionDevice
    placementArea := wellFormed.placementArea }

/-- The SDK accepts well-formed registries only. -/
def Sdk.ChecksRegistries (sdk : Sdk) : Prop :=
  ∀ registry, sdk.validateRegistry registry = .ok () → registry.WellFormed

/-- `Registry`, as far as the store relies on it. -/
def checkRegistry (registry : Registry) : Except RegistryFault Unit :=
  if registry.WellFormed ∧ ∀ device ∈ registry.devices, device.source ≠ "" then .ok ()
  else .error { first := .sdk "INVALID_REGISTRY" "a reference or an identifier", detail := "" }

/-- The plain SDK with a validation of registries. -/
def Sdk.checking : Sdk := { plain with validateRegistry := checkRegistry }

theorem checkRegistry_ok_iff {registry : Registry} : checkRegistry registry = .ok () ↔
    registry.WellFormed ∧ ∀ device ∈ registry.devices, device.source ≠ "" := by
  unfold checkRegistry
  split
  · next checked => exact iff_of_true rfl checked
  · next unchecked => exact iff_of_false (by rintro ⟨⟩) unchecked

theorem Sdk.checking_checks : checking.ChecksRegistries :=
  fun _ accepted => (checkRegistry_ok_iff.mp accepted).1

theorem Sdk.checking_contract : checking.RegistryContract := by
  constructor
  · decide
  · intro left right _ agrees accepted
    obtain ⟨wellFormed, sourced⟩ := checkRegistry_ok_iff.mp accepted
    refine checkRegistry_ok_iff.mpr ⟨wellFormed.agrees agrees, ?_⟩
    rw [← agrees.devices]
    exact sourced
  · intro registry accepted
    exact (checkRegistry_ok_iff.mp accepted).2

end EidolonData
