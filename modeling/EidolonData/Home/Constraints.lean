import EidolonData.Home.Rows
import EidolonData.Library.Owned

/-!
# The constraints, one Owner at a time

Every key, index and reference of the registry tables names the Owner, so the
tables meet their constraints when the rows of every Owner do.
-/

namespace EidolonData

open Relational

/-- What the constraints say of one Owner's rows. -/
structure HomeRows.Valid (known : Bool) (rows : HomeRows) : Prop where
  unknown : known = false → rows = {}
  revision : ∀ row, rows.registry = some row → 0 < row.revision
  areaNames : (rows.areas.map (fun row => row.name)).Nodup
  deviceArea : ∀ device ∈ rows.devices, ∀ areaId, device.areaId = some areaId →
    areaId ∈ rows.areas.map (fun row => row.areaId)
  actionScene : ∀ action ∈ rows.sceneActions,
    action.sceneId ∈ rows.scenes.map (fun row => row.sceneId)
  actionDevice : ∀ action ∈ rows.sceneActions,
    action.deviceId ∈ rows.devices.map (fun row => row.deviceId)
  placementArea : ∀ placement ∈ rows.placements,
    placement.areaId ∈ rows.areas.map (fun row => row.areaId)

theorem HomeRows.valid_empty (known : Bool) : ({} : HomeRows).Valid known := by
  constructor
  · exact fun _ => rfl
  · rintro _ ⟨⟩
  · exact .nil
  · rintro _ ⟨⟩
  · rintro _ ⟨⟩
  · rintro _ ⟨⟩
  · rintro _ ⟨⟩

section Tables

variable {w : Workspace} {h : SmartHome} {ownerId : String}

theorem SmartHome.Integrity.opened (integrity : h.Integrity w) {row : SmartHomeRegistryRow}
    (stored : (h.rowsOf ownerId).registry = some row) :
    w.owners.has ownerId = true ∧ 0 < row.revision := by
  have same : row.ownerId = ownerId := Table.key_of_get? stored
  have checked := Bool.and_eq_true_iff.mp (integrity.registryOwner row (Table.mem_of_get? stored))
  rw [same] at checked
  exact ⟨checked.1, of_decide_eq_true checked.2⟩

theorem SmartHome.Integrity.rowsOf_unknown (integrity : h.Integrity w)
    (unknown : w.owners.has ownerId = false) : h.rowsOf ownerId = {} := by
  have none : ∀ {ρ κ : Type} [HasKey ρ κ] (table : Table ρ) (owner : ρ → String),
      table.All (fun row => w.owners.has (owner row)) →
        table.select (fun row => owner row = ownerId) = [] := by
    intro ρ κ _ table owner owned
    apply List.filter_eq_nil_iff.mpr
    intro row member
    rw [decide_eq_true_eq]
    intro same
    have known : w.owners.has (owner row) = true := owned row member
    rw [same, unknown] at known
    cases known
  have registry : h.registries.get? ownerId = Option.none := by
    cases stored : h.registries.get? ownerId with
    | none => rfl
    | some row =>
        have known := (integrity.opened stored).1
        rw [unknown] at known
        cases known
  simp only [SmartHome.rowsOf, registry, none _ _ integrity.areaOwner,
    none _ _ integrity.deviceOwner, none _ _ integrity.sceneOwner, none _ _ integrity.actionOwner,
    none _ _ integrity.placementOwner]

theorem has_owned_iff {ρ : Type} [HasKey ρ (String × String)] {table : Table ρ}
    {owner column : ρ → String} (keyed : ∀ row, key row = (owner row, column row))
    {target : String} :
    table.has (ownerId, target) = true ↔
      target ∈ (table.select (fun row => owner row = ownerId)).map column :=
  Table.has_iff.trans (Table.mem_owned_iff keyed).symm

theorem all_has_owned_iff {ρ ρ' κ : Type} [HasKey ρ κ] [HasKey ρ' (String × String)]
    {table : Table ρ} {owner reference : ρ → String} {target : Table ρ'}
    {owner' column : ρ' → String}
    (keyed : ∀ row, key row = (owner' row, column row)) :
    table.All (fun row => target.has (owner row, reference row)) ↔
      ∀ ownerId, ∀ row ∈ table.select (fun row => owner row = ownerId),
        reference row ∈ (target.select (fun row => owner' row = ownerId)).map column := by
  rw [Table.all_owned_iff owner]
  refine forall_congr' (fun ownerId => forall₂_congr (fun row member => ?_))
  have own : owner row = ownerId := Table.owner_of_mem_select member
  rw [own]
  exact has_owned_iff keyed

/-- So for a reference that may be `NULL`. -/
theorem all_nullable_owned_iff {ρ ρ' κ : Type} [HasKey ρ κ] [HasKey ρ' (String × String)]
    {table : Table ρ} {owner : ρ → String} {reference : ρ → Option String} {target : Table ρ'}
    {owner' column : ρ' → String} (keyed : ∀ row, key row = (owner' row, column row)) :
    table.All (fun row => nullable (reference row) (fun id => target.has (owner row, id))) ↔
      ∀ ownerId, ∀ row ∈ table.select (fun row => owner row = ownerId),
        ∀ id, reference row = some id →
          id ∈ (target.select (fun row => owner' row = ownerId)).map column := by
  rw [Table.all_owned_iff owner]
  refine forall_congr' (fun ownerId => forall₂_congr (fun row member => ?_))
  have own : owner row = ownerId := Table.owner_of_mem_select member
  rw [own]
  cases reference row with
  | none => simp [nullable]
  | some id =>
      simp only [nullable, Option.all_some, Option.some.injEq, forall_eq']
      exact has_owned_iff keyed

theorem SmartHome.Integrity.valid (integrity : h.Integrity w) (ownerId : String) :
    (h.rowsOf ownerId).Valid (w.owners.has ownerId) :=
    { unknown := integrity.rowsOf_unknown
      revision := fun _ stored => (integrity.opened stored).2
      areaNames := Table.uniqueOn_owned_iff.mp integrity.areaNames ownerId
      deviceArea := (all_nullable_owned_iff (fun _ => rfl)).mp integrity.deviceArea ownerId
      actionScene := (all_has_owned_iff (fun _ => rfl)).mp integrity.actionScene ownerId
      actionDevice := (all_has_owned_iff (fun _ => rfl)).mp integrity.actionDevice ownerId
      placementArea := (all_has_owned_iff (fun _ => rfl)).mp integrity.placementArea ownerId }

theorem SmartHome.integrity_iff_valid :
    h.Integrity w ↔ ∀ ownerId, (h.rowsOf ownerId).Valid (w.owners.has ownerId) := by
  constructor
  · exact fun integrity => integrity.valid
  · intro valid
    have known : ∀ ownerId, h.rowsOf ownerId ≠ {} → w.owners.has ownerId = true := by
      intro ownerId some
      by_contra absent
      exact some ((valid ownerId).unknown (by simpa using absent))
    have owned : ∀ {ρ κ : Type} [HasKey ρ κ] (table : Table ρ) (owner : ρ → String)
        (column : HomeRows → List ρ), column {} = [] →
        (∀ ownerId, column (h.rowsOf ownerId) = table.select (fun row => owner row = ownerId)) →
          table.All (fun row => w.owners.has (owner row)) := by
      intro ρ κ _ table owner column none selects row member
      apply known
      intro empty
      have own : row ∈ table.select (fun other => owner other = owner row) :=
        List.mem_filter.mpr ⟨member, by simp⟩
      rw [← selects (owner row), empty, none] at own
      cases own
    refine
      { registryOwner := ?_
        areaOwner := owned h.areas SmartHomeAreaRow.ownerId HomeRows.areas rfl (fun _ => rfl)
        areaNames := Table.uniqueOn_owned_iff.mpr (fun ownerId => (valid ownerId).areaNames)
        deviceOwner := owned h.devices SmartHomeDeviceRow.ownerId HomeRows.devices rfl
          (fun _ => rfl)
        deviceArea := (all_nullable_owned_iff (fun _ => rfl)).mpr
          (fun ownerId => (valid ownerId).deviceArea)
        sceneOwner := owned h.scenes SmartHomeSceneRow.ownerId HomeRows.scenes rfl (fun _ => rfl)
        actionOwner := owned h.sceneActions SmartHomeSceneActionRow.ownerId
          HomeRows.sceneActions rfl
          (fun _ => rfl)
        actionScene := (all_has_owned_iff (fun _ => rfl)).mpr
          (fun ownerId => (valid ownerId).actionScene)
        actionDevice := (all_has_owned_iff (fun _ => rfl)).mpr
          (fun ownerId => (valid ownerId).actionDevice)
        placementOwner := owned h.placements SmartHomePlacementRow.ownerId HomeRows.placements rfl
          (fun _ => rfl)
        placementArea := (all_has_owned_iff (fun _ => rfl)).mpr
          (fun ownerId => (valid ownerId).placementArea) }
    intro row member
    have registry : (h.rowsOf row.ownerId).registry = some row :=
      (h.registries.mem_rows_iff row).mp member
    have ownerKnown : w.owners.has row.ownerId = true := by
      apply known
      intro empty
      rw [empty] at registry
      cases registry
    simpa [ownerKnown] using (valid row.ownerId).revision row registry

end Tables

end EidolonData
