import EidolonData.Home.Registry

/-!
# The rows of a home

One Owner's rows of the six tables, the home they stand for, and the commands
as edits of the rows.  Reading the rows back gives the registry of the home as
long as every table keeps the positions of its rows in the order of insertion.
-/

namespace EidolonData

open Relational

structure HomeRows where
  registry : Option SmartHomeRegistryRow := none
  areas : List SmartHomeAreaRow := []
  devices : List SmartHomeDeviceRow := []
  scenes : List SmartHomeSceneRow := []
  sceneActions : List SmartHomeSceneActionRow := []
  placements : List SmartHomePlacementRow := []
  deriving DecidableEq

/-- The rows of one Owner, each table in the order of insertion. -/
def SmartHome.rowsOf (h : SmartHome) (ownerId : String) : HomeRows :=
  { registry := h.registries.get? ownerId
    areas := h.areas.select (fun row => row.ownerId = ownerId)
    devices := h.devices.select (fun row => row.ownerId = ownerId)
    scenes := h.scenes.select (fun row => row.ownerId = ownerId)
    sceneActions := h.sceneActions.select (fun row => row.ownerId = ownerId)
    placements := h.placements.select (fun row => row.ownerId = ownerId) }

/-- The home the rows stand for. -/
def HomeRows.home (rows : HomeRows) : Home :=
  { revision := (rows.registry.map (fun row => row.revision)).getD 0
    areas := rows.areas.map SmartHomeAreaRow.load
    devices := rows.devices.map SmartHomeDeviceRow.load
    scenes := rows.scenes.map (SmartHomeSceneRow.load rows.sceneActions)
    placements := rows.placements.map SmartHomePlacementRow.load }

/-- Nothing is stored of the home. -/
structure HomeRows.Empty (rows : HomeRows) : Prop where
  areas : rows.areas = []
  devices : rows.devices = []
  scenes : rows.scenes = []
  sceneActions : rows.sceneActions = []
  placements : rows.placements = []

/-- The positions follow the order of insertion. -/
structure HomeRows.Ordered (rows : HomeRows) : Prop where
  areas : rows.areas.Pairwise (fun left right => left.position < right.position)
  devices : rows.devices.Pairwise (fun left right => left.position < right.position)
  scenes : rows.scenes.Pairwise (fun left right => left.position < right.position)
  actions : ∀ sceneId, (rows.sceneActions.filter (fun row => row.sceneId = sceneId)).Pairwise
    (fun left right => left.position < right.position)

section Loading

variable {h : SmartHome} {ownerId : String}

/-- What `load_registry` makes of the rows it selects. -/
def SmartHome.loaded (h : SmartHome) (ownerId : String) (revision : Int) : Registry :=
  { revision := revision
    areas := (h.selectAreas ownerId).map SmartHomeAreaRow.load
    devices := (h.selectDevices ownerId).map SmartHomeDeviceRow.load
    scenes := (h.selectScenes ownerId).map (SmartHomeSceneRow.load (h.selectActions ownerId))
    placements := (h.selectPlacements ownerId).map SmartHomePlacementRow.load }

theorem orderBy_of_ascending {ρ : Type} {column : ρ → Int} {rows : List ρ}
    (ascending : rows.Pairwise (fun left right => column left < column right)) :
    orderBy column rows = rows := by
  apply orderBy_eq_self
  exact ascending.imp (fun earlier => le_of_lt earlier)

theorem filter_selectActions (ordered : (h.rowsOf ownerId).Ordered) (sceneId : String) :
    (h.selectActions ownerId).filter (fun row => row.sceneId = sceneId) =
      (h.rowsOf ownerId).sceneActions.filter (fun row => row.sceneId = sceneId) := by
  have positions : orderBy (fun row : SmartHomeSceneActionRow => row.position)
      ((h.rowsOf ownerId).sceneActions.filter (fun row => row.sceneId = sceneId)) =
      (h.rowsOf ownerId).sceneActions.filter (fun row => row.sceneId = sceneId) :=
    orderBy_of_ascending (ordered.actions sceneId)
  have selected : h.sceneActions.select (fun row => row.ownerId = ownerId) =
      (h.rowsOf ownerId).sceneActions := rfl
  rw [SmartHome.selectActions, selected, filter_orderBy, filter_orderBy, positions]
  apply orderBy_eq_self
  apply List.pairwise_of_forall_mem_list
  intro left leftMember right rightMember
  have leftScene := List.of_mem_filter leftMember
  have rightScene := List.of_mem_filter rightMember
  simp only [decide_eq_true_eq] at leftScene rightScene
  rw [leftScene, rightScene]

theorem SmartHome.loaded_eq (ordered : (h.rowsOf ownerId).Ordered) (revision : Int) :
    h.loaded ownerId revision =
      { (h.rowsOf ownerId).home.registry with revision := revision } := by
  have areas : (h.selectAreas ownerId).map SmartHomeAreaRow.load =
      orderBy Area.order (h.rowsOf ownerId).home.areas := by
    have positions : orderBy (fun row : SmartHomeAreaRow => row.position)
        (h.rowsOf ownerId).areas = (h.rowsOf ownerId).areas := orderBy_of_ascending ordered.areas
    show (orderBy _ (orderBy _ (h.rowsOf ownerId).areas)).map _ = _
    rw [positions, HomeRows.home, orderBy_map]
    rfl
  have devices : h.selectDevices ownerId = (h.rowsOf ownerId).devices :=
    orderBy_of_ascending ordered.devices
  have scenes : h.selectScenes ownerId = (h.rowsOf ownerId).scenes :=
    orderBy_of_ascending ordered.scenes
  have actions : SmartHomeSceneRow.load (h.selectActions ownerId) =
      SmartHomeSceneRow.load (h.rowsOf ownerId).sceneActions := by
    funext row
    simp only [SmartHomeSceneRow.load, filter_selectActions ordered]
  have placements : (h.selectPlacements ownerId).map SmartHomePlacementRow.load =
      orderBy Placement.deviceRef (h.rowsOf ownerId).home.placements := by
    rw [HomeRows.home, orderBy_map]
    rfl
  simp only [SmartHome.loaded, areas, devices, scenes, actions, placements]
  rfl

end Loading

/-- What the keys and references of the tables say of one Owner's rows. -/
structure HomeRows.Stored (rows : HomeRows) : Prop where
  sceneIds : (rows.scenes.map (fun row => row.sceneId)).Nodup
  placementRefs : (rows.placements.map (fun row => row.deviceRef)).Nodup
  actionScene : ∀ action ∈ rows.sceneActions, ∃ scene ∈ rows.scenes, scene.sceneId = action.sceneId

/-- A registry that shows nothing has no rows. -/
theorem SmartHome.empty_of_loaded {h : SmartHome} {ownerId : String} {revision : Int}
    (stored : (h.rowsOf ownerId).Stored) (areas : (h.loaded ownerId revision).areas = [])
    (devices : (h.loaded ownerId revision).devices = [])
    (scenes : (h.loaded ownerId revision).scenes = [])
    (placements : (h.loaded ownerId revision).placements = []) : (h.rowsOf ownerId).Empty := by
  have noScenes : (h.rowsOf ownerId).scenes = [] := by
    simpa only [SmartHome.loaded, SmartHome.rowsOf, SmartHome.selectScenes, List.map_eq_nil_iff,
      orderBy_eq_nil] using scenes
  refine
    { areas := ?_
      devices := ?_
      scenes := noScenes
      sceneActions := ?_
      placements := ?_ }
  · simpa only [SmartHome.loaded, SmartHome.rowsOf, SmartHome.selectAreas, List.map_eq_nil_iff,
      orderBy_eq_nil] using areas
  · simpa only [SmartHome.loaded, SmartHome.rowsOf, SmartHome.selectDevices, List.map_eq_nil_iff,
      orderBy_eq_nil] using devices
  · apply List.eq_nil_iff_forall_not_mem.mpr
    intro action member
    obtain ⟨scene, sceneMember, _⟩ := stored.actionScene action member
    rw [noScenes] at sceneMember
    cases sceneMember
  · simpa only [SmartHome.loaded, SmartHome.rowsOf, SmartHome.selectPlacements, List.map_eq_nil_iff,
      orderBy_eq_nil] using placements

theorem nodup_select {ρ : Type} [HasKey ρ (String × String)] (table : Table ρ)
    {owner column : ρ → String} (keys : ∀ row, key row = (owner row, column row))
    (ownerId : String) : ((table.select (fun row => owner row = ownerId)).map column).Nodup := by
  have unique : ((table.select (fun row => owner row = ownerId)).map key).Nodup :=
    (List.filter_sublist.map key).nodup table.unique
  refine List.Nodup.of_map (fun second => (ownerId, second)) ?_
  have same : ((table.select (fun row => owner row = ownerId)).map column).map
      (fun second => (ownerId, second)) =
      (table.select (fun row => owner row = ownerId)).map key := by
    rw [List.map_map]
    apply List.map_congr_left
    intro row member
    have owned := List.of_mem_filter member
    simp only [decide_eq_true_eq] at owned
    rw [keys, owned]
    rfl
  rw [same]
  exact unique

/-- The keys of the tables leave the references of the actions to be resolved. -/
theorem SmartHome.stored_of_actions {h : SmartHome} {ownerId : String}
    (actionScene : ∀ action ∈ (h.rowsOf ownerId).sceneActions,
      action.sceneId ∈ (h.rowsOf ownerId).scenes.map (fun row => row.sceneId)) :
    (h.rowsOf ownerId).Stored := by
  refine
    { sceneIds := nodup_select h.scenes (fun _ => rfl) ownerId
      placementRefs := nodup_select h.placements (fun _ => rfl) ownerId
      actionScene := ?_ }
  intro action member
  exact List.mem_map.mp (actionScene action member)

theorem SmartHome.Integrity.stored {w : Workspace} {h : SmartHome} (integrity : h.Integrity w)
    (ownerId : String) : (h.rowsOf ownerId).Stored := by
  apply SmartHome.stored_of_actions
  intro action member
  obtain ⟨stored, owned⟩ := List.mem_filter.mp member
  simp only [decide_eq_true_eq] at owned
  obtain ⟨scene, found⟩ := Table.has_iff.mp (integrity.actionScene action stored)
  have sceneKey : (scene.ownerId, scene.sceneId) = (action.ownerId, action.sceneId) :=
    Table.key_of_get? found
  obtain ⟨sceneOwner, sceneId⟩ := Prod.mk.inj sceneKey
  refine List.mem_map.mpr ⟨scene, List.mem_filter.mpr ⟨Table.mem_of_get? found, ?_⟩, sceneId⟩
  simp only [decide_eq_true_eq, sceneOwner, owned]

/-- The rows after a command. -/
def HomeEdit.rows (ownerId : String) (rows : HomeRows) (edit : HomeEdit) : HomeRows :=
  match edit with
  | createArea area =>
      { rows with areas := rows.areas ++
          [area.row ownerId (nextAfter (rows.areas.map (fun row => row.position)))] }
  | updateArea area =>
      { rows with areas := rows.areas.map (fun row =>
          if row.areaId = area.areaId then row.assign area else row) }
  | deleteArea areaId =>
      { rows with areas := rows.areas.filter (fun row => row.areaId ≠ areaId) }
  | createDevice device =>
      { rows with devices := rows.devices ++
          [device.row ownerId (nextAfter (rows.devices.map (fun row => row.position)))] }
  | updateDevice device =>
      { rows with devices := rows.devices.map (fun row =>
          if row.deviceId = device.deviceId then row.assign device else row) }
  | deleteDevice deviceId =>
      { rows with devices := rows.devices.filter (fun row => row.deviceId ≠ deviceId) }
  | createScene scene =>
      { rows with
        scenes := rows.scenes ++
          [scene.row ownerId (nextAfter (rows.scenes.map (fun row => row.position)))]
        sceneActions := rows.sceneActions ++ scene.actionRows ownerId }
  | updateScene scene =>
      { rows with
        scenes := rows.scenes.map (fun row =>
          if row.sceneId = scene.sceneId then row.assign scene else row)
        sceneActions := rows.sceneActions.filter (fun row => row.sceneId ≠ scene.sceneId) ++
          scene.actionRows ownerId }
  | deleteScene sceneId =>
      { rows with
        scenes := rows.scenes.filter (fun row => row.sceneId ≠ sceneId)
        sceneActions := rows.sceneActions.filter (fun row => row.sceneId ≠ sceneId) }
  | setPlacement placement =>
      { rows with placements :=
          if placement.deviceRef ∈ rows.placements.map (fun row => row.deviceRef) then
            rows.placements.map (fun row =>
              if row.deviceRef = placement.deviceRef then row.assign placement else row)
          else rows.placements ++ [placement.row ownerId] }
  | clearPlacement deviceRef =>
      { rows with placements := rows.placements.filter (fun row => row.deviceRef ≠ deviceRef) }

section Actions

variable (ownerId : String) (scene : Scene)

theorem Scene.load_actionRows :
    (scene.actionRows ownerId).map SmartHomeSceneActionRow.load = scene.actions :=
  map_zipIdx (fun _ _ _ => rfl)

theorem Scene.mem_actionRows {row : SmartHomeSceneActionRow}
    (member : row ∈ scene.actionRows ownerId) : row.sceneId = scene.sceneId ∧ row.ownerId =
    ownerId := by
  obtain ⟨_, _, rfl⟩ := List.mem_map.mp member
  exact ⟨rfl, rfl⟩

theorem Scene.filter_actionRows (sceneId : String) :
    (scene.actionRows ownerId).filter (fun row => row.sceneId = sceneId) =
      if scene.sceneId = sceneId then scene.actionRows ownerId else [] := by
  split
  · next same =>
      apply List.filter_eq_self.mpr
      intro row member
      simp only [(scene.mem_actionRows ownerId member).1, same, decide_true]
  · next different =>
      apply List.filter_eq_nil_iff.mpr
      intro row member
      simp only [(scene.mem_actionRows ownerId member).1, different, decide_false,
        Bool.false_eq_true, not_false_eq_true]

theorem Scene.actionRows_ascending :
    (scene.actionRows ownerId).Pairwise (fun left right => left.position < right.position) := by
  apply pairwise_zipIdx
  intro item
  rfl

end Actions

section Edits

variable {rows : HomeRows} {ownerId : String} {edit : HomeEdit}

theorem HomeRows.Stored.noActions {scene : Scene} (stored : rows.Stored)
    (stored' : ((HomeEdit.createScene scene).rows ownerId rows).Stored) :
    rows.sceneActions.filter (fun row => row.sceneId = scene.sceneId) = [] := by
  apply List.filter_eq_nil_iff.mpr
  intro action member
  simp only [decide_eq_true_eq]
  intro same
  obtain ⟨old, oldMember, oldId⟩ := stored.actionScene action member
  have unique := stored'.sceneIds
  simp only [HomeEdit.rows, List.map_append, List.map_cons, List.map_nil] at unique
  have fresh := (List.nodup_append.mp unique).2.2 old.sceneId
    (List.mem_map.mpr ⟨old, oldMember, rfl⟩) scene.sceneId
    (List.mem_singleton.mpr rfl)
  exact fresh (oldId.trans same)

theorem filter_otherActions (actions : List SmartHomeSceneActionRow) {target sceneId : String}
    (different : sceneId ≠ target) :
    (actions.filter (fun row => row.sceneId ≠ target)).filter (fun row => row.sceneId = sceneId) =
      actions.filter (fun row => row.sceneId = sceneId) := by
  rw [List.filter_filter]
  apply List.filter_congr
  intro row _
  by_cases same : row.sceneId = sceneId
  · simp [same, different]
  · simp [same]

theorem filter_removedActions (actions : List SmartHomeSceneActionRow) (target : String) :
    (actions.filter (fun row => row.sceneId ≠ target)).filter (fun row => row.sceneId = target) =
      [] := by
  rw [List.filter_filter]
  apply List.filter_eq_nil_iff.mpr
  intro row _
  simp

theorem HomeEdit.rows_ordered (edit : HomeEdit) (ordered : rows.Ordered) (stored : rows.Stored)
    (stored' : (edit.rows ownerId rows).Stored) : (edit.rows ownerId rows).Ordered := by
  cases edit with
  | createArea area =>
      exact { ordered with areas := pairwise_append_next ordered.areas rfl }
  | updateArea area =>
      refine { ordered with areas := pairwise_map_of_same ordered.areas ?_ }
      intro row
      split
      · rfl
      · rfl
  | deleteArea areaId => exact { ordered with areas := ordered.areas.filter _ }
  | createDevice device =>
      exact { ordered with devices := pairwise_append_next ordered.devices rfl }
  | updateDevice device =>
      refine { ordered with devices := pairwise_map_of_same ordered.devices ?_ }
      intro row
      split
      · rfl
      · rfl
  | deleteDevice deviceId => exact { ordered with devices := ordered.devices.filter _ }
  | createScene scene =>
      refine
        { ordered with
          scenes := pairwise_append_next ordered.scenes rfl
          actions := ?_ }
      intro sceneId
      have fresh := stored.noActions stored'
      simp only [HomeEdit.rows, List.filter_append, Scene.filter_actionRows]
      by_cases same : scene.sceneId = sceneId
      · subst same
        rw [if_pos rfl, fresh, List.nil_append]
        exact scene.actionRows_ascending ownerId
      · rw [if_neg same, List.append_nil]
        exact ordered.actions sceneId
  | updateScene scene =>
      refine
        { ordered with
          scenes := pairwise_map_of_same ordered.scenes ?_
          actions := ?_ }
      · intro row
        split
        · rfl
        · rfl
      · intro sceneId
        simp only [HomeEdit.rows, List.filter_append, Scene.filter_actionRows]
        by_cases same : scene.sceneId = sceneId
        · subst same
          rw [if_pos rfl, filter_removedActions, List.nil_append]
          exact scene.actionRows_ascending ownerId
        · rw [if_neg same, List.append_nil, filter_otherActions _ (Ne.symm same)]
          exact ordered.actions sceneId
  | deleteScene sceneId =>
      refine
        { ordered with
          scenes := ordered.scenes.filter _
          actions := ?_ }
      intro other
      by_cases same : other = sceneId
      · subst same
        simp only [HomeEdit.rows, filter_removedActions]
        exact .nil
      · simp only [HomeEdit.rows, filter_otherActions _ same]
        exact ordered.actions other
  | setPlacement placement => exact { ordered with }
  | clearPlacement deviceRef => exact { ordered with }

/-- A device the command stores names its source. -/
def HomeEdit.Sourced : HomeEdit → Prop
  | createDevice device | updateDevice device => device.source ≠ ""
  | _ => True

theorem SmartHomeDeviceRow.load_assign {row : SmartHomeDeviceRow} {device : Device}
    (same : row.deviceId = device.deviceId) (sourced : device.source ≠ "") :
    (row.assign device).load = device := by
  simp only [SmartHomeDeviceRow.load, SmartHomeDeviceRow.assign, same, sourced, if_false]

theorem SmartHomeSceneRow.load_congr {actions actions' : List SmartHomeSceneActionRow}
    {row : SmartHomeSceneRow}
    (same : actions'.filter (fun action => action.sceneId = row.sceneId) =
      actions.filter (fun action => action.sceneId = row.sceneId)) :
    row.load actions' = row.load actions := by
  simp only [SmartHomeSceneRow.load, same]

theorem SmartHomeSceneRow.load_assign {row : SmartHomeSceneRow} {scene : Scene}
    {actions : List SmartHomeSceneActionRow} (same : row.sceneId = scene.sceneId)
    (own : actions.filter (fun action => action.sceneId = scene.sceneId) =
      scene.actionRows ownerId) : (row.assign scene).load actions = scene := by
  simp only [SmartHomeSceneRow.load, SmartHomeSceneRow.assign, same, own, Scene.load_actionRows]

theorem HomeEdit.home_rows (edit : HomeEdit) (stored : rows.Stored)
    (stored' : (edit.rows ownerId rows).Stored) (sourced : edit.Sourced) :
    (edit.rows ownerId rows).home =
      { edit.apply rows.home with revision := rows.home.revision } := by
  cases edit with
  | createArea area =>
      have areas : (rows.areas ++
          [area.row ownerId (nextAfter (rows.areas.map (fun row => row.position)))]).map
            SmartHomeAreaRow.load = rows.home.areas ++ [area] := List.map_append
      exact congrArg (fun areas => { rows.home with areas := areas }) areas
  | updateArea area =>
      have areas : (rows.areas.map (fun row =>
          if row.areaId = area.areaId then row.assign area else row)).map SmartHomeAreaRow.load =
          inPlace Area.areaId area rows.home.areas := by
        apply map_inPlace
        · intro row
          rfl
        · intro row same
          simp only [SmartHomeAreaRow.load, SmartHomeAreaRow.assign, same]
        · intro row _
          rfl
      exact congrArg (fun areas => { rows.home with areas := areas }) areas
  | deleteArea areaId =>
      have areas : (rows.areas.filter (fun row => row.areaId ≠ areaId)).map
          SmartHomeAreaRow.load = without Area.areaId areaId rows.home.areas :=
        map_without (fun _ => rfl) (fun _ _ => rfl)
      exact congrArg (fun areas => { rows.home with areas := areas }) areas
  | createDevice device =>
      have loads : ∀ position, (device.row ownerId position).load = device :=
        fun _ => SmartHomeDeviceRow.load_assign rfl sourced
      have devices : (rows.devices ++
          [device.row ownerId (nextAfter (rows.devices.map (fun row => row.position)))]).map
            SmartHomeDeviceRow.load = rows.home.devices ++ [device] := by
        rw [List.map_append, List.map_singleton, loads]
        rfl
      exact congrArg (fun devices => { rows.home with devices := devices }) devices
  | updateDevice device =>
      have devices : (rows.devices.map (fun row =>
          if row.deviceId = device.deviceId then row.assign device else row)).map
            SmartHomeDeviceRow.load = inPlace Device.deviceId device rows.home.devices := by
        apply map_inPlace
        · intro row
          rfl
        · intro row same
          exact SmartHomeDeviceRow.load_assign same sourced
        · intro row _
          rfl
      exact congrArg (fun devices => { rows.home with devices := devices }) devices
  | deleteDevice deviceId =>
      have devices : (rows.devices.filter (fun row => row.deviceId ≠ deviceId)).map
          SmartHomeDeviceRow.load = without Device.deviceId deviceId rows.home.devices :=
        map_without (fun _ => rfl) (fun _ _ => rfl)
      exact congrArg (fun devices => { rows.home with devices := devices }) devices
  | createScene scene =>
      have fresh := stored.noActions stored'
      have own : (rows.sceneActions ++ scene.actionRows ownerId).filter
          (fun action => action.sceneId = scene.sceneId) = scene.actionRows ownerId := by
        rw [List.filter_append, fresh, Scene.filter_actionRows, if_pos rfl, List.nil_append]
      have others : ∀ row ∈ rows.scenes,
          row.load (rows.sceneActions ++ scene.actionRows ownerId) =
            row.load rows.sceneActions := by
        intro row member
        have unique := stored'.sceneIds
        simp only [HomeEdit.rows, List.map_append, List.map_cons, List.map_nil] at unique
        have different := (List.nodup_append.mp unique).2.2 row.sceneId
          (List.mem_map.mpr ⟨row, member, rfl⟩) scene.sceneId (List.mem_singleton.mpr rfl)
        apply SmartHomeSceneRow.load_congr
        rw [List.filter_append, Scene.filter_actionRows, if_neg (Ne.symm different),
          List.append_nil]
      have scenes : (rows.scenes ++
          [scene.row ownerId (nextAfter (rows.scenes.map (fun row => row.position)))]).map
            (SmartHomeSceneRow.load (rows.sceneActions ++ scene.actionRows ownerId)) =
          rows.home.scenes ++ [scene] := by
        rw [List.map_append, List.map_congr_left others, List.map_singleton, Scene.row,
          SmartHomeSceneRow.load_assign rfl own]
        rfl
      exact congrArg (fun scenes => { rows.home with scenes := scenes }) scenes
  | updateScene scene =>
      have own : (rows.sceneActions.filter (fun row => row.sceneId ≠ scene.sceneId) ++
          scene.actionRows ownerId).filter (fun action => action.sceneId = scene.sceneId) =
          scene.actionRows ownerId := by
        rw [List.filter_append, filter_removedActions, Scene.filter_actionRows, if_pos rfl,
          List.nil_append]
      have scenes : (rows.scenes.map (fun row =>
          if row.sceneId = scene.sceneId then row.assign scene else row)).map
            (SmartHomeSceneRow.load (rows.sceneActions.filter
              (fun row => row.sceneId ≠ scene.sceneId) ++ scene.actionRows ownerId)) =
          inPlace Scene.sceneId scene rows.home.scenes := by
        apply map_inPlace
        · intro row
          rfl
        · intro row same
          exact SmartHomeSceneRow.load_assign same own
        · intro row different
          apply SmartHomeSceneRow.load_congr
          rw [List.filter_append, filter_otherActions _ different, Scene.filter_actionRows,
            if_neg (Ne.symm different), List.append_nil]
      exact congrArg (fun scenes => { rows.home with scenes := scenes }) scenes
  | deleteScene sceneId =>
      have scenes : (rows.scenes.filter (fun row => row.sceneId ≠ sceneId)).map
          (SmartHomeSceneRow.load
            (rows.sceneActions.filter (fun row => row.sceneId ≠ sceneId))) =
          without Scene.sceneId sceneId rows.home.scenes := by
        apply map_without
        · intro row
          rfl
        · intro row different
          exact SmartHomeSceneRow.load_congr (filter_otherActions _ different)
      exact congrArg (fun scenes => { rows.home with scenes := scenes }) scenes
  | setPlacement placement =>
      have refs : rows.home.placements.map Placement.deviceRef =
          rows.placements.map (fun row => row.deviceRef) := by
        rw [HomeRows.home, List.map_map]
        rfl
      have placements : ((HomeEdit.setPlacement placement).rows ownerId rows).placements.map
          SmartHomePlacementRow.load =
            setItem Placement.deviceRef placement rows.home.placements := by
        simp only [HomeEdit.rows, setItem, refs]
        split
        · apply map_inPlace
          · intro row
            rfl
          · intro row same
            simp only [SmartHomePlacementRow.load, SmartHomePlacementRow.assign, same]
          · intro row _
            rfl
        · exact List.map_append
      exact congrArg (fun placements => { rows.home with placements := placements }) placements
  | clearPlacement deviceRef =>
      have placements : (rows.placements.filter (fun row => row.deviceRef ≠ deviceRef)).map
          SmartHomePlacementRow.load = without Placement.deviceRef deviceRef rows.home.placements :=
        map_without (fun _ => rfl) (fun _ _ => rfl)
      exact congrArg (fun placements => { rows.home with placements := placements }) placements

end Edits

section Samples

variable {ownerId : String} {sample : Registry} {opened : SmartHomeRegistryRow}

/-- The rows of a home a sample was loaded into. -/
def Registry.rows (sample : Registry) (ownerId : String) (opened : SmartHomeRegistryRow) :
    HomeRows :=
  { registry := some opened
    areas := sample.areas.zipIdx.map (fun (area, index) => area.row ownerId index)
    devices := sample.devices.zipIdx.map (fun (device, index) => device.row ownerId index)
    scenes := sample.scenes.zipIdx.map (fun (scene, index) => scene.row ownerId index)
    sceneActions := sample.scenes.flatMap (fun scene => scene.actionRows ownerId)
    placements := sample.placements.map (fun placement => placement.row ownerId) }

/-- The rows of a home with those of a sample behind them. -/
def Registry.addRows (sample : Registry) (ownerId : String) (rows : HomeRows) : HomeRows :=
  { registry := rows.registry
    areas := rows.areas ++ sample.areas.zipIdx.map (fun (area, index) => area.row ownerId index)
    devices := rows.devices ++
      sample.devices.zipIdx.map (fun (device, index) => device.row ownerId index)
    scenes := rows.scenes ++
      sample.scenes.zipIdx.map (fun (scene, index) => scene.row ownerId index)
    sceneActions := rows.sceneActions ++
      sample.scenes.flatMap (fun scene => scene.actionRows ownerId)
    placements := rows.placements ++
      sample.placements.map (fun placement => placement.row ownerId) }

theorem Registry.addRows_of_empty {rows : HomeRows} (empty : rows.Empty)
    (registry : rows.registry = some opened) :
    sample.addRows ownerId rows = sample.rows ownerId opened := by
  simp only [Registry.addRows, Registry.rows, registry, empty.areas, empty.devices, empty.scenes,
    empty.sceneActions, empty.placements, List.nil_append]

theorem Registry.sceneRowIds (scenes : List Scene) :
    (scenes.zipIdx.map (fun (scene, index) => scene.row ownerId index)).map
      SmartHomeSceneRow.sceneId = scenes.map Scene.sceneId := by
  rw [List.map_map]
  conv => rhs; rw [← List.zipIdx_map_fst 0 scenes, List.map_map]
  rfl

theorem Registry.addRows_actionScene {rows : HomeRows} (empty : rows.Empty) :
    ∀ action ∈ (sample.addRows ownerId rows).sceneActions,
      action.sceneId ∈ (sample.addRows ownerId rows).scenes.map (fun row => row.sceneId) := by
  intro action member
  rw [Registry.addRows, empty.sceneActions, List.nil_append] at member
  obtain ⟨scene, sceneMember, actionMember⟩ := List.mem_flatMap.mp member
  rw [(scene.mem_actionRows ownerId actionMember).1, Registry.addRows, List.map_append,
    List.mem_append, Registry.sceneRowIds]
  exact Or.inr (List.mem_map_of_mem sceneMember)

theorem filter_sampleActions {scenes : List Scene}
    (unique : (scenes.map (fun scene => scene.sceneId)).Nodup) (sceneId : String) :
    (scenes.flatMap (fun scene => scene.actionRows ownerId)).filter
        (fun row => row.sceneId = sceneId) =
      ((scenes.find? (fun scene => scene.sceneId = sceneId)).map
        (fun scene => scene.actionRows ownerId)).getD [] := by
  induction scenes with
  | nil => rfl
  | cons scene scenes induction =>
      rw [List.map_cons, List.nodup_cons] at unique
      rw [List.flatMap_cons, List.filter_append, induction unique.2, Scene.filter_actionRows]
      by_cases same : scene.sceneId = sceneId
      · have absent : scenes.find? (fun scene => scene.sceneId = sceneId) = none := by
          apply List.find?_eq_none.mpr
          intro other member
          simp only [decide_eq_true_eq]
          intro otherId
          apply unique.1
          rw [same, ← otherId]
          exact List.mem_map_of_mem member
        rw [if_pos same, absent, List.find?_cons_of_pos (by simp [same])]
        exact List.append_nil _
      · rw [if_neg same, List.find?_cons_of_neg (by simp [same]), List.nil_append]

theorem Registry.sceneIds (stored : (sample.rows ownerId opened).Stored) :
    (sample.scenes.map (fun scene => scene.sceneId)).Nodup := by
  have unique := stored.sceneIds
  rw [Registry.rows, Registry.sceneRowIds] at unique
  exact unique

theorem Registry.rows_ordered (stored : (sample.rows ownerId opened).Stored) :
    (sample.rows ownerId opened).Ordered := by
  constructor
  · apply pairwise_zipIdx
    intro item
    rfl
  · apply pairwise_zipIdx
    intro item
    rfl
  · apply pairwise_zipIdx
    intro item
    rfl
  · intro sceneId
    rw [Registry.rows, filter_sampleActions (Registry.sceneIds stored)]
    cases sample.scenes.find? (fun scene => scene.sceneId = sceneId) with
    | none => exact .nil
    | some scene => exact scene.actionRows_ascending ownerId

theorem Registry.home_rows (stored : (sample.rows ownerId opened).Stored)
    (sourced : ∀ device ∈ sample.devices, device.source ≠ "") :
    (sample.rows ownerId opened).home = sample.settle opened.revision := by
  have unique := Registry.sceneIds stored
  have areas : (sample.areas.zipIdx.map (fun (area, index) => area.row ownerId index)).map
      SmartHomeAreaRow.load = sample.areas := map_zipIdx (fun _ _ _ => rfl)
  have devices : (sample.devices.zipIdx.map (fun (device, index) => device.row ownerId index)).map
      SmartHomeDeviceRow.load = sample.devices := by
    apply map_zipIdx
    intro device member _
    exact SmartHomeDeviceRow.load_assign rfl (sourced device member)
  have scenes : (sample.scenes.zipIdx.map (fun (scene, index) => scene.row ownerId index)).map
      (SmartHomeSceneRow.load (sample.scenes.flatMap (fun scene => scene.actionRows ownerId))) =
      sample.scenes := by
    apply map_zipIdx
    intro scene member _
    have own : (sample.scenes.flatMap (fun scene => scene.actionRows ownerId)).filter
        (fun action => action.sceneId = scene.sceneId) = scene.actionRows ownerId := by
      rw [filter_sampleActions unique, find?_of_mem unique member]
      rfl
    exact SmartHomeSceneRow.load_assign rfl own
  have placements : (sample.placements.map (fun placement => placement.row ownerId)).map
      SmartHomePlacementRow.load = sample.placements := by
    rw [List.map_map]
    exact List.map_id _
  simp only [HomeRows.home, Registry.rows, Registry.settle, areas, devices, scenes, placements]
  rfl

end Samples

end EidolonData
