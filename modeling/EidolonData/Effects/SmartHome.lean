import EidolonData.Home.Rows
import EidolonData.Library.Owned

/-!
# Effects of the registry commands

A successful write moves the revision of its Owner's registry by one, edits
that Owner's rows as the command says and records one fact.  The rows of other
Owners and the rest of the database stay as they were.
-/

namespace EidolonData

open Relational

section Rows

variable {ownerId : String} {h h' h'' : SmartHome}

structure SmartHome.EditsRows (ownerId : String) (edit : HomeRows → HomeRows)
    (h h' : SmartHome) : Prop where
  own : h'.rowsOf ownerId = edit (h.rowsOf ownerId)
  others : ∀ other, other ≠ ownerId → h'.rowsOf other = h.rowsOf other

theorem SmartHome.EditsRows.trans {edit edit' : HomeRows → HomeRows}
    (first : SmartHome.EditsRows ownerId edit h h')
    (second : SmartHome.EditsRows ownerId edit' h' h'') :
    SmartHome.EditsRows ownerId (fun rows => edit' (edit rows)) h h'' :=
  { own := by rw [second.own, first.own]
    others := fun other different => (second.others other different).trans
      (first.others other different) }

section Tables

open Table

variable (h)

theorem editsRows_areas {areas' : Table SmartHomeAreaRow} {edit}
    (edited : EditsOwned SmartHomeAreaRow.ownerId ownerId edit h.areas areas') :
    SmartHome.EditsRows ownerId (fun rows => { rows with areas := edit rows.areas }) h
      { h with areas := areas' } := by
  constructor
  · simp only [SmartHome.rowsOf, edited.own]
  · intro other different
    simp only [SmartHome.rowsOf, edited.others other different]

theorem editsRows_devices {devices' : Table SmartHomeDeviceRow} {edit}
    (edited : EditsOwned SmartHomeDeviceRow.ownerId ownerId edit h.devices devices') :
    SmartHome.EditsRows ownerId (fun rows => { rows with devices := edit rows.devices }) h
      { h with devices := devices' } := by
  constructor
  · simp only [SmartHome.rowsOf, edited.own]
  · intro other different
    simp only [SmartHome.rowsOf, edited.others other different]

theorem editsRows_scenes {scenes' : Table SmartHomeSceneRow} {edit}
    (edited : EditsOwned SmartHomeSceneRow.ownerId ownerId edit h.scenes scenes') :
    SmartHome.EditsRows ownerId (fun rows => { rows with scenes := edit rows.scenes }) h
      { h with scenes := scenes' } := by
  constructor
  · simp only [SmartHome.rowsOf, edited.own]
  · intro other different
    simp only [SmartHome.rowsOf, edited.others other different]

theorem editsRows_actions {sceneActions' : Table SmartHomeSceneActionRow} {edit}
    (edited : EditsOwned SmartHomeSceneActionRow.ownerId ownerId edit h.sceneActions
      sceneActions') :
    SmartHome.EditsRows ownerId (fun rows => { rows with sceneActions := edit rows.sceneActions })
      h { h with sceneActions := sceneActions' } := by
  constructor
  · simp only [SmartHome.rowsOf, edited.own]
  · intro other different
    simp only [SmartHome.rowsOf, edited.others other different]

theorem editsRows_placements {placements' : Table SmartHomePlacementRow} {edit}
    (edited : EditsOwned SmartHomePlacementRow.ownerId ownerId edit h.placements placements') :
    SmartHome.EditsRows ownerId (fun rows => { rows with placements := edit rows.placements }) h
      { h with placements := placements' } := by
  constructor
  · simp only [SmartHome.rowsOf, edited.own]
  · intro other different
    simp only [SmartHome.rowsOf, edited.others other different]

end Tables

/-- The revision of the registry, before the first write none. -/
def HomeRows.revision? (rows : HomeRows) : Option Int :=
  rows.registry.map (fun row => row.revision)

theorem advanced_key (row : SmartHomeRegistryRow) :
    key { row with revision := row.revision + 1 } = key row := rfl

/-- `_advance_revision` on the registries that let it pass. -/
def SmartHome.advance (h : SmartHome) (ownerId : String) : SmartHome :=
  match h.registries.get? ownerId with
  | none => { h with registries := h.registries.insert { ownerId := ownerId, revision := 1 } }
  | some _ =>
      { h with registries := h.registries.modify ownerId (fun row =>
          { row with revision := row.revision + 1 }) advanced_key }

/-- The revision a writer has to name. -/
def Expects (expected : Int) (current : Option Int) : Prop :=
  current = if expected = 0 then none else some expected

theorem SmartHome.advance_rows {expected : Int}
    (current : Expects expected (h.rowsOf ownerId).revision?) :
    SmartHome.EditsRows ownerId
      (fun rows => { rows with
        registry := some { ownerId := ownerId, revision := expected + 1 } }) h
      (h.advance ownerId) := by
  have revision : (h.registries.get? ownerId).map (fun row => row.revision) =
      if expected = 0 then none else some expected := current
  unfold SmartHome.advance
  cases stored : h.registries.get? ownerId with
  | none =>
      have first : expected = 0 := by
        rw [stored] at revision
        by_contra later
        rw [if_neg later] at revision
        cases revision
      subst first
      have stores : Table.Stores h.registries
          (h.registries.insert { ownerId := ownerId, revision := 1 })
          { ownerId := ownerId, revision := 1 } := Table.stores_insert stored
      constructor
      · exact congrArg (fun registry => { h.rowsOf ownerId with registry := registry }) stores.self
      · intro other different
        exact congrArg (fun registry => { h.rowsOf other with registry := registry })
          (stores.other different)
  | some row =>
      have same : row.revision = expected := by
        rw [stored] at revision
        split at revision
        · cases revision
        · exact Option.some.inj revision
      have owner : row.ownerId = ownerId := Table.key_of_get? stored
      subst same owner
      constructor
      · simp [SmartHome.rowsOf, stored]
      · intro other different
        simp [SmartHome.rowsOf, different]

theorem assign_areaKey (area : Area) (row : SmartHomeAreaRow) : key (row.assign area) = key row :=
  rfl

theorem assign_deviceKey (device : Device) (row : SmartHomeDeviceRow) :
    key (row.assign device) = key row := rfl

theorem assign_sceneKey (scene : Scene) (row : SmartHomeSceneRow) :
    key (row.assign scene) = key row := rfl

theorem assign_placementKey (placement : Placement) (row : SmartHomePlacementRow) :
    key (row.assign placement) = key row := rfl

/-- The statements of a command on the rows: none where its target is missing
or a key is taken. -/
def HomeEdit.write (ownerId : String) (h : SmartHome) (edit : HomeEdit) : Option SmartHome :=
  match edit with
  | createArea area => do
      let areas ← h.areas.insertAll?
        [area.row ownerId (nextAfter ((h.rowsOf ownerId).areas.map (fun row => row.position)))]
      return { h with areas := areas }
  | updateArea area =>
      (h.areas.get? (ownerId, area.areaId)).map fun _ => { h with
        areas := h.areas.modify (ownerId, area.areaId) (fun row => row.assign area)
          (assign_areaKey area) }
  | deleteArea areaId =>
      (h.areas.get? (ownerId, areaId)).map fun _ => { h with
        areas := h.areas.retain (fun row => key row ≠ (ownerId, areaId)) }
  | createDevice device => do
      let devices ← h.devices.insertAll?
        [device.row ownerId (nextAfter ((h.rowsOf ownerId).devices.map (fun row => row.position)))]
      return { h with devices := devices }
  | updateDevice device =>
      (h.devices.get? (ownerId, device.deviceId)).map fun _ => { h with
        devices := h.devices.modify (ownerId, device.deviceId) (fun row => row.assign device)
          (assign_deviceKey device) }
  | deleteDevice deviceId =>
      (h.devices.get? (ownerId, deviceId)).map fun _ => { h with
        devices := h.devices.retain (fun row => key row ≠ (ownerId, deviceId)) }
  | createScene scene => do
      let scenes ← h.scenes.insertAll?
        [scene.row ownerId (nextAfter ((h.rowsOf ownerId).scenes.map (fun row => row.position)))]
      { h with scenes := scenes }.addActions ownerId scene
  | updateScene scene => do
      let _ ← h.scenes.get? (ownerId, scene.sceneId)
      let scenes := h.scenes.modify (ownerId, scene.sceneId) (fun row => row.assign scene)
        (assign_sceneKey scene)
      { h with scenes := scenes }.withoutActions ownerId scene.sceneId |>.addActions ownerId scene
  | deleteScene sceneId =>
      (h.scenes.get? (ownerId, sceneId)).map fun _ => { h.withoutActions ownerId sceneId with
        scenes := h.scenes.retain (fun row => key row ≠ (ownerId, sceneId)) }
  | setPlacement placement =>
      match h.placements.get? (ownerId, placement.deviceRef) with
      | none => do
          let placements ← h.placements.insertAll? [placement.row ownerId]
          return { h with placements := placements }
      | some _ => some { h with
          placements := h.placements.modify (ownerId, placement.deviceRef) (fun row =>
            row.assign placement) (assign_placementKey placement) }
  | clearPlacement deviceRef =>
      (h.placements.get? (ownerId, deviceRef)).map fun _ => { h with
        placements := h.placements.retain (fun row => key row ≠ (ownerId, deviceRef)) }

theorem SmartHome.addActions_rows {scene : Scene} (added : h.addActions ownerId scene = some h') :
    SmartHome.EditsRows ownerId
      (fun rows => { rows with sceneActions := rows.sceneActions ++ scene.actionRows ownerId })
      h h' := by
  simp only [SmartHome.addActions, Option.bind_eq_bind, Option.bind_eq_some_iff] at added
  obtain ⟨sceneActions, inserted, ⟨⟩⟩ := added
  exact editsRows_actions h (Table.editsOwned_insertAll? inserted
    (fun row member => (scene.mem_actionRows ownerId member).2))

theorem SmartHome.withoutActions_rows (h : SmartHome) (sceneId : String) :
    SmartHome.EditsRows ownerId
      (fun rows => { rows with
        sceneActions := rows.sceneActions.filter (fun row => row.sceneId ≠ sceneId) })
      h (h.withoutActions ownerId sceneId) := by
  refine editsRows_actions h (Table.editsOwned_retain h.sceneActions ?_ ?_)
  · intro row own
    simp only [own, true_and, ne_eq]
  · intro row different
    simp only [different, false_and, not_false_eq_true, decide_true]

theorem owned_singleton {ρ : Type} {owner : ρ → String} {row : ρ} (owned : owner row = ownerId) :
    ∀ other ∈ [row], owner other = ownerId := by
  intro other member
  rw [List.mem_singleton.mp member, owned]

/-- What the statements of a command make of the rows. -/
theorem HomeEdit.write_rows {edit : HomeEdit} (written : edit.write ownerId h = some h') :
    SmartHome.EditsRows ownerId (edit.rows ownerId) h h' := by
  cases edit with
  | createArea area =>
      simp only [write, Option.bind_eq_bind, Option.bind_eq_some_iff] at written
      obtain ⟨areas, inserted, ⟨⟩⟩ := written
      have edited := editsRows_areas h (Table.editsOwned_insertAll? inserted (owned_singleton rfl))
      exact { own := edited.own, others := edited.others }
  | updateArea area =>
      obtain ⟨_, _, rfl⟩ := Option.map_eq_some_iff.mp written
      exact editsRows_areas h (Table.editsOwned_modify h.areas (fun _ => rfl))
  | deleteArea areaId =>
      obtain ⟨_, _, rfl⟩ := Option.map_eq_some_iff.mp written
      exact editsRows_areas h (Table.editsOwned_delete h.areas (fun _ => rfl) areaId)
  | createDevice device =>
      simp only [write, Option.bind_eq_bind, Option.bind_eq_some_iff] at written
      obtain ⟨devices, inserted, ⟨⟩⟩ := written
      have edited := editsRows_devices h
        (Table.editsOwned_insertAll? inserted (owned_singleton rfl))
      exact { own := edited.own, others := edited.others }
  | updateDevice device =>
      obtain ⟨_, _, rfl⟩ := Option.map_eq_some_iff.mp written
      exact editsRows_devices h (Table.editsOwned_modify h.devices (fun _ => rfl))
  | deleteDevice deviceId =>
      obtain ⟨_, _, rfl⟩ := Option.map_eq_some_iff.mp written
      exact editsRows_devices h (Table.editsOwned_delete h.devices (fun _ => rfl) deviceId)
  | createScene scene =>
      simp only [write, Option.bind_eq_bind, Option.bind_eq_some_iff] at written
      obtain ⟨scenes, inserted, added⟩ := written
      have edited := (editsRows_scenes h
        (Table.editsOwned_insertAll? inserted (owned_singleton rfl))).trans
          (SmartHome.addActions_rows added)
      exact { own := edited.own, others := edited.others }
  | updateScene scene =>
      simp only [write, Option.bind_eq_bind, Option.bind_eq_some_iff] at written
      obtain ⟨_, _, added⟩ := written
      have scenes : SmartHome.EditsRows ownerId
          (fun rows => { rows with scenes := rows.scenes.map (fun row =>
            if row.sceneId = scene.sceneId then row.assign scene else row) }) h
          { h with scenes := h.scenes.modify (ownerId, scene.sceneId) (fun row =>
            row.assign scene) } :=
        editsRows_scenes h (Table.editsOwned_modify h.scenes (fun _ => rfl))
      exact (scenes.trans (SmartHome.withoutActions_rows _ _)).trans
        (SmartHome.addActions_rows added)
  | deleteScene sceneId =>
      obtain ⟨_, _, rfl⟩ := Option.map_eq_some_iff.mp written
      exact (SmartHome.withoutActions_rows h sceneId).trans
        (editsRows_scenes _ (Table.editsOwned_delete h.scenes (fun _ => rfl) sceneId))
  | setPlacement placement =>
      have taken : placement.deviceRef ∈
          (h.rowsOf ownerId).placements.map SmartHomePlacementRow.deviceRef ↔
          ∃ row, h.placements.get? (ownerId, placement.deviceRef) = some row :=
        Table.mem_owned_iff (fun _ => rfl)
      simp only [write] at written
      split at written
      · next absent =>
          simp only [Option.bind_eq_bind, Option.bind_eq_some_iff] at written
          obtain ⟨placements, inserted, ⟨⟩⟩ := written
          have edited : SmartHome.EditsRows ownerId
              (fun rows => { rows with
                placements := rows.placements ++ [placement.row ownerId] }) h
              { h with placements := placements } :=
            editsRows_placements h
              (Table.editsOwned_insertAll? inserted (owned_singleton rfl))
          refine { own := ?_, others := edited.others }
          rw [edited.own, rows, if_neg]
          rintro member
          obtain ⟨row, found⟩ := taken.mp member
          rw [absent] at found
          cases found
      · next row found =>
          cases written
          have edited : SmartHome.EditsRows ownerId
              (fun rows => { rows with placements := rows.placements.map (fun row =>
                if row.deviceRef = placement.deviceRef then row.assign placement else row) }) h
              { h with placements := h.placements.modify (ownerId, placement.deviceRef) (fun row =>
                row.assign placement) } :=
            editsRows_placements h (Table.editsOwned_modify h.placements (fun _ => rfl))
          refine { own := ?_, others := edited.others }
          rw [edited.own, rows, if_pos (taken.mpr ⟨row, found⟩)]
  | clearPlacement deviceRef =>
      obtain ⟨_, _, rfl⟩ := Option.map_eq_some_iff.mp written
      exact editsRows_placements h (Table.editsOwned_delete h.placements (fun _ => rfl) deviceRef)

def HomeEdit.Finds (rows : HomeRows) : HomeEdit → Prop
  | updateArea area => area.areaId ∈ rows.areas.map (fun row => row.areaId)
  | deleteArea areaId => areaId ∈ rows.areas.map (fun row => row.areaId)
  | updateDevice device => device.deviceId ∈ rows.devices.map (fun row => row.deviceId)
  | deleteDevice deviceId => deviceId ∈ rows.devices.map (fun row => row.deviceId)
  | updateScene scene => scene.sceneId ∈ rows.scenes.map (fun row => row.sceneId)
  | deleteScene sceneId => sceneId ∈ rows.scenes.map (fun row => row.sceneId)
  | clearPlacement deviceRef => deviceRef ∈ rows.placements.map (fun row => row.deviceRef)
  | createArea _ | createDevice _ | createScene _ | setPlacement _ => True

theorem HomeEdit.write_finds {edit : HomeEdit} (written : edit.write ownerId h = some h') :
    edit.Finds (h.rowsOf ownerId) := by
  cases edit with
  | updateArea area =>
      obtain ⟨row, found, _⟩ := Option.map_eq_some_iff.mp written
      exact (Table.mem_owned_iff (fun _ => rfl)).mpr ⟨row, found⟩
  | deleteArea areaId =>
      obtain ⟨row, found, _⟩ := Option.map_eq_some_iff.mp written
      exact (Table.mem_owned_iff (fun _ => rfl)).mpr ⟨row, found⟩
  | updateDevice device =>
      obtain ⟨row, found, _⟩ := Option.map_eq_some_iff.mp written
      exact (Table.mem_owned_iff (fun _ => rfl)).mpr ⟨row, found⟩
  | deleteDevice deviceId =>
      obtain ⟨row, found, _⟩ := Option.map_eq_some_iff.mp written
      exact (Table.mem_owned_iff (fun _ => rfl)).mpr ⟨row, found⟩
  | updateScene scene =>
      obtain ⟨row, found, _⟩ := Option.bind_eq_some_iff.mp written
      exact (Table.mem_owned_iff (fun _ => rfl)).mpr ⟨row, found⟩
  | deleteScene sceneId =>
      obtain ⟨row, found, _⟩ := Option.map_eq_some_iff.mp written
      exact (Table.mem_owned_iff (fun _ => rfl)).mpr ⟨row, found⟩
  | clearPlacement deviceRef =>
      obtain ⟨row, found, _⟩ := Option.map_eq_some_iff.mp written
      exact (Table.mem_owned_iff (fun _ => rfl)).mpr ⟨row, found⟩
  | createArea | createDevice | createScene | setPlacement => trivial

theorem HomeEdit.rows_actionScene {edit : HomeEdit} {rows : HomeRows} (stored : rows.Stored)
    (finds : edit.Finds rows) : ∀ action ∈ (edit.rows ownerId rows).sceneActions,
      action.sceneId ∈ (edit.rows ownerId rows).scenes.map (fun row => row.sceneId) := by
  have before : ∀ action ∈ rows.sceneActions,
      action.sceneId ∈ rows.scenes.map (fun row => row.sceneId) :=
    fun action member => List.mem_map.mpr (stored.actionScene action member)
  cases edit with
  | createScene scene =>
      intro action member
      rw [HomeEdit.rows, List.map_append, List.mem_append]
      rcases List.mem_append.mp member with old | new
      · exact Or.inl (before action old)
      · rw [(scene.mem_actionRows ownerId new).1]
        exact Or.inr (List.mem_singleton.mpr rfl)
  | updateScene scene =>
      have ids : (rows.scenes.map (fun row =>
          if row.sceneId = scene.sceneId then row.assign scene else row)).map
            (fun row => row.sceneId) = rows.scenes.map (fun row => row.sceneId) := by
        rw [List.map_map]
        apply List.map_congr_left
        intro row _
        simp only [Function.comp_apply]
        split
        · rfl
        · rfl
      intro action member
      rw [HomeEdit.rows, ids]
      rcases List.mem_append.mp member with old | new
      · exact before action (List.mem_of_mem_filter old)
      · rw [(scene.mem_actionRows ownerId new).1]
        exact finds
  | deleteScene sceneId =>
      intro action member
      obtain ⟨old, kept⟩ := List.mem_filter.mp member
      obtain ⟨scene, sceneMember, same⟩ := List.mem_map.mp (before action old)
      refine List.mem_map.mpr ⟨scene, List.mem_filter.mpr ⟨sceneMember, ?_⟩, same⟩
      rw [same]
      exact kept
  | createArea | updateArea | deleteArea | createDevice | updateDevice | deleteDevice
  | setPlacement | clearPlacement => exact before

theorem owned_map {α ρ : Type} {owner : ρ → String} {row : α → ρ} {items : List α}
    (owned : ∀ item, owner (row item) = ownerId) : ∀ other ∈ items.map row, owner other =
    ownerId := by
  intro other member
  obtain ⟨item, _, rfl⟩ := List.mem_map.mp member
  exact owned item

theorem owned_flatMap {scenes : List Scene} :
    ∀ row ∈ scenes.flatMap (fun scene => scene.actionRows ownerId), row.ownerId = ownerId := by
  intro row member
  obtain ⟨scene, _, rowMember⟩ := List.mem_flatMap.mp member
  exact (scene.mem_actionRows ownerId rowMember).2

theorem SmartHome.populate_rows {sample : Registry}
    (populated : h.populate? ownerId sample = some h') :
    SmartHome.EditsRows ownerId (sample.addRows ownerId) h h' := by
  simp only [SmartHome.populate?, Option.bind_eq_bind, Option.bind_eq_some_iff] at populated
  obtain ⟨areas, areasIn, devices, devicesIn, scenes, scenesIn, sceneActions, actionsIn, placements,
    placementsIn, ⟨⟩⟩ := populated
  have chain := ((((editsRows_areas h
    (Table.editsOwned_insertAll? areasIn (owned_map (fun _ => rfl)))).trans
      (editsRows_devices _
        (Table.editsOwned_insertAll? devicesIn (owned_map (fun _ => rfl))))).trans
      (editsRows_scenes _ (Table.editsOwned_insertAll? scenesIn (owned_map (fun _ => rfl))))).trans
      (editsRows_actions _ (Table.editsOwned_insertAll? actionsIn owned_flatMap))).trans
      (editsRows_placements _
        (Table.editsOwned_insertAll? placementsIn (owned_map (fun _ => rfl))))
  exact { own := chain.own, others := chain.others }

end Rows

section Statements

variable (sdk : Sdk) (env : Env) (t : Tables) (ownerId : String)

theorem loadRegistry_effect (revision : Int) :
    (loadRegistry sdk ownerId revision).Ensures t (fun registry t' =>
      t' = t ∧ registry = t.home.loaded ownerId revision ∧
        sdk.validateRegistry registry = .ok ()) := by
  simp only [loadRegistry, Tx.ensures_bind, Tx.ensures_read]
  split
  · exact Tx.ensures_refuse _ _ _
  · simp only [Tx.ensures_bind, Tx.ensures_read, Tx.ensures_lift, Tx.pure_eq, Tx.ensures_done]
    intro _ accepted
    exact ⟨trivial, rfl, accepted⟩

theorem propose_effect (c : HomeChange) (document : Registry) :
    (c.propose sdk document).Ensures t (fun proposed t' =>
      t' = t ∧ proposed = { document with revision := c.revision } ∧
        sdk.validateRegistry proposed = .ok ()) := by
  simp only [HomeChange.propose, Tx.ensures_bind, Tx.ensures_lift, Tx.pure_eq, Tx.ensures_done]
  intro _ accepted
  exact ⟨trivial, trivial, accepted⟩

@[simp] theorem ensures_writeRows (write : SmartHome → Option SmartHome)
    (post : Unit → Tables → Prop) :
    (writeRows write).Ensures t post ↔
      ∀ home, write t.home = some home → post () (t.mapHome (fun _ => home)) := by
  rw [writeRows, Tx.ensures_attempt]
  cases written : write t.home with
  | none => simp
  | some home => simp

theorem advanceRevision_effect (expected : Int) :
    (advanceRevision ownerId expected).Ensures t (fun revision t' =>
      revision = expected + 1 ∧ Expects expected (t.home.rowsOf ownerId).revision? ∧
        t' = t.mapHome (fun h => h.advance ownerId)) := by
  unfold advanceRevision
  split
  · next first =>
      simp only [openRegistry, Tx.ensures_bind, Tx.ensures_read]
      cases stored : t.home.registries.get? ownerId with
      | some row => exact Tx.ensures_refuse _ _ _
      | none =>
          simp only [Tx.ensures_bind, Tx.ensures_attempt, Tx.pure_eq, Tx.ensures_done]
          intro t' opened
          split at opened
          · cases opened
          · cases opened
            refine ⟨by rw [first]; rfl, ?_, ?_⟩
            · rw [Expects, if_pos first, HomeRows.revision?, SmartHome.rowsOf, stored]
              rfl
            · simp only [Tables.mapHome, SmartHome.advance, stored]
  · next later =>
      simp only [Tx.ensures_bind, Tx.ensures_attempt, Tx.pure_eq, Tx.ensures_done]
      intro t' advanced
      split at advanced
      · next current =>
          cases advanced
          refine ⟨trivial, ?_, ?_⟩
          · rw [Expects, if_neg later]
            exact current
          · cases stored : t.home.registries.get? ownerId with
            | none =>
                rw [stored] at current
                cases current
            | some row => simp only [Tables.mapHome, SmartHome.advance, stored]
      · cases advanced

theorem SmartHome.loaded_advance (h : SmartHome) (revision : Int) :
    (h.advance ownerId).loaded ownerId revision = h.loaded ownerId revision := by
  unfold SmartHome.advance
  split
  · rfl
  · rfl

/-- What a successful registry write leaves behind. -/
structure RegistryWritten (env : Env) (ownerId : String) (expected : Int)
    (change target : String) (edit : HomeRows → HomeRows) (t t' : Tables) : Prop where
  nonnegative : 0 ≤ expected
  current : Expects expected (t.home.rowsOf ownerId).revision?
  owner : expected = 0 → t.workspace.owners.has ownerId = true
  rest : ∃ home, t' = (t.mapHome (fun _ => home)).addFact env.now
    (registryChanged (env.uuid 0) env.now ownerId change target (expected + 1) none)
  rows : SmartHome.EditsRows ownerId (fun rows => edit { rows with
    registry := some { ownerId := ownerId, revision := expected + 1 } }) t.home t'.home

/-- What the body of a registry write makes of the tables it runs in. -/
structure HomeChange.Made (c : HomeChange) (edit : HomeRows → HomeRows) (t t' : Tables)
    (proposed : Registry) : Prop where
  revision : proposed.revision = c.revision
  home : ∃ home, t' = t.mapHome (fun _ => home)
  rows : SmartHome.EditsRows c.ownerId edit t.home t'.home

/-- Only the statement that moves the revision, which takes the writer lock,
says what a write finds. -/
theorem advanceRevision_onward {expected : Int} {α : Type} {rest : Int → Session α}
    {post : Tables → α → Tables → Prop}
    (moved : ∀ t : Tables, Expects expected (t.home.rowsOf ownerId).revision? →
      (expected = 0 → t.workspace.owners.has ownerId = true) →
      (rest (expected + 1)).Ensures (t.mapHome (fun h => h.advance ownerId)) (post t)) :
    (advanceRevision ownerId expected >>= rest).Onward post := by
  unfold advanceRevision
  split
  · next first =>
      simp only [openRegistry, Tx.bind_assoc, Tx.onward_read_bind]
      intro existing
      cases existing with
      | some row => exact Tx.onward_refuse _
      | none =>
          simp only [Tx.bind_assoc, Tx.onward_attempt_bind]
          intro t
          simp only [Tx.ensures_bind, Tx.ensures_attempt, Tx.pure_eq, Tx.ensures_done]
          intro t' opened
          split at opened
          · cases opened
          · next free =>
              cases opened
              simp only [Bool.or_eq_true, not_or, Bool.not_eq_true, Bool.not_eq_false'] at free
              have stored := Table.has_eq_false_iff.mp free.1
              have current : Expects expected (t.home.rowsOf ownerId).revision? := by
                rw [Expects, if_pos first, HomeRows.revision?, SmartHome.rowsOf, stored]
                rfl
              have result := moved t current (fun _ => free.2)
              simp only [Tables.mapHome, SmartHome.advance, stored, first] at result ⊢
              exact result
  · next later =>
      simp only [Tx.bind_assoc, Tx.onward_attempt_bind]
      intro t
      simp only [Tx.ensures_bind, Tx.ensures_attempt, Tx.pure_eq, Tx.ensures_done]
      intro t' advanced
      split at advanced
      · next current =>
          cases advanced
          have named : Expects expected (t.home.rowsOf ownerId).revision? := by
            rw [Expects, if_neg later]
            exact current
          have result := moved t named (fun first => absurd first later)
          cases stored : t.home.registries.get? ownerId with
          | none =>
              rw [stored] at current
              cases current
          | some row =>
              simp only [Tables.mapHome, SmartHome.advance, stored] at result ⊢
              exact result
      · cases advanced

/-- The rule of `_change`: what the body establishes of the registry it was
given and of the one it proposes holds of the whole write, from the statement
that moves the revision on. -/
theorem changeRegistry_onward {expected : Int} {change target : String}
    {body : HomeChange → Session Registry} {edit : HomeRows → HomeRows}
    {post : HomeChange → HomeRows → Registry → Prop}
    (spec : ∀ (c : HomeChange) (t₁ : Tables), c.ownerId = ownerId →
      (body c).Ensures t₁ (fun proposed t₂ => c.Made edit t₁ t₂ proposed ∧
        post c (t₁.home.rowsOf ownerId) proposed)) :
    (changeRegistry sdk env ownerId expected change target body).Onward (fun t proposed t' =>
      RegistryWritten env ownerId expected change target edit t t' ∧
        post
          { ownerId := ownerId
            current := t.home.loaded ownerId expected
            revision := expected + 1 }
          { t.home.rowsOf ownerId with
            registry := some { ownerId := ownerId, revision := expected + 1 } } proposed) := by
  simp only [changeRegistry, Tx.onward_refuseIf_bind, onward_getOwner_bind]
  intro nonnegative _ _
  apply advanceRevision_onward
  intro t current known
  rw [Tx.ensures_bind]
  refine (loadRegistry_effect sdk _ ownerId expected).mono ?_
  rintro _ t₂ ⟨rfl, rfl, -⟩
  rw [Tx.ensures_bind]
  refine (spec _ _ rfl).mono ?_
  rintro proposed t₃ ⟨made, established⟩
  simp only [ensures_addFact, Tx.ensures_bind, Tx.pure_eq, Tx.ensures_done]
  have advanced := SmartHome.advance_rows current
  have home : (t.mapHome (fun h => h.advance ownerId)).home = t.home.advance ownerId := rfl
  rw [home, advanced.own, SmartHome.loaded_advance] at established
  refine ⟨?_, established⟩
  obtain ⟨stored, same⟩ := made.home
  refine
    { nonnegative := by omega
      current := current
      owner := known
      rest := ⟨stored, ?_⟩
      rows := ?_ }
  · rw [same, made.revision]
    rfl
  · have chain := advanced.trans made.rows
    exact { own := chain.own, others := chain.others }

structure HomeEdit.Proposes (edit : HomeEdit) (c : HomeChange) (rows : HomeRows)
    (proposed : Registry) : Prop where
  document : proposed = { edit.document c.current with revision := c.revision }
  accepted : sdk.validateRegistry proposed = .ok ()
  finds : edit.Finds rows

/-- The body of an edit whose statements were carried out. -/
theorem HomeEdit.made {edit : HomeEdit} {c : HomeChange} {proposed : Registry} {home : SmartHome}
    (own : c.ownerId = ownerId)
    (document : proposed = { edit.document c.current with revision := c.revision })
    (accepted : sdk.validateRegistry proposed = .ok ())
    (written : edit.write ownerId t.home = some home) :
    c.Made (edit.rows ownerId) t (t.mapHome (fun _ => home)) proposed ∧
      edit.Proposes sdk c (t.home.rowsOf ownerId) proposed := by
  subst own
  constructor
  · refine { revision := by rw [document], home := ⟨home, rfl⟩, rows := ?_ }
    exact HomeEdit.write_rows written
  · exact
      { document := document
        accepted := accepted
        finds := HomeEdit.write_finds written }

/-- A proposal and the statements that follow it are an edit when they are the
ones of the edit. -/
theorem HomeEdit.proposal (edit : HomeEdit) {c : HomeChange}
    {write : Tables → Option SmartHome} (own : c.ownerId = ownerId)
    (writes : write t = edit.write ownerId t.home) :
    (c.propose sdk (edit.document c.current)).Ensures t (fun proposed t' =>
      ∀ home, write t' = some home →
        c.Made (edit.rows ownerId) t (t'.mapHome (fun _ => home)) proposed ∧
          edit.Proposes sdk c (t.home.rowsOf ownerId) proposed) := by
  refine (propose_effect sdk t c _).mono ?_
  rintro proposed _ ⟨rfl, document, accepted⟩ home written
  exact HomeEdit.made sdk _ ownerId own document accepted (writes.symm.trans written)

theorem editHome_onward (edit : HomeEdit) (expected : Int) :
    (editHome sdk env ownerId edit expected).Onward (fun t proposed t' =>
      (∃ change target,
        RegistryWritten env ownerId expected change target (edit.rows ownerId) t t') ∧
        edit.Proposes sdk
          { ownerId := ownerId
            current := t.home.loaded ownerId expected
            revision := expected + 1 }
          { t.home.rowsOf ownerId with
            registry := some { ownerId := ownerId, revision := expected + 1 } } proposed) := by
  have named : ∀ {change target : String} {body : HomeChange → Session Registry},
      (∀ (c : HomeChange) (t₁ : Tables), c.ownerId = ownerId →
        (body c).Ensures t₁ (fun proposed t₂ => c.Made (edit.rows ownerId) t₁ t₂ proposed ∧
          edit.Proposes sdk c (t₁.home.rowsOf ownerId) proposed)) →
      (changeRegistry sdk env ownerId expected change target body).Onward (fun t proposed t' =>
        (∃ change target,
          RegistryWritten env ownerId expected change target (edit.rows ownerId) t t') ∧
          edit.Proposes sdk
            { ownerId := ownerId
              current := t.home.loaded ownerId expected
              revision := expected + 1 }
            { t.home.rowsOf ownerId with
              registry := some { ownerId := ownerId, revision := expected + 1 } } proposed) := by
    intro change target body spec
    refine (changeRegistry_onward sdk env ownerId spec).mono ?_
    rintro t proposed t' ⟨written, proposes⟩
    exact ⟨⟨change, target, written⟩, proposes⟩
  cases edit with
  | createArea area =>
      unfold editHome createArea
      apply named
      intro c t₁ own
      simp only [Tx.ensures_bind, nextPosition, Tx.ensures_read, ensures_writeRows, Tx.pure_eq,
        Tx.ensures_done]
      apply HomeEdit.proposal sdk t₁ ownerId (.createArea area) own
      rfl
  | updateArea area =>
      unfold editHome updateArea
      apply named
      intro c t₁ own
      simp only [Tx.ensures_bind, getArea, Tx.ensures_read, Tx.ensures_require, ensures_writeRows,
        Tx.pure_eq, Tx.ensures_done]
      intro row found
      apply HomeEdit.proposal sdk t₁ ownerId (.updateArea area) own
      rw [HomeEdit.write, found]
      rfl
  | deleteArea areaId =>
      unfold editHome deleteArea
      apply named
      intro c t₁ own
      simp only [Tx.ensures_bind, getArea, Tx.ensures_read, Tx.ensures_require, Tx.ensures_refuseIf,
        ensures_writeRows, Tx.pure_eq, Tx.ensures_done]
      intro row found _
      apply HomeEdit.proposal sdk t₁ ownerId (.deleteArea areaId) own
      rw [HomeEdit.write, found]
      rfl
  | createDevice device =>
      unfold editHome createDevice
      apply named
      intro c t₁ own
      simp only [Tx.ensures_bind, nextPosition, Tx.ensures_read, ensures_writeRows, Tx.pure_eq,
        Tx.ensures_done]
      apply HomeEdit.proposal sdk t₁ ownerId (.createDevice device) own
      rfl
  | updateDevice device =>
      unfold editHome updateDevice
      apply named
      intro c t₁ own
      simp only [Tx.ensures_bind, getDevice, Tx.ensures_read, Tx.ensures_require, ensures_writeRows,
        Tx.pure_eq, Tx.ensures_done]
      intro row found
      apply HomeEdit.proposal sdk t₁ ownerId (.updateDevice device) own
      rw [HomeEdit.write, found]
      rfl
  | deleteDevice deviceId =>
      unfold editHome deleteDevice
      apply named
      intro c t₁ own
      simp only [Tx.ensures_bind, getDevice, Tx.ensures_read, Tx.ensures_require,
        Tx.ensures_refuseIf, ensures_writeRows, Tx.pure_eq, Tx.ensures_done]
      intro row found _
      apply HomeEdit.proposal sdk t₁ ownerId (.deleteDevice deviceId) own
      rw [HomeEdit.write, found]
      rfl
  | createScene scene =>
      unfold editHome createScene
      apply named
      intro c t₁ own
      simp only [Tx.ensures_bind, nextPosition, Tx.ensures_read, ensures_writeRows, Tx.pure_eq,
        Tx.ensures_done]
      apply HomeEdit.proposal sdk t₁ ownerId (.createScene scene) own
      rfl
  | updateScene scene =>
      unfold editHome updateScene
      apply named
      intro c t₁ own
      simp only [Tx.ensures_bind, getScene, Tx.ensures_read, Tx.ensures_require, ensures_writeRows,
        Tx.pure_eq, Tx.ensures_done]
      intro row found
      apply HomeEdit.proposal sdk t₁ ownerId (.updateScene scene) own
      rw [HomeEdit.write, found]
      rfl
  | deleteScene sceneId =>
      unfold editHome deleteScene
      apply named
      intro c t₁ own
      simp only [Tx.ensures_bind, getScene, Tx.ensures_read, Tx.ensures_require, ensures_writeRows,
        Tx.pure_eq, Tx.ensures_done]
      intro row found
      apply HomeEdit.proposal sdk t₁ ownerId (.deleteScene sceneId) own
      rw [HomeEdit.write, found]
      rfl
  | setPlacement placement =>
      unfold editHome setPlacement
      apply named
      intro c t₁ own
      simp only [Tx.ensures_bind, getPlacement, Tx.ensures_read, ensures_writeRows, Tx.pure_eq,
        Tx.ensures_done]
      apply HomeEdit.proposal sdk t₁ ownerId (.setPlacement placement) own
      rfl
  | clearPlacement deviceRef =>
      unfold editHome clearPlacement
      apply named
      intro c t₁ own
      simp only [Tx.ensures_bind, getPlacement, Tx.ensures_read, Tx.ensures_require,
        ensures_writeRows, Tx.pure_eq, Tx.ensures_done]
      intro row found
      apply HomeEdit.proposal sdk t₁ ownerId (.clearPlacement deviceRef) own
      rw [HomeEdit.write, found]
      rfl

structure Registry.Loads (sample : Registry) (c : HomeChange) (proposed : Registry) : Prop where
  document : proposed = { sample with revision := c.revision }
  accepted : sdk.validateRegistry proposed = .ok ()
  areas : c.current.areas = []
  devices : c.current.devices = []
  scenes : c.current.scenes = []
  placements : c.current.placements = []

theorem populateSample_effect (sample : Registry) (c : HomeChange) :
    (populateSample sdk sample c).Ensures t (fun proposed t' =>
      c.Made (sample.addRows c.ownerId) t t' proposed ∧ sample.Loads sdk c proposed) := by
  simp only [populateSample, Tx.ensures_bind, Tx.ensures_refuseIf, ensures_writeRows, Tx.pure_eq,
    Tx.ensures_done, not_or, ne_eq, not_not]
  rintro ⟨areas, devices, scenes, placements⟩
  refine (propose_effect sdk t c sample).mono ?_
  rintro proposed t₁ ⟨rfl, document, accepted⟩ home populated
  constructor
  · refine { revision := by rw [document], home := ⟨home, rfl⟩, rows := ?_ }
    exact SmartHome.populate_rows populated
  · exact
      { document := document
        accepted := accepted
        areas := areas
        devices := devices
        scenes := scenes
        placements := placements }

theorem loadSample_onward (name : String) (expected : Int) :
    (loadSample sdk env ownerId name expected).Onward (fun t proposed t' =>
      ∃ sample, sdk.sample? name = some sample ∧
        RegistryWritten env ownerId expected "sample.loaded" name (sample.addRows ownerId) t t' ∧
        sample.Loads sdk
          { ownerId := ownerId
            current := t.home.loaded ownerId expected
            revision := expected + 1 } proposed) := by
  simp only [loadSample, Tx.onward_require_bind]
  intro sample known
  let post (c : HomeChange) (_ : HomeRows) (proposed : Registry) : Prop :=
    sample.Loads sdk c proposed
  have spec : ∀ (c : HomeChange) (t₁ : Tables), c.ownerId = ownerId →
      (populateSample sdk sample c).Ensures t₁ (fun proposed t₂ =>
        c.Made (sample.addRows ownerId) t₁ t₂ proposed ∧
          post c (t₁.home.rowsOf ownerId) proposed) := by
    rintro c t₁ rfl
    exact populateSample_effect sdk t₁ sample c
  refine (changeRegistry_onward sdk env ownerId spec).mono ?_
  rintro t proposed t' ⟨written, loads⟩
  exact ⟨sample, known, written, loads⟩

def HomeWrite.sampleName? : HomeWrite → Option String
  | .edit _ _ => none
  | .loadSample name _ => some name
  | .initializeDefault => some "apartment"

/-- What a writer of the registry does: the edit of its rows, or a sample in
an empty home. -/
inductive HomeWritten (env : Env) (ownerId : String) (t : Tables) :
    HomeWrite → Registry → Tables → Prop where
  | edited {edit : HomeEdit} {expected : Int} {change target : String} {proposed : Registry}
      {t' : Tables}
      (written : RegistryWritten env ownerId expected change target (edit.rows ownerId) t t')
      (proposes : edit.Proposes sdk
        { ownerId := ownerId
          current := t.home.loaded ownerId expected
          revision := expected + 1 }
        { t.home.rowsOf ownerId with
          registry := some { ownerId := ownerId, revision := expected + 1 } } proposed) :
      HomeWritten env ownerId t (.edit edit expected) proposed t'
  | loaded {write : HomeWrite} {name : String} {sample proposed : Registry} {t' : Tables}
      (named : write.sampleName? = some name) (known : sdk.sample? name = some sample)
      (written : RegistryWritten env ownerId write.expectedRevision "sample.loaded" name
        (sample.addRows ownerId) t t')
      (loads : sample.Loads sdk
        { ownerId := ownerId
          current := t.home.loaded ownerId write.expectedRevision
          revision := write.expectedRevision + 1 } proposed) :
      HomeWritten env ownerId t write proposed t'

/-- Whatever a writer of the registry does, it does from its first statement
that takes the writer lock on. -/
theorem HomeWrite.session_onward (write : HomeWrite) :
    (write.session sdk env ownerId).Onward (fun t proposed t' =>
      HomeWritten sdk env ownerId t write proposed t') := by
  cases write with
  | edit change expected =>
      refine (editHome_onward sdk env ownerId change expected).mono ?_
      rintro t proposed t' ⟨⟨change, target, written⟩, proposes⟩
      exact .edited written proposes
  | loadSample name expected =>
      refine (loadSample_onward sdk env ownerId name expected).mono ?_
      rintro t proposed t' ⟨sample, known, written, loads⟩
      exact .loaded rfl known written loads
  | initializeDefault =>
      refine (loadSample_onward sdk env ownerId "apartment" 0).mono ?_
      rintro t proposed t' ⟨sample, known, written, loads⟩
      exact .loaded rfl known written loads

theorem HomeWritten.registry {write : HomeWrite} {proposed : Registry} {t' : Tables}
    (made : HomeWritten sdk env ownerId t write proposed t') : ∃ change target edit,
      RegistryWritten env ownerId write.expectedRevision change target edit t t' := by
  cases made with
  | edited written => exact ⟨_, _, _, written⟩
  | loaded named known written => exact ⟨_, _, _, written⟩

theorem HomeWrite.session_workspace (write : HomeWrite) :
    (write.session sdk env ownerId).Ensures t (fun _ t' => t'.workspace = t.workspace) := by
  refine ((write.session_onward sdk env ownerId).runs t).mono ?_
  intro proposed t' made
  obtain ⟨_, _, _, written⟩ := made.registry
  obtain ⟨home, rfl⟩ := written.rest
  rfl

/-- What the onboarding makes of the home of the Owner it created. -/
structure HomeInitialized (env : Env) (ownerId traceId : String) (t t' : Tables) : Prop where
  accepted : sdk.validateRegistry { sdk.apartmentSample with revision := 1 } = .ok ()
  rest : ∃ home, t' = (t.mapHome (fun _ => home)).addFact env.now
    (registryChanged (env.uuid 6) env.now ownerId "sample.loaded" "apartment" 1 (some traceId))
  rows : SmartHome.EditsRows ownerId (fun rows => sdk.apartmentSample.addRows ownerId
    { rows with registry := some { ownerId := ownerId, revision := 1 } }) t.home t'.home

theorem initializeOwnerHome_effect (traceId : String) :
    (initializeOwnerHome sdk env ownerId traceId).Ensures t (fun _ t' =>
      HomeInitialized sdk env ownerId traceId t t') := by
  simp only [initializeOwnerHome, Tx.ensures_bind]
  refine (advanceRevision_effect t ownerId 0).mono ?_
  rintro _ t₁ ⟨rfl, current, rfl⟩
  refine (populateSample_effect sdk _ _ _).mono ?_
  rintro proposed t₂ ⟨made, loads⟩
  rw [ensures_addFact]
  obtain ⟨home, same⟩ := made.home
  have chain := (SmartHome.advance_rows current).trans made.rows
  refine
    { accepted := ?_
      rest := ⟨home, ?_⟩
      rows := { own := chain.own, others := chain.others } }
  · have accepted := loads.accepted
    rw [loads.document] at accepted
    exact accepted
  · rw [same]
    rfl

end Statements

end EidolonData
