import EidolonData.Home.Validation
import EidolonData.Invariants.Homes

/-!
# Accepted proposals reach the tables

A registry the SDK accepted has unique identifiers and references that
resolve, so the statements that store it are stopped by no key, no index and
no reference of the registry tables.
-/

namespace EidolonData

open Relational

section Rows

variable {sdk : Sdk} {rows : HomeRows} {ownerId : String}

theorem HomeRows.Sound.valid {known : Bool} (sound : rows.Sound sdk)
    (checks : sdk.ChecksRegistries) (stored : rows.Stored)
    (positive : ∀ row, rows.registry = some row → 0 < row.revision)
    (unknown : known = false → rows = {}) : rows.Valid known := by
  have wellFormed := checks _ sound.accepted
  have areaIds : ∀ areaId, areaId ∈ rows.home.registry.areas.map Area.areaId ↔
      areaId ∈ rows.areas.map (fun row => row.areaId) := by
    intro areaId
    show areaId ∈ (orderBy Area.order rows.home.areas).map Area.areaId ↔ _
    rw [((orderBy_perm Area.order rows.home.areas).map Area.areaId).mem_iff, HomeRows.home,
      List.map_map]
    rfl
  have deviceIds : rows.home.registry.devices.map Device.deviceId =
      rows.devices.map (fun row => row.deviceId) := by
    rw [Home.registry, HomeRows.home, List.map_map]
    rfl
  constructor
  · exact unknown
  · exact positive
  · have names := ((orderBy_perm Area.order rows.home.areas).map Area.name).nodup_iff.mp
      wellFormed.areaNames
    rw [HomeRows.home, List.map_map] at names
    exact names
  · intro device member areaId located
    have resolved := wellFormed.deviceArea device.load (List.mem_map_of_mem member)
    have same : device.load.areaId = some areaId := located
    rw [same, Option.all_some, decide_eq_true_eq] at resolved
    exact (areaIds areaId).mp resolved
  · intro action member
    exact List.mem_map.mpr (stored.actionScene action member)
  · intro action member
    obtain ⟨scene, sceneMember, same⟩ := stored.actionScene action member
    have loaded : action.load ∈ (scene.load rows.sceneActions).actions := by
      apply List.mem_map_of_mem
      exact List.mem_filter.mpr ⟨member, by simp [same]⟩
    have resolved := wellFormed.actionDevice (scene.load rows.sceneActions)
      (List.mem_map_of_mem sceneMember) action.load loaded
    rw [deviceIds] at resolved
    exact resolved
  · intro placement member
    have resolved := wellFormed.placementArea placement.load
      (mem_orderBy.mpr (List.mem_map_of_mem member))
    exact (areaIds _).mp resolved

end Rows

section Keys

variable {ownerId : String}

theorem free_of_appended {α ρ : Type} [HasKey ρ (String × String)] {table : Table ρ}
    {owner column : ρ → String} (keyed : ∀ row, key row = (owner row, column row))
    {items : List α} {id : α → String} {item : α} (unique : ((items ++ [item]).map id).Nodup)
    (stored : (items.map id).Perm ((table.select (fun row => owner row = ownerId)).map column)) :
    table.get? (ownerId, id item) = none := by
  apply Table.has_eq_false_iff.mp
  rw [Bool.eq_false_iff, ne_eq, has_owned_iff keyed, ← stored.mem_iff]
  intro member
  rw [List.map_append, List.nodup_append] at unique
  exact unique.2.2 _ member _ (List.mem_singleton.mpr rfl) rfl

theorem free_of_empty {ρ : Type} [HasKey ρ (String × String)] {table : Table ρ}
    {owner column : ρ → String} (keyed : ∀ row, key row = (owner row, column row))
    (empty : table.select (fun row => owner row = ownerId) = []) (id : String) :
    table.get? (ownerId, id) = none := by
  apply Table.has_eq_false_iff.mp
  rw [Bool.eq_false_iff, ne_eq, has_owned_iff keyed, empty]
  exact List.not_mem_nil

theorem exists_bind {α β : Type} {first : Option α} {rest : α → Option β}
    (some : ∃ value, first = .some value) (others : ∀ value, ∃ result, rest value = .some result) :
    ∃ result, (first >>= rest) = .some result := by
  obtain ⟨value, rfl⟩ := some
  exact others value

theorem insertAll?_single {ρ κ : Type} [HasKey ρ κ] [DecidableEq κ] {table : Table ρ} {row : ρ}
    (free : table.get? (key row) = none) : ∃ table', table.insertAll? [row] = some table' := by
  apply Table.insertAll?_of_fresh
  · exact List.nodup_singleton _
  · intro other member
    rw [List.mem_singleton.mp member]
    exact free

theorem Scene.actionRows_keys (scene : Scene) :
    ((scene.actionRows ownerId).map key).Nodup := by
  refine List.pairwise_map.mpr ((scene.actionRows_ascending ownerId).imp ?_)
  intro left right earlier same
  have positions : left.position = right.position := congrArg (fun k => k.2.2) same
  omega

/-- The actions of a scene find their keys free where no action of it is left. -/
theorem SmartHome.addActions_of_none {h : SmartHome} {scene : Scene}
    (none : ∀ row ∈ (h.rowsOf ownerId).sceneActions, row.sceneId ≠ scene.sceneId) :
    ∃ h', h.addActions ownerId scene = some h' := by
  obtain ⟨sceneActions, inserted⟩ : ∃ sceneActions,
      h.sceneActions.insertAll? (scene.actionRows ownerId) = some sceneActions := by
    apply Table.insertAll?_of_fresh scene.actionRows_keys
    intro row member
    obtain ⟨sceneId, own⟩ := scene.mem_actionRows ownerId member
    cases found : h.sceneActions.get? (key row) with
    | none => rfl
    | some other =>
        have same : (other.ownerId, other.sceneId, other.position) =
            (row.ownerId, row.sceneId, row.position) := Table.key_of_get? found
        simp only [Prod.mk.injEq] at same
        refine absurd (same.2.1.trans sceneId) (none other ?_)
        exact List.mem_filter.mpr ⟨Table.mem_of_get? found, by simp [same.1, own]⟩
  simp only [SmartHome.addActions, inserted, Option.bind_eq_bind, Option.bind_some, Option.pure_def]
  exact ⟨_, rfl⟩

end Keys

section Statements

variable {ownerId : String} {h : SmartHome} {revision : Int}

theorem SmartHome.loaded_areaIds : ((h.loaded ownerId revision).areas.map Area.areaId).Perm
    ((h.areas.select (fun row => row.ownerId = ownerId)).map (fun row => row.areaId)) := by
  rw [SmartHome.loaded, List.map_map]
  exact ((orderBy_perm _ _).trans (orderBy_perm _ _)).map _

theorem SmartHome.loaded_deviceIds : ((h.loaded ownerId revision).devices.map Device.deviceId).Perm
    ((h.devices.select (fun row => row.ownerId = ownerId)).map (fun row => row.deviceId)) := by
  rw [SmartHome.loaded, List.map_map]
  exact (orderBy_perm _ _).map _

theorem SmartHome.loaded_sceneIds : ((h.loaded ownerId revision).scenes.map Scene.sceneId).Perm
    ((h.scenes.select (fun row => row.ownerId = ownerId)).map (fun row => row.sceneId)) := by
  rw [SmartHome.loaded, List.map_map]
  exact (orderBy_perm _ _).map _

theorem HomeEdit.writes_of_wellFormed {edit : HomeEdit} (stored : (h.rowsOf ownerId).Stored)
    (finds : edit.Finds (h.rowsOf ownerId))
    (wellFormed : (edit.document (h.loaded ownerId revision)).WellFormed) :
    ∃ h', edit.write ownerId h = some h' := by
  have found : ∀ {ρ : Type} [HasKey ρ (String × String)] {table : Table ρ}
      {owner column : ρ → String} (_ : ∀ row, key row = (owner row, column row)) {id : String},
      id ∈ (table.select (fun row => owner row = ownerId)).map column →
        ∃ row, table.get? (ownerId, id) = some row :=
    fun keyed _ member => (Table.mem_owned_iff keyed).mp member
  cases edit with
  | createArea area =>
      have free := free_of_appended (fun _ => rfl) wellFormed.areaIds SmartHome.loaded_areaIds
      exact exists_bind (insertAll?_single free) (fun _ => ⟨_, rfl⟩)
  | updateArea area =>
      obtain ⟨row, found⟩ := found (fun _ => rfl) finds
      exact ⟨_, by rw [write, found]; rfl⟩
  | deleteArea areaId =>
      obtain ⟨row, found⟩ := found (fun _ => rfl) finds
      exact ⟨_, by rw [write, found]; rfl⟩
  | createDevice device =>
      have free := free_of_appended (fun _ => rfl) wellFormed.deviceIds SmartHome.loaded_deviceIds
      exact exists_bind (insertAll?_single free) (fun _ => ⟨_, rfl⟩)
  | updateDevice device =>
      obtain ⟨row, found⟩ := found (fun _ => rfl) finds
      exact ⟨_, by rw [write, found]; rfl⟩
  | deleteDevice deviceId =>
      obtain ⟨row, found⟩ := found (fun _ => rfl) finds
      exact ⟨_, by rw [write, found]; rfl⟩
  | createScene scene =>
      have free := free_of_appended (fun _ => rfl) wellFormed.sceneIds SmartHome.loaded_sceneIds
      refine exists_bind (insertAll?_single free) (fun scenes => ?_)
      apply SmartHome.addActions_of_none
      intro action member same
      obtain ⟨old, oldMember, oldId⟩ := stored.actionScene action member
      have taken : scene.sceneId ∈ (h.rowsOf ownerId).scenes.map SmartHomeSceneRow.sceneId :=
        List.mem_map.mpr ⟨old, oldMember, oldId.trans same⟩
      obtain ⟨row, present⟩ := found (fun _ => rfl) taken
      rw [free] at present
      cases present
  | updateScene scene =>
      refine exists_bind (found (fun _ => rfl) finds) (fun _ => ?_)
      apply SmartHome.addActions_of_none
      rw [(SmartHome.withoutActions_rows _ scene.sceneId).own]
      intro action member
      simpa using List.of_mem_filter member
  | deleteScene sceneId =>
      obtain ⟨row, found⟩ := found (fun _ => rfl) finds
      exact ⟨_, by rw [write, found]; rfl⟩
  | setPlacement placement =>
      simp only [write]
      split
      · next free => exact exists_bind (insertAll?_single free) (fun _ => ⟨_, rfl⟩)
      · exact ⟨_, rfl⟩
  | clearPlacement deviceRef =>
      obtain ⟨row, found⟩ := found (fun _ => rfl) finds
      exact ⟨_, by rw [write, found]; rfl⟩

theorem numbered_keys {α ρ : Type} [HasKey ρ (String × String)] {items : List α} {id : α → String}
    {number : α × Nat → ρ} (keyed : ∀ item index, key (number (item, index)) = (ownerId, id item))
    (unique : (items.map id).Nodup) : ((items.zipIdx.map number).map key).Nodup := by
  have keys : (items.zipIdx.map number).map key = (items.map id).map (fun id => (ownerId, id)) := by
    conv => rhs; rw [← List.zipIdx_map_fst 0 items, List.map_map, List.map_map]
    rw [List.map_map]
    apply List.map_congr_left
    rintro ⟨item, index⟩ _
    exact keyed item index
  rw [keys]
  exact unique.map (fun left right same => (Prod.mk.inj same).2)

theorem numbered_free {α ρ : Type} [HasKey ρ (String × String)] {table : Table ρ}
    {owner column : ρ → String} (stored : ∀ row, key row = (owner row, column row))
    {items : List α} {id : α → String} {number : α × Nat → ρ}
    (keyed : ∀ item index, key (number (item, index)) = (ownerId, id item))
    (empty : table.select (fun row => owner row = ownerId) = []) :
    ∀ row ∈ items.zipIdx.map number, table.get? (key row) = none := by
  intro row member
  obtain ⟨⟨item, index⟩, _, rfl⟩ := List.mem_map.mp member
  rw [keyed]
  exact free_of_empty stored empty _

theorem Registry.populates_of_wellFormed {sample : Registry} (empty : (h.rowsOf ownerId).Empty)
    (wellFormed : sample.WellFormed) : ∃ h', h.populate? ownerId sample = some h' := by
  refine exists_bind ?_ (fun areas => exists_bind ?_ (fun devices => exists_bind ?_ (fun scenes =>
    exists_bind ?_ (fun actions => exists_bind ?_ (fun placements => ⟨_, rfl⟩)))))
  · exact Table.insertAll?_of_fresh (numbered_keys (fun _ _ => rfl) wellFormed.areaIds)
      (numbered_free (fun _ => rfl) (fun _ _ => rfl) empty.areas)
  · exact Table.insertAll?_of_fresh (numbered_keys (fun _ _ => rfl) wellFormed.deviceIds)
      (numbered_free (fun _ => rfl) (fun _ _ => rfl) empty.devices)
  · exact Table.insertAll?_of_fresh (numbered_keys (fun _ _ => rfl) wellFormed.sceneIds)
      (numbered_free (fun _ => rfl) (fun _ _ => rfl) empty.scenes)
  · apply Table.insertAll?_of_fresh
    · rw [List.map_flatMap, List.nodup_flatMap]
      refine ⟨fun scene _ => scene.actionRows_keys, ?_⟩
      refine (List.pairwise_map.mp wellFormed.sceneIds).imp ?_
      intro left right different k leftMember rightMember
      obtain ⟨one, oneMember, rfl⟩ := List.mem_map.mp leftMember
      obtain ⟨two, twoMember, same⟩ := List.mem_map.mp rightMember
      apply different
      rw [← (left.mem_actionRows ownerId oneMember).1, ← (right.mem_actionRows ownerId twoMember).1]
      exact (congrArg (fun k => k.2.1) same).symm
    · intro row member
      cases found : h.sceneActions.get? (key row) with
      | none => rfl
      | some other =>
          have same : (other.ownerId, other.sceneId, other.position) =
              (row.ownerId, row.sceneId, row.position) := Table.key_of_get? found
          have own : other.ownerId = ownerId :=
            (congrArg Prod.fst same).trans (owned_flatMap row member)
          have stored : other ∈ (h.rowsOf ownerId).sceneActions :=
            List.mem_filter.mpr ⟨Table.mem_of_get? found, by simp [own]⟩
          rw [empty.sceneActions] at stored
          cases stored
  · apply Table.insertAll?_of_fresh
    · rw [List.map_map]
      refine List.pairwise_map.mpr ((List.pairwise_map.mp wellFormed.placementRefs).imp ?_)
      intro left right different same
      exact different (Prod.mk.inj same).2
    · intro row member
      obtain ⟨placement, _, rfl⟩ := List.mem_map.mp member
      exact free_of_empty (fun _ => rfl) empty.placements _

end Statements

/-- No statement of the program is stopped by the database. -/
abbrev Unstopped {α : Type} (program : Session α) (t : Tables) : Prop :=
  program.Raises t (fun error => error ≠ .integrityError)

section Writers

variable {sdk : Sdk} {env : Env} {t : Tables} {ownerId : String} {expected : Int}

@[simp] theorem raises_writeRows (write : SmartHome → Option SmartHome) (post : Error → Prop) :
    (writeRows write).Raises t post ↔ (write t.home = none → post .integrityError) := by
  rw [writeRows, Tx.raises_attempt]
  cases written : write t.home with
  | none => simp
  | some home => simp

@[simp] theorem propose_unstopped (c : HomeChange) (document : Registry) :
    Unstopped (c.propose sdk document) t := by
  simp only [Unstopped, HomeChange.propose, Tx.raises_bind, Tx.raises_lift, Tx.ensures_lift,
    Tx.pure_eq, Tx.raises_done, implies_true, and_true]
  intro fault _
  unfold RegistryFault.error
  split
  · simp
  · simp
  · simp

theorem loadRegistry_unstopped (revision : Int) :
    Unstopped (loadRegistry sdk ownerId revision) t := by
  simp only [Unstopped, loadRegistry, Tx.raises_bind, Tx.ensures_read, Tx.raises_read, true_and]
  split
  · simp
  · simp [Tx.raises_bind]

theorem advanceRevision_unstopped : Unstopped (advanceRevision ownerId expected) t := by
  unfold advanceRevision
  split
  · simp only [Unstopped, openRegistry, Tx.raises_bind, Tx.raises_read, Tx.ensures_read, true_and]
    split
    · simp
    · simp only [Tx.raises_bind, Tx.raises_attempt, Tx.ensures_attempt, Tx.pure_eq, Tx.raises_done,
        implies_true, and_true]
      intro error refused
      split at refused
      · cases refused
        simp
      · cases refused
  · simp only [Unstopped, Tx.raises_bind, Tx.raises_attempt, Tx.ensures_attempt, Tx.pure_eq,
      Tx.raises_done, implies_true, and_true]
    intro error refused
    split at refused
    · cases refused
    · cases refused
      simp

theorem SmartHome.advance_stored (h : SmartHome) (stored : (h.rowsOf ownerId).Stored) :
    ((h.advance ownerId).rowsOf ownerId).Stored := by
  unfold SmartHome.advance
  split
  · exact { stored with }
  · exact { stored with }

theorem changeRegistry_unstopped {change target : String} {body : HomeChange → Session Registry}
    (stored : (t.home.rowsOf ownerId).Stored)
    (spec : ∀ (c : HomeChange) (t₁ : Tables), c.ownerId = ownerId →
      (t₁.home.rowsOf ownerId).Stored → c.current = t₁.home.loaded ownerId expected →
        Unstopped (body c) t₁) :
    Unstopped (changeRegistry sdk env ownerId expected change target body) t := by
  simp only [Unstopped, changeRegistry, Tx.raises_bind, Tx.raises_refuseIf, Tx.ensures_refuseIf,
    getOwner, Tx.raises_read, Tx.ensures_read, true_and]
  refine ⟨fun _ => by simp, fun _ => ⟨fun _ => by simp, fun _ => ?_⟩⟩
  refine ⟨advanceRevision_unstopped, ?_⟩
  refine (advanceRevision_effect t ownerId expected).mono ?_
  rintro _ t₁ ⟨rfl, -, rfl⟩
  refine ⟨loadRegistry_unstopped expected, ?_⟩
  refine (loadRegistry_effect sdk _ ownerId expected).mono ?_
  rintro _ t₂ ⟨rfl, rfl, -⟩
  refine ⟨spec _ _ rfl (t.home.advance_stored stored) rfl, ?_⟩
  intro proposed t₃ _
  simp [addFact, Tx.modify]

/-- The statements that follow an accepted proposal are carried out when they
are the ones of the edit. -/
theorem HomeEdit.proposal_stored (checks : sdk.ChecksRegistries) (edit : HomeEdit) {c : HomeChange}
    {write : Tables → Option SmartHome} (stored : (t.home.rowsOf ownerId).Stored)
    (current : c.current = t.home.loaded ownerId expected)
    (finds : edit.Finds (t.home.rowsOf ownerId))
    (writes : write t = edit.write ownerId t.home) :
    (c.propose sdk (edit.document c.current)).Ensures t (fun _ t' => ¬ write t' = none) := by
  refine (propose_effect sdk t c _).mono ?_
  rintro proposed _ ⟨rfl, rfl, accepted⟩
  have wellFormed := (checks _ accepted).labelled
  rw [current] at wellFormed
  obtain ⟨home, written⟩ := HomeEdit.writes_of_wellFormed stored finds wellFormed
  rw [writes, written]
  rintro ⟨⟩

theorem editHome_unstopped (checks : sdk.ChecksRegistries) (edit : HomeEdit)
    (stored : (t.home.rowsOf ownerId).Stored) :
    Unstopped (editHome sdk env ownerId edit expected) t := by
  cases edit with
  | createArea area =>
      unfold editHome createArea
      refine changeRegistry_unstopped stored ?_
      intro c t₁ own stored₁ current
      simp only [Tx.raises_bind, nextPosition, Tx.ensures_read, Tx.raises_read, raises_writeRows,
        propose_unstopped, Tx.pure_eq, Tx.raises_done, Tx.ensures_true, ne_eq, not_true_eq_false,
        imp_false, true_and, and_true]
      exact HomeEdit.proposal_stored checks (.createArea area) stored₁ current trivial rfl
  | updateArea area =>
      unfold editHome updateArea
      refine changeRegistry_unstopped stored ?_
      intro c t₁ own stored₁ current
      simp [Tx.raises_bind, getArea]
  | deleteArea areaId =>
      unfold editHome deleteArea
      refine changeRegistry_unstopped stored ?_
      intro c t₁ own stored₁ current
      simp [Tx.raises_bind, getArea]
  | createDevice device =>
      unfold editHome createDevice
      refine changeRegistry_unstopped stored ?_
      intro c t₁ own stored₁ current
      simp only [Tx.raises_bind, nextPosition, Tx.ensures_read, Tx.raises_read, raises_writeRows,
        propose_unstopped, Tx.pure_eq, Tx.raises_done, Tx.ensures_true, ne_eq, not_true_eq_false,
        imp_false, true_and, and_true]
      exact HomeEdit.proposal_stored checks (.createDevice device) stored₁ current trivial rfl
  | updateDevice device =>
      unfold editHome updateDevice
      refine changeRegistry_unstopped stored ?_
      intro c t₁ own stored₁ current
      simp [Tx.raises_bind, getDevice]
  | deleteDevice deviceId =>
      unfold editHome deleteDevice
      refine changeRegistry_unstopped stored ?_
      intro c t₁ own stored₁ current
      simp [Tx.raises_bind, getDevice]
  | createScene scene =>
      unfold editHome createScene
      refine changeRegistry_unstopped stored ?_
      intro c t₁ own stored₁ current
      simp only [Tx.raises_bind, nextPosition, Tx.ensures_read, Tx.raises_read, raises_writeRows,
        propose_unstopped, Tx.pure_eq, Tx.raises_done, Tx.ensures_true, ne_eq, not_true_eq_false,
        imp_false, true_and, and_true]
      exact HomeEdit.proposal_stored checks (.createScene scene) stored₁ current trivial rfl
  | updateScene scene =>
      unfold editHome updateScene
      refine changeRegistry_unstopped stored ?_
      intro c t₁ own stored₁ current
      simp only [Tx.raises_bind, getScene, Tx.ensures_read, Tx.raises_read, Tx.raises_require,
        Tx.ensures_require, raises_writeRows, propose_unstopped, Tx.pure_eq, Tx.raises_done,
        Tx.ensures_true, ne_eq, not_true_eq_false, imp_false, true_and, and_true]
      refine ⟨by simp, fun row found => ?_⟩
      exact HomeEdit.proposal_stored checks (.updateScene scene) stored₁ current
        ((Table.mem_owned_iff (fun _ => rfl)).mpr ⟨row, found⟩) (by rw [HomeEdit.write, found]; rfl)
  | deleteScene sceneId =>
      unfold editHome deleteScene
      refine changeRegistry_unstopped stored ?_
      intro c t₁ own stored₁ current
      simp [Tx.raises_bind, getScene]
  | setPlacement placement =>
      unfold editHome setPlacement
      refine changeRegistry_unstopped stored ?_
      intro c t₁ own stored₁ current
      simp only [Tx.raises_bind, getPlacement, Tx.ensures_read, Tx.raises_read, raises_writeRows,
        propose_unstopped, Tx.pure_eq, Tx.raises_done, Tx.ensures_true, ne_eq, not_true_eq_false,
        imp_false, true_and, and_true]
      exact HomeEdit.proposal_stored checks (.setPlacement placement) stored₁ current trivial rfl
  | clearPlacement deviceRef =>
      unfold editHome clearPlacement
      refine changeRegistry_unstopped stored ?_
      intro c t₁ own stored₁ current
      simp [Tx.raises_bind, getPlacement]

theorem populateSample_unstopped (checks : sdk.ChecksRegistries) {sample : Registry}
    {c : HomeChange} (own : c.ownerId = ownerId)
    (emptied : c.current.areas = [] → c.current.devices = [] → c.current.scenes = [] →
      c.current.placements = [] → (t.home.rowsOf ownerId).Empty) :
    Unstopped (populateSample sdk sample c) t := by
  simp only [populateSample, Tx.raises_bind, Tx.raises_refuseIf, Tx.ensures_refuseIf,
    raises_writeRows, propose_unstopped, Tx.pure_eq, Tx.raises_done, Tx.ensures_true, ne_eq,
    not_true_eq_false, imp_false, true_and, and_true, not_or, not_not]
  refine ⟨fun _ => by simp, ?_⟩
  rintro ⟨areas, devices, scenes, placements⟩
  refine (propose_effect sdk t c sample).mono ?_
  rintro proposed _ ⟨rfl, rfl, accepted⟩
  obtain ⟨home, populated⟩ := Registry.populates_of_wellFormed
    (emptied areas devices scenes placements) (checks _ accepted).labelled
  rw [own, populated]
  rintro ⟨⟩

theorem loadSample_unstopped (checks : sdk.ChecksRegistries) (name : String)
    (stored : (t.home.rowsOf ownerId).Stored) :
    Unstopped (loadSample sdk env ownerId name expected) t := by
  simp only [Unstopped, loadSample, Tx.raises_bind, Tx.raises_require, Tx.ensures_require]
  refine ⟨fun _ => by simp, fun sample _ => ?_⟩
  refine changeRegistry_unstopped stored ?_
  intro c t₁ own stored₁ current
  refine populateSample_unstopped checks own ?_
  rw [current]
  exact SmartHome.empty_of_loaded stored₁

theorem HomeWrite.session_unstopped (checks : sdk.ChecksRegistries) (write : HomeWrite)
    (stored : (t.home.rowsOf ownerId).Stored) : Unstopped (write.session sdk env ownerId) t := by
  cases write with
  | edit change expected => exact editHome_unstopped checks change stored
  | loadSample name expected => exact loadSample_unstopped checks name stored
  | initializeDefault => exact loadSample_unstopped checks "apartment" stored

theorem initializeOwnerHome_unstopped (checks : sdk.ChecksRegistries) (traceId : String)
    (empty : (t.home.rowsOf ownerId).Empty) :
    Unstopped (initializeOwnerHome sdk env ownerId traceId) t := by
  have opened : ((t.home.advance ownerId).rowsOf ownerId).Empty := by
    unfold SmartHome.advance
    split
    · exact { empty with }
    · exact { empty with }
  simp only [Unstopped, initializeOwnerHome, Tx.raises_bind]
  refine ⟨advanceRevision_unstopped, ?_⟩
  refine (advanceRevision_effect t ownerId 0).mono ?_
  rintro _ t₁ ⟨rfl, -, rfl⟩
  refine ⟨populateSample_unstopped checks rfl (fun _ _ _ _ => opened), ?_⟩
  simp [addFact, Tx.modify]

end Writers

section Statements

/-- Every one of some statements leaves rows that meet a condition. -/
def HomeRows.Along (holds : HomeRows → Prop) : List (HomeRows → HomeRows) → HomeRows → Prop
  | [], _ => True
  | statement :: rest, rows => holds (statement rows) ∧ Along holds rest (statement rows)

def HomeRows.afterAll (statements : List (HomeRows → HomeRows)) (rows : HomeRows) : HomeRows :=
  statements.foldl (fun rows statement => statement rows) rows

/-- The statements of a command, one at a time: the rows of a scene and those
of its actions are flushed apart. -/
def HomeEdit.statements (ownerId : String) : HomeEdit → List (HomeRows → HomeRows)
  | createScene scene =>
      [fun rows => { rows with scenes := rows.scenes ++
          [scene.row ownerId (nextAfter (rows.scenes.map (fun row => row.position)))] },
        fun rows => { rows with sceneActions := rows.sceneActions ++ scene.actionRows ownerId }]
  | updateScene scene =>
      [fun rows => { rows with scenes := rows.scenes.map (fun row =>
          if row.sceneId = scene.sceneId then row.assign scene else row) },
        fun rows => { rows with sceneActions :=
          rows.sceneActions.filter (fun row => row.sceneId ≠ scene.sceneId) },
        fun rows => { rows with sceneActions := rows.sceneActions ++ scene.actionRows ownerId }]
  | deleteScene sceneId =>
      [fun rows => { rows with sceneActions :=
          rows.sceneActions.filter (fun row => row.sceneId ≠ sceneId) },
        fun rows => { rows with scenes := rows.scenes.filter (fun row => row.sceneId ≠ sceneId) }]
  | edit => [fun rows => edit.rows ownerId rows]

/-- `_populate_sample`: areas before devices, scenes before their actions. -/
def Registry.statements (ownerId : String) (sample : Registry) : List (HomeRows → HomeRows) :=
  [fun rows => { rows with
      areas := rows.areas ++ sample.areas.zipIdx.map (fun (area, index) =>
        area.row ownerId index) },
    fun rows => { rows with
      devices := rows.devices ++
        sample.devices.zipIdx.map (fun (device, index) => device.row ownerId index) },
    fun rows => { rows with
      scenes := rows.scenes ++
        sample.scenes.zipIdx.map (fun (scene, index) => scene.row ownerId index) },
    fun rows => { rows with
      sceneActions := rows.sceneActions ++
        sample.scenes.flatMap (fun scene => scene.actionRows ownerId) },
    fun rows => { rows with
      placements := rows.placements ++
        sample.placements.map (fun placement => placement.row ownerId) }]

variable {ownerId : String} {rows : HomeRows}

theorem HomeEdit.afterAll_statements (edit : HomeEdit) :
    rows.afterAll (edit.statements ownerId) = edit.rows ownerId rows := by
  cases edit with
  | _ => rfl

theorem Registry.afterAll_statements (sample : Registry) :
    rows.afterAll (sample.statements ownerId) = sample.addRows ownerId rows := rfl

theorem HomeEdit.statements_valid {known : Bool} (edit : HomeEdit) (some : known = true)
    (before : rows.Valid known) (after : (edit.rows ownerId rows).Valid known) :
    rows.Along (HomeRows.Valid known) (edit.statements ownerId) := by
  have unknown : ∀ {rows : HomeRows}, known = false → rows = {} := by
    intro rows absent
    rw [some] at absent
    cases absent
  cases edit with
  | createScene scene =>
      refine ⟨{ before with unknown := unknown, actionScene := ?_ }, after, trivial⟩
      intro action member
      rw [List.map_append]
      exact List.mem_append_left _ (before.actionScene action member)
  | updateScene scene =>
      have staged : HomeRows.Valid known { rows with scenes := rows.scenes.map (fun row =>
          if row.sceneId = scene.sceneId then row.assign scene else row) } := by
        refine { before with unknown := unknown, actionScene := ?_ }
        intro action member
        obtain ⟨old, oldMember, same⟩ := List.mem_map.mp (before.actionScene action member)
        rw [List.map_map]
        refine List.mem_map.mpr ⟨old, oldMember, ?_⟩
        rw [Function.comp_apply]
        split
        · exact same
        · exact same
      refine ⟨staged, { staged with
        unknown := unknown
        actionScene := fun action member =>
          staged.actionScene action (List.mem_of_mem_filter member)
        actionDevice := fun action member =>
          staged.actionDevice action (List.mem_of_mem_filter member) }, after, trivial⟩
  | deleteScene sceneId =>
      refine ⟨{ before with
        unknown := unknown
        actionScene := fun action member =>
          before.actionScene action (List.mem_of_mem_filter member)
        actionDevice := fun action member =>
          before.actionDevice action (List.mem_of_mem_filter member) }, after, trivial⟩
  | createArea | updateArea | deleteArea | createDevice | updateDevice | deleteDevice
  | setPlacement | clearPlacement => exact ⟨after, trivial⟩

theorem Registry.statements_valid {known : Bool} (sample : Registry) (some : known = true)
    (empty : rows.Empty) (before : rows.Valid known)
    (after : (sample.addRows ownerId rows).Valid known) :
    rows.Along (HomeRows.Valid known) (sample.statements ownerId) := by
  have unknown : ∀ {rows : HomeRows}, known = false → rows = {} := by
    intro rows absent
    rw [some] at absent
    cases absent
  have none : ∀ {α : Type} {items : List α} {holds : α → Prop}, items = [] →
      ∀ item ∈ items, holds item := by
    rintro _ _ _ rfl _ ⟨⟩
  refine ⟨{ before with
      unknown := unknown
      areaNames := after.areaNames
      deviceArea := none empty.devices
      placementArea := none empty.placements }, { before with
      unknown := unknown
      areaNames := after.areaNames
      deviceArea := after.deviceArea
      actionDevice := none empty.sceneActions
      placementArea := none empty.placements }, { before with
      unknown := unknown
      areaNames := after.areaNames
      deviceArea := after.deviceArea
      actionScene := none empty.sceneActions
      actionDevice := none empty.sceneActions
      placementArea := none empty.placements }, { after with
      unknown := unknown
      placementArea := none empty.placements }, after, trivial⟩

end Statements

section Writes

variable {sdk : Sdk} {env : Env} {t : Tables} {ownerId : String} {write : HomeWrite}
  {proposed : Registry} {t' : Tables}

def HomeWrite.statements (sdk : Sdk) (ownerId : String) (write : HomeWrite) :
    List (HomeRows → HomeRows) :=
  (fun rows => { rows with
      registry := some { ownerId := ownerId, revision := write.expectedRevision + 1 } }) ::
    match write with
    | .edit change _ => change.statements ownerId
    | .loadSample name _ => (sdk.sample? name).elim [] (Registry.statements ownerId)
    | .initializeDefault => sdk.apartmentSample.statements ownerId

theorem HomeWrite.statements_sample {name : String} {sample : Registry}
    (named : write.sampleName? = some name) (known : sdk.sample? name = some sample) :
    write.statements sdk ownerId =
      (fun rows => { rows with
        registry := some { ownerId := ownerId, revision := write.expectedRevision + 1 } }) ::
        sample.statements ownerId := by
  cases write with
  | edit => cases named
  | loadSample other expected =>
      cases named
      rw [statements, known]
      rfl
  | initializeDefault =>
      cases named
      cases known
      rfl

theorem HomeWritten.afterAll (made : HomeWritten sdk env ownerId t write proposed t') :
    (t.home.rowsOf ownerId).afterAll (write.statements sdk ownerId) = t'.home.rowsOf ownerId := by
  cases made with
  | @edited edit expected change target proposed t' written =>
      rw [written.rows.own]
      exact edit.afterAll_statements
  | @loaded write name sample proposed t' named known written =>
      rw [written.rows.own, HomeWrite.statements_sample named known]
      exact sample.afterAll_statements

/-- An Owner who has a registry, or may open one, is stored. -/
theorem HomeWritten.known (made : HomeWritten sdk env ownerId t write proposed t')
    (before : t.home.Integrity t.workspace) : t.workspace.owners.has ownerId = true := by
  obtain ⟨change, target, edit, written⟩ := made.registry
  by_cases first : write.expectedRevision = 0
  · exact written.owner first
  · have current := written.current
    rw [Expects, if_neg first] at current
    obtain ⟨row, registry, _⟩ := Option.map_eq_some_iff.mp current
    exact (before.opened registry).1

theorem HomeWritten.workspace (made : HomeWritten sdk env ownerId t write proposed t') :
    t'.workspace = t.workspace := by
  obtain ⟨change, target, edit, written⟩ := made.registry
  obtain ⟨home, same⟩ := written.rest
  rw [same]
  rfl

theorem HomeWritten.integrity (made : HomeWritten sdk env ownerId t write proposed t')
    (contract : sdk.RegistryContract) (checks : sdk.ChecksRegistries)
    (before : t.home.Integrity t.workspace) (sound : t.home.Sound sdk) :
    t'.home.Integrity t'.workspace := by
  have stored' := made.stored (before.stored ownerId)
  have sound' := (made.sound contract before sound).1
  have opened := made.opened
  have known := made.known before
  obtain ⟨change, target, edit, written⟩ := made.registry
  rw [made.workspace]
  apply SmartHome.integrity_iff_valid.mpr
  intro other
  by_cases own : other = ownerId
  · subst own
    refine (sound' other).valid checks stored' ?_ (fun unknown => ?_)
    · intro row registry
      rw [opened] at registry
      cases registry
      have nonnegative := written.nonnegative
      show 0 < write.expectedRevision + 1
      omega
    · rw [known] at unknown
      cases unknown
  · rw [written.rows.others other own]
    exact before.valid other

theorem HomeWritten.statements_valid (made : HomeWritten sdk env ownerId t write proposed t')
    (contract : sdk.RegistryContract) (checks : sdk.ChecksRegistries)
    (before : t.home.Integrity t.workspace) (sound : t.home.Sound sdk) :
    (t.home.rowsOf ownerId).Along (HomeRows.Valid (t.workspace.owners.has ownerId))
      (write.statements sdk ownerId) := by
  have known := made.known before
  have valid := before.valid ownerId
  have valid' := (made.integrity contract checks before sound).valid ownerId
  rw [made.workspace] at valid'
  have opened : HomeRows.Valid (t.workspace.owners.has ownerId) { t.home.rowsOf ownerId with
      registry := some { ownerId := ownerId, revision := write.expectedRevision + 1 } } := by
    obtain ⟨change, target, edit, written⟩ := made.registry
    have nonnegative := written.nonnegative
    refine { valid with unknown := fun absent => ?_, revision := ?_ }
    · rw [known] at absent
      cases absent
    · rintro row ⟨⟩
      show 0 < write.expectedRevision + 1
      omega
  cases made with
  | @edited edit expected change target proposed t' written =>
      rw [written.rows.own] at valid'
      exact ⟨opened, edit.statements_valid known opened valid'⟩
  | @loaded write name sample proposed t' named sampled written loads =>
      rw [written.rows.own] at valid'
      rw [HomeWrite.statements_sample named sampled]
      have empty := SmartHome.empty_of_loaded (before.stored ownerId) loads.areas loads.devices
        loads.scenes loads.placements
      exact ⟨opened, sample.statements_valid known { empty with } opened valid'⟩

/-- The onboarding stores the packaged sample without breaking a constraint. -/
theorem HomeInitialized.integrity {traceId : String}
    (made : HomeInitialized sdk env ownerId traceId t t') (contract : sdk.RegistryContract)
    (checks : sdk.ChecksRegistries) (before : t.home.Integrity t.workspace)
    (known : t.workspace.owners.has ownerId = true) (none : t.home.rowsOf ownerId = {})
    (sound : t.home.Sound sdk) : t'.home.Integrity t'.workspace ∧
      (t.home.rowsOf ownerId).Along (HomeRows.Valid (t.workspace.owners.has ownerId))
        (HomeWrite.initializeDefault.statements sdk ownerId) := by
  obtain ⟨sound', stored'⟩ := sound.initialized contract none made.accepted made.rows
  have unknown : ∀ {rows : HomeRows}, t.workspace.owners.has ownerId = false → rows = {} := by
    intro rows absent
    rw [known] at absent
    cases absent
  obtain ⟨home, same⟩ := made.rest
  have workspace : t'.workspace = t.workspace := by
    rw [same]
    rfl
  have valid' : (t'.home.rowsOf ownerId).Valid (t.workspace.owners.has ownerId) := by
    refine (sound' ownerId).valid checks stored' ?_ unknown
    intro row registry
    rw [made.rows.own] at registry
    cases registry
    exact Int.one_pos
  constructor
  · rw [workspace]
    apply SmartHome.integrity_iff_valid.mpr
    intro other
    by_cases own : other = ownerId
    · rw [own]
      exact valid'
    · rw [made.rows.others other own]
      exact before.valid other
  · have opened : HomeRows.Valid (t.workspace.owners.has ownerId) { t.home.rowsOf ownerId with
        registry := some { ownerId := ownerId, revision := 1 } } := by
      refine { before.valid ownerId with unknown := unknown, revision := ?_ }
      rintro row ⟨⟩
      exact Int.one_pos
    have empty : (t.home.rowsOf ownerId).Empty := by
      rw [none]
      exact ⟨rfl, rfl, rfl, rfl, rfl⟩
    rw [made.rows.own] at valid'
    exact ⟨opened, sdk.apartmentSample.statements_valid known { empty with } opened valid'⟩

end Writes

end EidolonData
