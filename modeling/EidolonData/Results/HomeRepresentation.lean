import EidolonData.Results.HomeRefinement
import EidolonData.Invariants.Proposals

/-!
# The registry rows stand for an accepted registry
-/

namespace EidolonData

open Relational

/-- No two rows of a table have one position; actions are numbered in their scene. -/
structure HomeRows.Placed (rows : HomeRows) : Prop where
  areas : (rows.areas.map (fun row => row.position)).Nodup
  devices : (rows.devices.map (fun row => row.position)).Nodup
  scenes : (rows.scenes.map (fun row => row.position)).Nodup
  actions : ∀ sceneId, ((rows.sceneActions.filter (fun row => row.sceneId = sceneId)).map
    (fun row => row.position)).Nodup

theorem HomeRows.Ordered.placed {rows : HomeRows} (ordered : rows.Ordered) : rows.Placed := by
  have distinct : ∀ {ρ : Type} {place : ρ → Int} {rows : List ρ},
      rows.Pairwise (fun left right => place left < place right) → (rows.map place).Nodup :=
    fun ascending => List.pairwise_map.mpr (ascending.imp (fun earlier => ne_of_lt earlier))
  exact
    { areas := distinct ordered.areas
      devices := distinct ordered.devices
      scenes := distinct ordered.scenes
      actions := fun sceneId => distinct (ordered.actions sceneId) }

/-- The rows of every Owner load to an accepted registry, hang on the Owner's
revision and keep their positions apart; and no writer is stopped by a
constraint, neither when a statement is carried out nor at the end. -/
theorem smarthome_rows_represent_registry (sdk : Sdk) (contract : sdk.RegistryContract)
    (checks : sdk.ChecksRegistries) (calls : List Call) :
    let db := replay sdk calls .empty
    (∀ ownerId, (∃ registry, db.transact (getRegistry sdk ownerId) = .ok (registry, db) ∧
        sdk.validateRegistry registry = .ok ()) ∧
      ((db.tables.home.rowsOf ownerId).registry = none → (db.tables.home.rowsOf ownerId).Empty) ∧
      (db.tables.home.rowsOf ownerId).Placed) ∧
    (∀ env ownerId write,
      (HomeWrite.session sdk env ownerId write).run db.tables ≠ .error .integrityError ∧
      ∀ proposed t', (HomeWrite.session sdk env ownerId write).run db.tables =
          .ok (proposed, t') →
        t'.home.Integrity t'.workspace ∧
        (db.tables.home.rowsOf ownerId).afterAll (write.statements sdk ownerId) =
          t'.home.rowsOf ownerId ∧
        (db.tables.home.rowsOf ownerId).Along
          (HomeRows.Valid (db.tables.workspace.owners.has ownerId))
          (write.statements sdk ownerId)) ∧
    (∀ env ownerId traceId (owner : OwnerRow), owner.ownerId = ownerId →
      db.tables.workspace.owners.get? ownerId = none →
      let t := db.tables.mapWorkspace (fun w => { w with owners := w.owners.insert owner })
      (initializeOwnerHome sdk env ownerId traceId).run t ≠ .error .integrityError ∧
      ∀ t', (initializeOwnerHome sdk env ownerId traceId).run t = .ok ((), t') →
        t'.home.Integrity t'.workspace ∧
        (t.home.rowsOf ownerId).Along (HomeRows.Valid (t.workspace.owners.has ownerId))
          (HomeWrite.initializeDefault.statements sdk ownerId)) := by
  intro db
  have sound : db.tables.home.Sound sdk := homes_sound contract calls
  have integrity := db.property.home
  refine ⟨?_, ?_, ?_⟩
  · intro ownerId
    refine ⟨⟨_, Database.reads_homeOf sound ownerId, (sound ownerId).accepted⟩,
      (sound ownerId).unwritten, (sound ownerId).ordered.placed⟩
  · intro env ownerId write
    constructor
    · intro stopped
      exact write.session_unstopped checks (integrity.stored ownerId) _ stopped rfl
    · intro proposed t' ran
      have made := (write.session_onward sdk env ownerId).runs db.tables proposed t' ran
      exact ⟨made.integrity contract checks integrity sound, made.afterAll,
        made.statements_valid contract checks integrity sound⟩
  · rintro env ownerId traceId owner rfl fresh t
    have none : t.home.rowsOf owner.ownerId = {} :=
      integrity.rowsOf_unknown (Table.has_eq_false_iff.mpr fresh)
    have empty : (t.home.rowsOf owner.ownerId).Empty := by
      rw [none]
      exact ⟨rfl, rfl, rfl, rfl, rfl⟩
    have stores : Table.Stores db.tables.workspace.owners t.workspace.owners owner :=
      Table.stores_insert fresh
    have before : t.home.Integrity t.workspace := by
      apply SmartHome.integrity_iff_valid.mpr
      intro other
      by_cases own : other = owner.ownerId
      · rw [own, none]
        exact HomeRows.valid_empty _
      · have same : t.workspace.owners.has other = db.tables.workspace.owners.has other :=
          congrArg Option.isSome (stores.other own)
        rw [same]
        exact integrity.valid other
    constructor
    · intro stopped
      exact initializeOwnerHome_unstopped checks traceId empty _ stopped rfl
    · intro t' ran
      have made := initializeOwnerHome_effect sdk env t owner.ownerId traceId () t' ran
      exact made.integrity contract checks before
        (Table.has_iff.mpr ⟨owner, stores.self⟩) none sound

/-- Two scenes of one Owner with one action each. -/
def secondSceneCommands : List Command :=
  firstHomeCommands ++
    [.writeHome "owner" (.edit (.createScene
      { sceneId := "morning", name := "Morning"
        actions := [{ deviceId := "lamp", trait := "on_off", command := "off" }] }) 3)]

/-- The positions of actions are not distinct among all actions of an Owner. -/
theorem action_positions_repeat : ¬ ∀ (sdk : Sdk), sdk.RegistryContract → sdk.ChecksRegistries →
    ∀ (calls : List Call) (ownerId : String),
      (((replay sdk calls .empty).tables.home.rowsOf ownerId).sceneActions.map
        (fun row => row.position)).Nodup := by
  intro distinct
  have repeated : ¬ (((replay .checking (numbered secondSceneCommands)
      .empty).tables.home.rowsOf "owner").sceneActions.map (fun row => row.position)).Nodup := by
    decide +kernel
  exact repeated (distinct .checking Sdk.checking_contract Sdk.checking_checks
    (numbered secondSceneCommands) "owner")

theorem smarthome_rows_represent_registry_room :
    let rows := firstHome.tables.home.rowsOf "owner"
    rows.areas.length = 1 ∧ rows.Placed ∧
      (HomeWrite.session .checking fifthEnv "owner" (.edit secondRoom 3)).run firstHome.tables ≠
        .error .integrityError := by
  obtain ⟨reads, writes, -⟩ := smarthome_rows_represent_registry .checking Sdk.checking_contract
    Sdk.checking_checks (numbered firstHomeCommands)
  exact ⟨by decide +kernel, (reads "owner").2.2, (writes fifthEnv "owner" (.edit secondRoom 3)).1⟩

end EidolonData
