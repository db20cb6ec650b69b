import EidolonData.Results.HomeRefinement
import EidolonData.Results.HomeCompareAndSet
import EidolonData.Library.Reads

/-!
# Reads of a registry between its writes
-/

namespace EidolonData

open Relational System

variable {ι : Type} [DecidableEq ι]

def homeClients (sdk : Sdk) (env : ι → Env) (ownerId : String) (writes : ι → HomeWrite) :
    Option ι → Session Registry
  | none => getRegistry sdk ownerId
  | some client => (writes client).session sdk (env client) ownerId

def playHome (sdk : Sdk) (env : ι → Env) (ownerId : String) (writes : ι → HomeWrite)
    (db : Database) (schedule : List (Turn (Option ι))) :
    System Tables.Integrity Error Registry (Option ι) :=
  System.play .integrityError schedule (System.start (homeClients sdk env ownerId writes) db)

/-- What was committed at each turn of the reader. -/
def seenAt (sdk : Sdk) (env : ι → Env) (ownerId : String) (writes : ι → HomeWrite)
    (db : Database) (schedule : List (Turn (Option ι))) : List Tables :=
  System.committedAt .integrityError none schedule
    (System.start (homeClients sdk env ownerId writes) db)

/-- The queries of a read, after the one of the revision, were answered as on
this one home. -/
structure SmartHome.ShownBy (ownerId : String) (states : List Tables) (home : SmartHome) :
    Prop where
  areas : ∀ t, states[1]? = some t → t.home.selectAreas ownerId = home.selectAreas ownerId
  devices : ∀ t, states[2]? = some t → t.home.selectDevices ownerId = home.selectDevices ownerId
  scenes : ∀ t, states[3]? = some t → t.home.selectScenes ownerId = home.selectScenes ownerId
  actions : ∀ t, states[4]? = some t → t.home.selectActions ownerId = home.selectActions ownerId
  placements : ∀ t, states[5]? = some t →
    t.home.selectPlacements ownerId = home.selectPlacements ownerId

instance (ownerId : String) (states : List Tables) (home : SmartHome) :
    Decidable (home.ShownBy ownerId states) :=
  decidable_of_iff
    ((∀ t ∈ states[1]?, t.home.selectAreas ownerId = home.selectAreas ownerId) ∧
      (∀ t ∈ states[2]?, t.home.selectDevices ownerId = home.selectDevices ownerId) ∧
      (∀ t ∈ states[3]?, t.home.selectScenes ownerId = home.selectScenes ownerId) ∧
      (∀ t ∈ states[4]?, t.home.selectActions ownerId = home.selectActions ownerId) ∧
      ∀ t ∈ states[5]?, t.home.selectPlacements ownerId = home.selectPlacements ownerId)
    ⟨fun ⟨areas, devices, scenes, actions, placements⟩ =>
        ⟨areas, devices, scenes, actions, placements⟩,
      fun ⟨areas, devices, scenes, actions, placements⟩ =>
        ⟨areas, devices, scenes, actions, placements⟩⟩

/-- The label of a registry is no matter of its validity. -/
def Sdk.IgnoresLabels (sdk : Sdk) : Prop :=
  ∀ (registry : Registry) (revision : Int), 0 ≤ revision →
    sdk.validateRegistry registry = .ok () →
      sdk.validateRegistry { registry with revision := revision } = .ok ()

theorem loadRegistry_readOnly (sdk : Sdk) (ownerId : String) (revision : Int) :
    (loadRegistry sdk ownerId revision).ReadOnly := by
  simp only [loadRegistry, Tx.readOnly_read_bind]
  intro areas devices scenes actions
  split
  · trivial
  · simp only [Tx.readOnly_read_bind, Tx.readOnly_lift_bind, Tx.pure_eq, Tx.readOnly_done,
      implies_true]

theorem getRegistry_readOnly (sdk : Sdk) (ownerId : String) :
    (getRegistry sdk ownerId).ReadOnly := by
  simp only [getRegistry, Tx.readOnly_read_bind]
  exact fun revision => loadRegistry_readOnly sdk ownerId _

/-- The queries of a read that are answered as on one sound home give its
registry, under the label that was read first. -/
theorem getRegistry_over {sdk : Sdk} {ownerId : String} {states : List Tables} {home : SmartHome}
    {outcome : Except Error Registry} (labels : sdk.IgnoresLabels)
    (sound : (home.rowsOf ownerId).Sound sdk) (stored : (home.rowsOf ownerId).Stored)
    (positive : ∀ t ∈ states, 0 ≤ t.home.revisionOf ownerId)
    (shown : home.ShownBy ownerId states)
    (ended : (getRegistry sdk ownerId).answeredBy states = some outcome) :
    ∃ registry, outcome = .ok registry ∧ sdk.validateRegistry registry = .ok () := by
  cases states with
  | nil => cases ended
  | cons first states =>
  have nonnegative : 0 ≤ first.home.revisionOf ownerId := positive first List.mem_cons_self
  have accepted : sdk.validateRegistry (home.loaded ownerId (first.home.revisionOf ownerId)) =
      .ok () := by
    rw [SmartHome.loaded_eq sound.ordered]
    exact labels _ _ nonnegative sound.accepted
  obtain _ | ⟨areas, _ | ⟨devices, _ | ⟨scenes, _ | ⟨actions, rest⟩⟩⟩⟩ := states
  · cases ended
  · cases ended
  · cases ended
  · cases ended
  · simp only [getRegistry, loadRegistry, Tx.answeredBy_read_bind, shown.areas areas rfl,
      shown.devices devices rfl, shown.scenes scenes rfl, shown.actions actions rfl,
      SmartHome.loads_actions stored] at ended
    cases rest with
    | nil => cases ended
    | cons placements rest =>
        simp only [Tx.answeredBy_read_bind, shown.placements placements rfl] at ended
        change (Tx.lift _ (sdk.validateRegistry
          (home.loaded ownerId (first.home.revisionOf ownerId))) >>= _).answeredBy rest = _ at ended
        rw [accepted] at ended
        cases ended
        exact ⟨_, rfl, accepted⟩

theorem getRegistry_label {sdk : Sdk} {ownerId : String} {first : Tables} {states : List Tables}
    {registry : Registry}
    (ended : (getRegistry sdk ownerId).answeredBy (first :: states) = some (.ok registry)) :
    registry.revision = first.home.revisionOf ownerId := by
  simp only [getRegistry, loadRegistry, Tx.answeredBy_read_bind] at ended
  obtain _ | ⟨areas, _ | ⟨devices, _ | ⟨scenes, _ | ⟨actions, rest⟩⟩⟩⟩ := states
  · cases ended
  · cases ended
  · cases ended
  · cases ended
  · simp only [Tx.answeredBy_read_bind] at ended
    split at ended
    · cases ended
    · cases rest with
      | nil => cases ended
      | cons placements rest =>
          simp only [Tx.answeredBy_read_bind] at ended
          generalize sdk.validateRegistry _ = verdict at ended
          cases verdict with
          | error fault => cases ended
          | ok accepted =>
              cases ended
              rfl

section Schedules

variable {sdk : Sdk} {env : ι → Env} {ownerId : String} {writes : ι → HomeWrite} {db : Database}

def HomeDone (sdk : Sdk) (env : ι → Env) (ownerId : String) (writes : ι → HomeWrite) :
    Option ι → Tables → Registry → Tables → Prop
  | none => fun t _ t' => t' = t
  | some client => fun t reply t' => HomeWritten sdk (env client) ownerId t (writes client) reply t'

variable (sdk env ownerId writes db) in
theorem playHome_guided (schedule : List (Turn (Option ι))) :
    System.Guided (HomeDone sdk env ownerId writes) db
      (playHome sdk env ownerId writes db schedule) := by
  have onward : ∀ client, (homeClients sdk env ownerId writes client).Onward
      (HomeDone sdk env ownerId writes client) := by
    intro client
    cases client with
    | none => exact (getRegistry_readOnly sdk ownerId).onward
    | some client => exact (writes client).session_onward sdk (env client) ownerId
  exact ((System.guided_start onward db).play schedule).1

theorem playHome_sound (contract : sdk.RegistryContract) (sound : db.tables.home.Sound sdk)
    (schedule : List (Turn (Option ι))) :
    (playHome sdk env ownerId writes db schedule).committed.val.home.Sound sdk := by
  obtain ⟨order, -, -, follows⟩ :=
    (playHome_guided sdk env ownerId writes db schedule).followed.order
  apply follows.preserves (fun state => state.val.home.Sound sdk) sound
  intro client before after reply held made
  cases client with
  | none =>
      have same : after.val = before.val := made
      rw [same]
      exact held
  | some client => exact (HomeWritten.sound made contract before.property.home held).1

theorem seenAt_ascending (schedule : List (Turn (Option ι))) :
    (∀ t ∈ seenAt sdk env ownerId writes db schedule,
        db.tables.home.revisionOf ownerId ≤ t.home.revisionOf ownerId) ∧
      (seenAt sdk env ownerId writes db schedule).Pairwise
        (fun t t' => t.home.revisionOf ownerId ≤ t'.home.revisionOf ownerId) := by
  have guided := playHome_guided sdk env ownerId writes db []
  refine System.committedAt_ascending (fun t => t.home.revisionOf ownerId) ?_ schedule guided
  intro system next guided
  refine ⟨guided.turn next, ?_⟩
  rcases guided.turn_cases .integrityError next with same | ⟨client, reply, rfl, -, made⟩
  · rw [same]
  · cases client with
    | none =>
        have same : (System.turn .integrityError system (.step none)).committed.val =
            system.committed.val := made
        rw [same]
    | some client =>
        obtain ⟨old, new⟩ := (HomeWritten.comparedAndSet made).revision
        rw [old, new]
        exact le_of_lt (Int.lt_succ _)

theorem revisionOf_nonneg (db : Database) (ownerId : String) :
    0 ≤ db.tables.home.revisionOf ownerId := by
  rw [SmartHome.revisionOf, HomeRows.revision?]
  cases stored : (db.tables.home.rowsOf ownerId).registry with
  | none => exact le_refl _
  | some row => exact le_of_lt (db.property.home.opened stored).2

/-- A read that races writes is never labelled with a revision newer than what
it was read from; and as long as one committed home shows it all its queries
were answered, it ends with an accepted registry. -/
theorem registry_read_consistent (sdk : Sdk) (contract : sdk.RegistryContract)
    (labels : sdk.IgnoresLabels) (calls : List Call) (env : ι → Env) (ownerId : String)
    (writes : ι → HomeWrite) (schedule : List (Turn (Option ι))) :
    let db := replay sdk calls .empty
    let system := playHome sdk env ownerId writes db schedule
    let states := seenAt sdk env ownerId writes db schedule
    (∀ registry, system.outcome? none = some (.ok registry) →
      ∀ t ∈ states, registry.revision ≤ t.home.revisionOf ownerId) ∧
    ((∃ before after, schedule = before ++ after ∧
        (playHome sdk env ownerId writes db before).committed.val.home.ShownBy ownerId states) →
      ∀ outcome, system.outcome? none = some outcome →
        ∃ registry, outcome = .ok registry ∧ sdk.validateRegistry registry = .ok ()) := by
  intro db system states
  have answered : ∀ outcome, system.outcome? none = some outcome →
      (getRegistry sdk ownerId).answeredBy states = some outcome :=
    fun outcome ended => System.answeredBy_of_outcome? (getRegistry_readOnly sdk ownerId)
      schedule rfl ended
  have ascending : states.Pairwise
      (fun t t' => t.home.revisionOf ownerId ≤ t'.home.revisionOf ownerId) :=
    (seenAt_ascending schedule).2
  constructor
  · intro registry ended
    have read := answered _ ended
    cases seen : states with
    | nil =>
        rw [seen] at read
        cases read
    | cons first rest =>
        rw [seen] at read ascending
        rw [getRegistry_label read]
        intro t member
        rcases List.mem_cons.mp member with rfl | later
        · exact le_refl _
        · exact (List.pairwise_cons.mp ascending).1 t later
  · rintro ⟨before, after, -, shown⟩ outcome ended
    refine getRegistry_over labels (playHome_sound contract (homes_sound contract calls) before
      ownerId) ?_ ?_ shown (answered outcome ended)
    · exact (playHome sdk env ownerId writes db before).committed.property.home.stored ownerId
    · intro t member
      exact le_trans (revisionOf_nonneg db ownerId) ((seenAt_ascending schedule).1 t member)

end Schedules

theorem Sdk.checking_ignoresLabels : checking.IgnoresLabels := by
  intro registry revision _ accepted
  obtain ⟨wellFormed, sourced⟩ := checkRegistry_ok_iff.mp accepted
  exact checkRegistry_ok_iff.mpr ⟨wellFormed.agrees ⟨.refl _, rfl, rfl, .refl _⟩, sourced⟩

/-- Another device, by a writer that commits while the home is read. -/
def secondDevice : HomeEdit :=
  .createDevice { deviceId := "fan", name := "Fan", type := "fan", areaId := some "room" }

/-- The reader has its areas when the device commits, and selects the devices
after it. -/
def racingRead : List (Turn (Option Unit)) :=
  List.replicate 2 (.step none) ++ List.replicate 16 (.step (some ())) ++
    List.replicate 4 (.step none)

/-- A device that commits between the query of the areas and that of the devices
is read, under the older label. -/
theorem registry_read_consistent_room :
    (seenAt .checking (fun _ => fifthEnv) "owner" (fun _ => .edit secondDevice 3) firstHome
      racingRead).map (fun t => t.home.revisionOf "owner") = [3, 3, 4, 4, 4, 4] ∧
    ∃ registry,
      (playHome .checking (fun _ => fifthEnv) "owner" (fun _ => .edit secondDevice 3) firstHome
        racingRead).outcome? none = some (.ok registry) ∧
      Sdk.checking.validateRegistry registry = .ok () ∧ registry.revision = 3 ∧
      registry.devices.map Device.deviceId = ["lamp", "fan"] := by
  have ended : ((playHome .checking (fun _ => fifthEnv) "owner" (fun _ => .edit secondDevice 3)
      firstHome racingRead).outcome? none).map (fun outcome => outcome.toOption.map (fun registry =>
        (registry.revision, registry.devices.map Device.deviceId))) =
      some (some (3, ["lamp", "fan"])) := by
    decide +kernel
  have shown : (playHome .checking (fun _ => fifthEnv) "owner" (fun _ => .edit secondDevice 3)
      firstHome (racingRead.take 18)).committed.val.home.ShownBy "owner" (seenAt .checking
        (fun _ => fifthEnv) "owner" (fun _ => .edit secondDevice 3) firstHome racingRead) := by
    decide +kernel
  obtain ⟨outcome, found, shows⟩ := Option.map_eq_some_iff.mp ended
  obtain ⟨-, consistent⟩ := registry_read_consistent .checking Sdk.checking_contract
    Sdk.checking_ignoresLabels (numbered firstHomeCommands) (fun _ => fifthEnv) "owner"
    (fun _ => .edit secondDevice 3) racingRead
  obtain ⟨registry, rfl, accepted⟩ := consistent
    ⟨racingRead.take 18, racingRead.drop 18, (List.take_append_drop 18 racingRead).symm, shown⟩
    outcome found
  obtain ⟨label, devices⟩ := Prod.mk.inj (Option.some.inj shows)
  refine ⟨?_, registry, found, accepted, label, devices⟩
  decide +kernel

/-- Another scene, by a writer that commits while the home is read. -/
def morningScene : HomeEdit :=
  .createScene
    { sceneId := "morning", name := "Morning"
      actions := [{ deviceId := "lamp", trait := "on_off", command := "off" }] }

/-- The reader has its scenes when the other one commits. -/
def tornRead : List (Turn (Option Unit)) :=
  List.replicate 4 (.step none) ++ List.replicate 16 (.step (some ())) ++
    List.replicate 2 (.step none)

/-- A scene that commits between the query of the scenes and that of their
actions ends the read with an exception. -/
theorem registry_read_torn : ¬ ∀ (sdk : Sdk), sdk.RegistryContract → sdk.ChecksRegistries →
    sdk.IgnoresLabels → ∀ (calls : List Call) (env : Unit → Env) (ownerId : String)
      (writes : Unit → HomeWrite) (schedule : List (Turn (Option Unit))) (error : Error),
      (playHome sdk env ownerId writes (replay sdk calls .empty) schedule).outcome? none ≠
        some (.error error) := by
  intro always
  have ended : (playHome .checking (fun _ => fifthEnv) "owner" (fun _ => .edit morningScene 3)
      firstHome tornRead).outcome? none = some (.error (.keyError "morning")) := by
    decide +kernel
  exact always .checking Sdk.checking_contract Sdk.checking_checks Sdk.checking_ignoresLabels
    (numbered firstHomeCommands) (fun _ => fifthEnv) "owner" (fun _ => .edit morningScene 3)
    tornRead _ ended

end EidolonData
