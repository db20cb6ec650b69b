import EidolonData.Home.Validation
import EidolonData.Invariants.Homes

/-!
# The rows refine the home
-/

namespace EidolonData

open Relational

/-- The home an Owner's rows stand for. -/
def Database.homeOf (db : Database) (ownerId : String) : Home :=
  (db.tables.home.rowsOf ownerId).home

theorem Database.reads_homeOf {sdk : Sdk} {db : Database} (sound : db.tables.home.Sound sdk)
    (ownerId : String) : db.transact (getRegistry sdk ownerId) =
      .ok ((db.homeOf ownerId).registry, db) :=
  Database.transact_ok_iff.mpr
    (getRegistry_run (sound ownerId) (db.property.home.stored ownerId))

/-- An accepted command does to the stored rows of a home what it says of the
registry, read before and after: the operation on its lists, the revision one
up, and everything the command is not about in its place. -/
theorem smarthome_rows_refine_registry (sdk : Sdk) (contract : sdk.RegistryContract)
    (calls : List Call) (env : Env) (ownerId : String) (edit : HomeEdit) (expected : Int)
    (proposed : Registry) (db' : Database)
    (accepted : (replay sdk calls .empty).transact (editHome sdk env ownerId edit expected) =
      .ok (proposed, db')) :
    let db := replay sdk calls .empty
    let home := db.homeOf ownerId
    db.transact (getRegistry sdk ownerId) = .ok (home.registry, db) ∧
    db'.homeOf ownerId = edit.apply home ∧
    db'.transact (getRegistry sdk ownerId) = .ok ((edit.apply home).registry, db') ∧
    (edit.apply home).registry.revision = home.registry.revision + 1 ∧
    edit.bystanders (edit.apply home).registry = edit.bystanders home.registry := by
  intro db home
  have sound : db.tables.home.Sound sdk := homes_sound contract calls
  have made : HomeWritten sdk env ownerId db.tables (.edit edit expected) proposed db'.tables :=
    ((HomeWrite.edit edit expected).session_onward sdk env ownerId).runs db.tables proposed
      db'.tables (Database.transact_ok_iff.mp accepted)
  obtain ⟨sound', edited⟩ := made.sound contract db.property.home sound
  have applied : db'.homeOf ownerId = edit.apply home := edited edit expected rfl
  refine ⟨Database.reads_homeOf sound ownerId, applied, ?_, edit.apply_revision home,
    edit.bystanders_apply home⟩
  rw [← applied]
  exact Database.reads_homeOf sound' ownerId

/-- A room with a lamp in it, and a scene that switches the lamp. -/
def firstHomeCommands : List Command :=
  [.createOwner "owner" "" "person" none none,
    .writeHome "owner" (.edit (.createArea { areaId := "room", name := "Room" }) 0),
    .writeHome "owner" (.edit (.createDevice
      { deviceId := "lamp", name := "Lamp", type := "light", areaId := some "room" }) 1),
    .writeHome "owner" (.edit (.createScene
      { sceneId := "evening", name := "Evening"
        actions := [{ deviceId := "lamp", trait := "on_off", command := "on" }] }) 2)]

def firstHome : Database := replay .checking (numbered firstHomeCommands) .empty

def fifthEnv : Env := { uuid := fun site => .ofNat (64 + site), now := 4 }

/-- The room comes after the next one once it is moved. -/
def secondRoom : HomeEdit := .createArea { areaId := "hall", name := "Hall", order := -1 }

theorem smarthome_rows_refine_registry_room : ∃ proposed db',
    firstHome.transact (editHome .checking fifthEnv "owner" secondRoom 3) = .ok (proposed, db') ∧
      ∃ registry, db'.transact (getRegistry .checking "owner") = .ok (registry, db') ∧
        registry.areas.map Area.areaId = ["hall", "room"] ∧ registry.revision = 4 := by
  have shows : (firstHome.transact (editHome .checking fifthEnv "owner" secondRoom 3)).toOption.map
      (fun (_, _) => ()) = some () := by
    decide +kernel
  have home : ((secondRoom.apply (firstHome.homeOf "owner")).registry.areas.map Area.areaId,
      (secondRoom.apply (firstHome.homeOf "owner")).registry.revision) = (["hall", "room"], 4) := by
    decide +kernel
  obtain ⟨⟨proposed, db'⟩, transacted, -⟩ := Option.map_eq_some_iff.mp shows
  have edited := Tx.ok_of_toOption transacted
  obtain ⟨-, -, read, -, -⟩ := smarthome_rows_refine_registry .checking Sdk.checking_contract
    (numbered firstHomeCommands) fifthEnv "owner" secondRoom 3 proposed db' edited
  obtain ⟨areas, revision⟩ := Prod.mk.inj home
  exact ⟨proposed, db', edited, _, read, areas, revision⟩

end EidolonData
