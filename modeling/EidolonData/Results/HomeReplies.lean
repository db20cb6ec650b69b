import EidolonData.Results.HomeRefinement
import EidolonData.Library.Placing

/-!
# What a registry write answers

The reply is the registry the write proposed, in the sequences it was built
in; the next read shows the same entries in their order.
-/

namespace EidolonData

open Relational

/-- The entry a command writes stands in the reply where a read shows it. -/
def HomeEdit.KeepsPlace (home : Home) : HomeEdit → Prop
  | createArea area => ∀ other ∈ home.areas, other.order ≤ area.order
  | updateArea area => StaysPut Area.areaId Area.order area home.areas
  | setPlacement placement => ∀ other ∈ home.placements, other.deviceRef ≤ placement.deviceRef
  | deleteArea _ | createDevice _ | updateDevice _ | deleteDevice _ | createScene _
  | updateScene _ | deleteScene _ | clearPlacement _ => True

structure Home.Keyed (home : Home) : Prop where
  areaIds : (home.areas.map Area.areaId).Nodup
  placementRefs : (home.placements.map Placement.deviceRef).Nodup

theorem SmartHome.keyed (h : SmartHome) (ownerId : String)
    (stored : (h.rowsOf ownerId).Stored) : (h.rowsOf ownerId).home.Keyed where
  areaIds := by
    have unique := nodup_select h.areas (fun row => rfl) ownerId
    rw [HomeRows.home, List.map_map]
    exact unique
  placementRefs := stored.refs

def HomeEdit.FindsArea (home : Home) : HomeEdit → Prop
  | updateArea area => area.areaId ∈ home.areas.map Area.areaId
  | _ => True

theorem HomeEdit.Finds.area {rows : HomeRows} {edit : HomeEdit} (finds : edit.Finds rows) :
    edit.FindsArea rows.home := by
  cases edit with
  | updateArea area =>
      show area.areaId ∈ (rows.areas.map SmartHomeAreaRow.load).map Area.areaId
      rw [List.map_map]
      exact finds
  | _ => trivial

/-- A reply built in the sequences of a read is the next read exactly when the
edit keeps the place of its entry. -/
theorem HomeEdit.document_iff {edit : HomeEdit} {home : Home} (keyed : home.Keyed)
    (finds : edit.FindsArea home) :
    ({ edit.document home.registry with revision := home.revision + 1 } : Registry) =
      (edit.apply home).registry ↔ edit.KeepsPlace home := by
  cases edit with
  | createArea area =>
      simp only [document, apply, Home.registry, KeepsPlace, Registry.mk.injEq, true_and, and_true]
      exact orderBy_append_iff
  | updateArea area =>
      simp only [document, apply, Home.registry, KeepsPlace, Registry.mk.injEq, true_and, and_true]
      exact inPlace_orderBy_iff keyed.areaIds finds
  | setPlacement placement =>
      simp only [document, apply, Home.registry, KeepsPlace, Registry.mk.injEq, true_and]
      exact setItem_orderBy_iff keyed.placementRefs
  | deleteArea | clearPlacement =>
      simp only [document, apply, Home.registry, KeepsPlace, Registry.mk.injEq, true_and, and_true,
        iff_true]
      exact without_orderBy _ _ _ _
  | createDevice | updateDevice | deleteDevice | createScene | updateScene | deleteScene =>
      simp only [document, apply, Home.registry, KeepsPlace]

/-- Along every run: what an accepted command answers is what the next read
shows exactly when the command keeps the place of its entry. -/
theorem home_reply_iff_read (sdk : Sdk) (contract : sdk.RegistryContract) (calls : List Call)
    (env : Env) (ownerId : String) (edit : HomeEdit) (expected : Int) (reply : Registry)
    (db' : Database)
    (accepted : (replay sdk calls .empty).transact (editHome sdk env ownerId edit expected) =
      .ok (reply, db')) :
    db'.transact (getRegistry sdk ownerId) = .ok (reply, db') ↔
      edit.KeepsPlace ((replay sdk calls .empty).homeOf ownerId) := by
  let db := replay sdk calls .empty
  have sound : db.tables.home.Sound sdk := homes_sound contract calls
  have stored : (db.tables.home.rowsOf ownerId).Stored := db.property.home.stored ownerId
  have made : HomeWritten sdk env ownerId db.tables (.edit edit expected) reply db'.tables :=
    ((HomeWrite.edit edit expected).session_onward sdk env ownerId).runs db.tables reply
      db'.tables (Database.transact_ok_iff.mp accepted)
  obtain ⟨sound', edited⟩ := made.sound contract db.property.home sound
  have applied : db'.homeOf ownerId = edit.apply (db.homeOf ownerId) := edited edit expected rfl
  have read := Database.reads_homeOf sound' ownerId
  rw [applied] at read
  cases made with
  | edited written proposes =>
      have revision : (db.homeOf ownerId).revision = expected :=
        revision_of_expects written.current
      have document := proposes.document
      rw [sound.loaded ownerId expected, ← revision] at document
      have proposed : reply = { edit.document (db.homeOf ownerId).registry with
          revision := (db.homeOf ownerId).revision + 1 } := document
      have finds : edit.FindsArea (db.homeOf ownerId) := proposes.finds.area
      have keyed : (db.homeOf ownerId).Keyed := db.tables.home.keyed ownerId stored
      rw [read, ← HomeEdit.document_iff keyed finds, ← proposed]
      constructor
      · intro same
        exact (Prod.mk.inj (Except.ok.inj same)).1.symm
      · intro same
        rw [same]
  | loaded named => cases named

/-- The hall of `secondRoom` is answered behind the room and read before it. -/
theorem hall_reply_unordered : ∃ reply db',
    firstHome.transact (editHome .checking fifthEnv "owner" secondRoom 3) = .ok (reply, db') ∧
      reply.areas.map Area.areaId = ["room", "hall"] ∧
        db'.transact (getRegistry .checking "owner") ≠ .ok (reply, db') := by
  have shows : (firstHome.transact (editHome .checking fifthEnv "owner" secondRoom 3)).toOption.bind
      (fun written => (written.2.transact (getRegistry .checking "owner")).toOption.map
        (fun read => (written.1.areas.map Area.areaId, read.1.areas.map Area.areaId))) =
          some (["room", "hall"], ["hall", "room"]) := by
    decide +kernel
  obtain ⟨⟨reply, db'⟩, written, inner⟩ := Option.bind_eq_some_iff.mp shows
  obtain ⟨⟨registry, db''⟩, read, areas⟩ := Option.map_eq_some_iff.mp inner
  obtain ⟨replied, shown⟩ := Prod.mk.inj areas
  refine ⟨reply, db', Tx.ok_of_toOption written, replied, ?_⟩
  intro same
  have shownReply : registry = reply :=
    (Prod.mk.inj (Except.ok.inj ((Tx.ok_of_toOption read).symm.trans same))).1
  have swapped : ["hall", "room"] = ["room", "hall"] :=
    shown.symm.trans (shownReply ▸ replied)
  exact absurd swapped (by decide)

/-- Without an order of its own the hall stays behind the room. -/
theorem home_reply_iff_read_hall : ∃ reply db',
    firstHome.transact (editHome .checking fifthEnv "owner"
      (.createArea { areaId := "hall", name := "Hall" }) 3) = .ok (reply, db') ∧
        db'.transact (getRegistry .checking "owner") = .ok (reply, db') := by
  let hall : HomeEdit := .createArea { areaId := "hall", name := "Hall" }
  have shows : (firstHome.transact (editHome .checking fifthEnv "owner" hall 3)).toOption.map
      (fun _ => ()) = some () := by
    decide +kernel
  have last : ∀ other ∈ (firstHome.homeOf "owner").areas, other.order ≤ (0 : Int) := by
    decide +kernel
  obtain ⟨⟨reply, db'⟩, written, -⟩ := Option.map_eq_some_iff.mp shows
  have accepted := Tx.ok_of_toOption written
  exact ⟨reply, db', accepted, (home_reply_iff_read .checking Sdk.checking_contract
    (numbered firstHomeCommands) fifthEnv "owner" hall 3 reply db' accepted).mpr last⟩

end EidolonData
