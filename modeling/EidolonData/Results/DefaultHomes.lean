import EidolonData.Results.HomeCompareAndSet
import EidolonData.Effects.Histories
import EidolonData.Effects.PutAway
import EidolonData.Invariants.Proposals
import EidolonData.Library.Runs
import EidolonData.Services.DefaultHomes

/-!
# The backfill of default homes

A turn finds a home that has been written, or an Owner that is gone, and goes
on; or it writes the first revision.  A registry stays as long as its Owner
does, so a later turn, of whichever run, finds it.
-/

namespace EidolonData

open Relational

section Turns

variable {sdk : Sdk} {env : Env} {t : Tables} {ownerId : String}

/-- What stops a sample on its way into a registry just opened is not passed
over. -/
theorem populateSample_raises (sample : Registry) (c : HomeChange) :
    (populateSample sdk sample c).Raises t (fun error => error.passedOver = false) := by
  simp only [populateSample, HomeChange.propose, Tx.raises_bind, Tx.raises_refuseIf,
    Tx.ensures_refuseIf, Tx.raises_lift, Tx.ensures_bind, Tx.ensures_lift, raises_writeRows,
    Tx.pure_eq, Tx.raises_done, Tx.ensures_done, Tx.ensures_true, and_true]
  refine ⟨fun _ => rfl, fun _ => ⟨?_, fun _ _ _ => rfl⟩⟩
  intro fault _
  unfold RegistryFault.error
  split
  · rfl
  · rfl
  · rfl

theorem loadRegistry_raises (revision : Int) :
    (loadRegistry sdk ownerId revision).Raises t (fun error => error.passedOver = false) := by
  simp only [loadRegistry, Tx.raises_bind, Tx.ensures_read, Tx.raises_read, true_and]
  split
  · simp [Error.passedOver]
  · simp [Tx.raises_bind, Error.passedOver]

theorem openRegistry_raises {post : Error → Prop} (known : t.workspace.owners.has ownerId = true)
    (unwritten : t.home.registries.get? ownerId = none) : (openRegistry ownerId).Raises t post := by
  simp only [openRegistry, Tx.raises_bind, Tx.raises_read, Tx.ensures_read, true_and, unwritten,
    Tx.raises_attempt, Tx.pure_eq, Tx.raises_done, Tx.ensures_true, and_true]
  intro error refused
  rw [if_neg] at refused
  · cases refused
  · simp [Table.has_eq_false_iff.mpr unwritten, known]

/-- A turn that comes to a home nobody has written is stopped only on the way
from its rows to the sample. -/
theorem load_raises {post : Error → Prop} (known : t.workspace.owners.has ownerId = true)
    (unwritten : t.home.registries.get? ownerId = none)
    (loads : (loadRegistry sdk ownerId 0).Raises (t.mapHome (fun h => h.advance ownerId)) post)
    (populates : (populateSample sdk sdk.apartmentSample
      { ownerId := ownerId
        current := t.home.loaded ownerId 0
        revision := 1 }).Raises (t.mapHome (fun h => h.advance ownerId)) post) :
    (Backfill.load sdk env ownerId).Raises t post := by
  have sample : sdk.sample? "apartment" = some sdk.apartmentSample := rfl
  obtain ⟨owner, found⟩ := Table.has_iff.mp known
  simp only [Backfill.load, loadSample, sample, changeRegistry, Tx.raises_bind, Tx.raises_require,
    Tx.ensures_require, Tx.raises_refuseIf, Tx.ensures_refuseIf, getOwner, Tx.raises_read,
    Tx.ensures_read, found, reduceCtorEq, not_false_eq_true, IsEmpty.forall_iff, true_and,
    forall_const, Option.some.injEq, forall_eq']
  refine ⟨fun negative => absurd negative (lt_irrefl _), fun _ => ⟨?_, ?_⟩⟩
  · exact openRegistry_raises known unwritten
  refine (advanceRevision_effect t ownerId 0).mono ?_
  rintro _ _ ⟨rfl, -, rfl⟩
  refine ⟨loads, ?_⟩
  refine (loadRegistry_effect sdk _ ownerId 0).mono ?_
  rintro _ _ ⟨rfl, rfl, -⟩
  have home : (t.mapHome (fun h => h.advance ownerId)).home = t.home.advance ownerId := rfl
  rw [home, SmartHome.loaded_advance]
  refine ⟨populates, ?_⟩
  intro proposed t' _
  simp [addFact, Tx.modify]

theorem load_runs (checks : sdk.ChecksRegistries)
    (accepted : sdk.validateRegistry { sdk.apartmentSample with revision := 1 } = .ok ())
    (sound : (t.home.rowsOf ownerId).Sound sdk) (stored : (t.home.rowsOf ownerId).Stored)
    (known : t.workspace.owners.has ownerId = true)
    (unwritten : t.home.registries.get? ownerId = none) :
    (Backfill.load sdk env ownerId).Raises t (fun _ => False) := by
  have empty := sound.unwritten unwritten
  have loaded : t.home.loaded ownerId 0 = { revision := 0 } := by
    rw [SmartHome.loaded_eq sound.ordered]
    simp [HomeRows.home, Home.registry, empty.areas, empty.devices, empty.scenes,
      empty.placements]
  have shown : sdk.validateRegistry (t.home.loaded ownerId 0) = .ok () := by
    have home := SmartHome.loaded_eq sound.ordered (t.home.rowsOf ownerId).home.revision
    have labelled : (t.home.rowsOf ownerId).home.revision = 0 := by
      show ((t.home.registries.get? ownerId).map _).getD 0 = 0
      rw [unwritten]
      rfl
    rw [labelled] at home
    rw [home, ← labelled]
    exact sound.accepted
  have opened : (t.mapHome (fun h => h.advance ownerId)).home = t.home.advance ownerId := rfl
  refine load_raises known unwritten ?_ ?_
  · rw [← SmartHome.loaded_advance] at shown
    have actions := SmartHome.loads_actions (t.home.advance_stored stored)
    simp only [loadRegistry, Tx.raises_bind, Tx.ensures_read, Tx.raises_read, true_and, opened,
      actions, Tx.raises_lift, Tx.pure_eq, Tx.raises_done, Tx.ensures_true, and_true]
    intro fault refused
    exact absurd (shown.symm.trans refused) (by rintro ⟨⟩)
  · have emptied : ((t.home.advance ownerId).rowsOf ownerId).Empty := by
      unfold SmartHome.advance
      split
      · exact { empty with }
      · exact { empty with }
    obtain ⟨home, populated⟩ := Registry.populates_of_wellFormed emptied
      (checks _ accepted).labelled
    simp only [populateSample, HomeChange.propose, Tx.raises_bind, Tx.raises_refuseIf,
      Tx.ensures_refuseIf, Tx.raises_lift, Tx.ensures_bind, Tx.ensures_lift, raises_writeRows,
      Tx.pure_eq, Tx.raises_done, Tx.ensures_done, Tx.ensures_true, and_true, loaded, opened,
      accepted, populated]
    simp

/-- How a turn ends: its Owner is gone, its home has been written, or it is the
first to write it, unless it is stopped with an error that is not passed over. -/
theorem load_cases (sdk : Sdk) (env : Env) (db : Database) (ownerId : String) :
    (db.tables.workspace.owners.has ownerId = false ∧
      db.transact (Backfill.load sdk env ownerId) =
        .error (.smartHomeRegistryNotFound "owner not found")) ∨
    (∃ row, db.tables.home.registries.get? ownerId = some row ∧
      db.transact (Backfill.load sdk env ownerId) =
        .error (.smartHomeRegistryConflict 0 row.revision)) ∨
    (db.tables.workspace.owners.has ownerId = true ∧
      db.tables.home.registries.get? ownerId = none ∧
      ((∃ proposed db', db.transact (Backfill.load sdk env ownerId) = .ok (proposed, db') ∧
          HomeWritten sdk env ownerId db.tables .initializeDefault proposed db'.tables) ∨
        ∃ error, db.transact (Backfill.load sdk env ownerId) = .error error ∧
          error.passedOver = false)) := by
  cases known : db.tables.workspace.owners.has ownerId with
  | false =>
      left
      refine ⟨rfl, Database.transact_of_error ?_⟩
      have absent := Table.has_eq_false_iff.mp known
      simp [Backfill.load, loadSample, Sdk.sample?, changeRegistry, getOwner, absent]
  | true =>
      right
      cases unwritten : db.tables.home.registries.get? ownerId with
      | some row =>
          left
          refine ⟨row, rfl, Database.transact_of_error ?_⟩
          obtain ⟨owner, found⟩ := Table.has_iff.mp known
          simp [Backfill.load, loadSample, Sdk.sample?, changeRegistry, getOwner, found,
            advanceRevision, openRegistry, Tx.bind_assoc, unwritten]
      | none =>
          right
          refine ⟨rfl, rfl, ?_⟩
          cases transacted : db.transact (Backfill.load sdk env ownerId) with
          | ok finished =>
              obtain ⟨proposed, db'⟩ := finished
              have ran := Database.transact_ok_iff.mp transacted
              exact .inl ⟨proposed, db', rfl,
                (HomeWrite.session_onward sdk env ownerId .initializeDefault).runs db.tables
                  proposed _ ran⟩
          | error error =>
              refine .inr ⟨error, rfl, ?_⟩
              rcases Database.transact_error transacted with ran | rfl
              · exact load_raises known unwritten (loadRegistry_raises 0)
                  (populateSample_raises _ _) error ran
              · rfl

end Turns

section Lasting

variable {sdk : Sdk} {t t' : Tables} {w w' : Workspace}

theorem HomesChange.revision_le (changed : HomesChange sdk t t')
    (before : t.home.Integrity t.workspace) {ownerId : String}
    (stays : t'.workspace.owners.has ownerId = true) :
    t.home.revisionOf ownerId ≤ t'.home.revisionOf ownerId := by
  cases changed with
  | kept home => rw [home]
  | @written env other write proposed made =>
      by_cases own : ownerId = other
      · subst own
        obtain ⟨old, new⟩ := made.comparedAndSet.revision
        omega
      · obtain ⟨change, target, edit, written⟩ := made.registry
        rw [SmartHome.revisionOf, SmartHome.revisionOf, written.rows.others ownerId own]
  | @initialized other unknown accepted rows =>
      by_cases own : ownerId = other
      · subst own
        have none := before.rowsOf_unknown unknown
        rw [SmartHome.revisionOf, SmartHome.revisionOf, rows.own, none]
        exact Int.zero_le_ofNat 1
      · rw [SmartHome.revisionOf, SmartHome.revisionOf, rows.others ownerId own]
  | removed home =>
      rw [home, SmartHome.revisionOf, SmartHome.revisionOf, before.rowsOf_cascade ownerId,
        if_pos stays]

theorem Call.step_revision_le (call : Call) (db : Database) {ownerId : String}
    (stays : (call.step sdk db).tables.workspace.owners.has ownerId = true) :
    db.tables.home.revisionOf ownerId ≤ (call.step sdk db).tables.home.revisionOf ownerId := by
  have stepped := call.step_post db (call.command.session_homes sdk call.env db.tables)
  generalize call.step sdk db = db' at stays stepped ⊢
  rcases stepped with rfl | changed
  · exact le_refl _
  · exact changed.revision_le db.property.home stays

theorem Command.Effect.inactive_stays {command : Command} {permits : Permits}
    (effect : command.Effect sdk permits w w') {ownerId : String} {old new : OwnerRow}
    (before : w.owners.get? ownerId = some old) (after : w'.owners.get? ownerId = some new)
    (inactive : old.status ≠ .active) : new.status ≠ .active := by
  have unchanged : w' = w → new.status ≠ .active := by
    rintro rfl
    rw [before] at after
    cases after
    exact inactive
  have removed : ∀ {doomed}, Removal doomed w w' → new.status ≠ .active := by
    intro doomed removal
    obtain ⟨row, found, -, spared⟩ := removal.owner after
    rw [before] at found
    cases found
    rw [spared.status]
    exact inactive
  cases command with
  | archiveOwner archived =>
      rcases effect with same | ⟨owner, now, found, -, rfl⟩
      · exact unchanged same
      · have key : owner.ownerId = archived := Table.key_of_get? found
        subst key
        rcases (archiveOwner_stores found).of_get? after with ⟨-, rfl⟩ | ⟨-, stored⟩
        · rintro ⟨⟩
        · rw [before] at stored
          cases stored
          exact inactive
  | deleteOwner =>
      rcases effect with same | removal
      · exact unchanged same
      · exact removed removal
  | deleteCompanion => exact removed effect.1
  | _ =>
      obtain ⟨row, stored, precedes⟩ := Changes.outlives effect |>.owners _ _ before
      rw [after] at stored
      cases stored
      rw [precedes.status]
      exact inactive

end Lasting

section Runs

variable {sdk : Sdk}

/-- A turn takes nobody off the list but the Owner it came to. -/
theorem DefaultRun.mem_note {α : Type} (run : DefaultRun) {ownerId : String}
    (later : ownerId ∈ run.remaining.tail) (outcome : Except Error α) :
    ownerId ∈ (run.note outcome).remaining := by
  cases outcome with
  | ok value => exact later
  | error error =>
      cases skips : error.passedOver with
      | true =>
          simp only [DefaultRun.note, skips, if_true]
          exact later
      | false =>
          simp only [DefaultRun.note, skips, Bool.false_eq_true, if_false]
          exact List.mem_of_mem_tail later

namespace Backfill

def Stores (b : Backfill) (ownerId : String) : Prop :=
  b.db.tables.workspace.owners.has ownerId = true

def Active (b : Backfill) (ownerId : String) : Prop :=
  ∃ owner, b.db.tables.workspace.owners.get? ownerId = some owner ∧ owner.status = .active

def revision (b : Backfill) (ownerId : String) : Int := b.db.tables.home.revisionOf ownerId

theorem turn_of {b : Backfill} {number : Nat} {ownerId : String}
    (comes : b.turnOf number = some ownerId) (sdk : Sdk) (env : Env) :
    ∃ run, b.runs number = some run ∧ run.raised = none ∧
      run.remaining = ownerId :: run.remaining.tail ∧ b.turn sdk env number =
        { db := b.db.after (load sdk env ownerId)
          runs := Function.update b.runs number
            (some (run.note (b.db.transact (load sdk env ownerId)))) } := by
  obtain ⟨run, listed, next⟩ := Option.bind_eq_some_iff.mp comes
  refine ⟨run, listed, ?_⟩
  have turned : b.turn sdk env number =
      { db := b.db.after (load sdk env ownerId)
        runs := Function.update b.runs number
          (some (run.note (b.db.transact (load sdk env ownerId)))) } := by
    simp only [turn, listed, comes]
  unfold DefaultRun.next? at next
  split at next
  · cases next
  · next unraised =>
      obtain ⟨later, split⟩ := List.head?_eq_some_iff.mp next
      exact ⟨unraised, by rw [split, List.tail_cons], turned⟩

theorem turn_none {b : Backfill} {number : Nat} (none : b.turnOf number = none) (sdk : Sdk)
    (env : Env) : b.turn sdk env number = b := by
  unfold turn
  split
  · next comes => exact absurd (none.symm.trans comes) (by rintro ⟨⟩)
  · rfl

/-- The database moves as by one call of a command, or not at all. -/
theorem step_db (b : Backfill) (event : BackfillEvent) :
    (b.step sdk event).db = b.db ∨ ∃ call : Call, (b.step sdk event).db = call.step sdk b.db := by
  cases event with
  | call call => exact .inr ⟨call, rfl⟩
  | list number =>
      left
      show (b.list number).db = b.db
      unfold list
      split
      · rfl
      · rfl
  | turn number env =>
      show (b.turn sdk env number).db = b.db ∨ ∃ call : Call, (b.turn sdk env number).db = _
      cases comes : b.turnOf number with
      | none =>
          left
          rw [turn_none comes]
      | some ownerId =>
          obtain ⟨run, -, -, -, turned⟩ := turn_of comes sdk env
          right
          refine ⟨{ env := env, command := .writeHome ownerId .initializeDefault }, ?_⟩
          rw [turned]
          exact (Database.after_effect _ _).symm

theorem play_db (events : List BackfillEvent) (b : Backfill) :
    ∃ calls, (play sdk events b).db = replay sdk calls b.db := by
  induction events generalizing b with
  | nil => exact ⟨[], rfl⟩
  | cons event events induction =>
      obtain ⟨calls, played⟩ := induction (b.step sdk event)
      show ∃ calls, (play sdk events (b.step sdk event)).db = _
      rcases b.step_db event with same | ⟨call, stepped⟩
      · exact ⟨calls, by rw [played, same]⟩
      · exact ⟨call :: calls, by rw [played, stepped, replay_cons]⟩

theorem step_revision_le (b : Backfill) (event : BackfillEvent) {ownerId : String}
    (stays : (b.step sdk event).Stores ownerId) :
    b.revision ownerId ≤ (b.step sdk event).revision ownerId := by
  unfold Stores at stays
  unfold revision
  rcases b.step_db event with same | ⟨call, stepped⟩
  · rw [same]
  · rw [stepped] at stays ⊢
    exact call.step_revision_le b.db stays

theorem step_inactive (b : Backfill) (event : BackfillEvent) {ownerId : String}
    (stored : b.Stores ownerId) (inactive : ¬ b.Active ownerId) :
    ¬ (b.step sdk event).Active ownerId := by
  rintro ⟨new, after, active⟩
  obtain ⟨old, before⟩ := Table.has_iff.mp stored
  have old_inactive : old.status ≠ .active := fun same => inactive ⟨old, before, same⟩
  have unchanged : (b.step sdk event).db = b.db → False := by
    intro same
    rw [same, before] at after
    cases after
    exact old_inactive active
  rcases b.step_db event with same | ⟨call, stepped⟩
  · exact unchanged same
  · rcases call.step_effect b.db (call.command.permitted_all sdk _) with same | effect
    · exact unchanged (stepped.trans same)
    · rw [stepped] at after
      exact effect.inactive_stays before after old_inactive active

section Turn

variable {b : Backfill} {number : Nat} {ownerId : String}

theorem opened_of_revision (written : 1 ≤ b.revision ownerId) :
    ∃ row, b.db.tables.home.registries.get? ownerId = some row := by
  cases stored : b.db.tables.home.registries.get? ownerId with
  | some row => exact ⟨row, rfl⟩
  | none =>
      have zero : b.revision ownerId = 0 := by
        show ((b.db.tables.home.registries.get? ownerId).map _).getD 0 = 0
        rw [stored]
        rfl
      omega

theorem revision_of_opened {row : SmartHomeRegistryRow}
    (stored : b.db.tables.home.registries.get? ownerId = some row) : 1 ≤ b.revision ownerId := by
  have revision : b.revision ownerId = row.revision := by
    show ((b.db.tables.home.registries.get? ownerId).map _).getD 0 = row.revision
    rw [stored]
    rfl
  have positive := (b.db.property.home.opened stored).2
  omega

/-- A turn that changes nothing but its own run's list. -/
def passOver (b : Backfill) (number : Nat) : Backfill :=
  { b with runs := Function.update b.runs number ((b.runs number).map (fun run =>
      { run with remaining := run.remaining.tail })) }

/-- A turn is passed over when its Owner is gone or its home is written; else it
writes the home, or ends its run. -/
theorem turn_cases (comes : b.turnOf number = some ownerId) (sdk : Sdk) (env : Env) :
    ((¬ b.Stores ownerId ∨ 1 ≤ b.revision ownerId) ∧
      b.turn sdk env number = b.passOver number ∧
      ∀ reply, b.db.transact (load sdk env ownerId) ≠ .ok reply) ∨
    (b.Stores ownerId ∧ b.db.tables.home.registries.get? ownerId = none ∧
      ((b.turn sdk env number).revision ownerId = 1 ∨
        ∃ run error, b.runs number = some run ∧
          (b.turn sdk env number).runs number = some { run with raised := some error })) := by
  obtain ⟨run, listed, unraised, -, turned⟩ := turn_of comes sdk env
  have passed : ∀ error : Error, error.passedOver = true →
      b.db.transact (load sdk env ownerId) = .error error →
      b.turn sdk env number = b.passOver number ∧
        ∀ reply, b.db.transact (load sdk env ownerId) ≠ .ok reply := by
    intro error skips refused
    constructor
    · rw [turned, Database.after_of_error refused, refused, passOver, listed]
      simp only [DefaultRun.note, skips, if_true, Option.map_some]
    · intro reply answered
      rw [refused] at answered
      cases answered
  rcases load_cases sdk env b.db ownerId with ⟨absent, refused⟩ | ⟨row, stored, refused⟩ |
    ⟨known, unwritten, ⟨proposed, db', transacted, made⟩ | ⟨error, refused, skips⟩⟩
  · left
    refine ⟨Or.inl ?_, passed _ rfl refused⟩
    rw [Stores, absent]
    rintro ⟨⟩
  · exact .inl ⟨Or.inr (revision_of_opened stored), passed _ rfl refused⟩
  · refine .inr ⟨known, unwritten, .inl ?_⟩
    rw [turned, Database.after_of_ok transacted]
    exact made.comparedAndSet.revision.2
  · refine .inr ⟨known, unwritten, .inr ⟨run, error, listed, ?_⟩⟩
    rw [turned, refused]
    simp [DefaultRun.note, skips]

theorem step_runs {run : DefaultRun} (listed : b.runs number = some run) (event : BackfillEvent) :
    (b.step sdk event).runs number = some run ∨
      ∃ env, event = .turn number env ∧ ∃ ownerId, b.turnOf number = some ownerId := by
  cases event with
  | call call => exact .inl listed
  | list other =>
      left
      show (b.list other).runs number = some run
      unfold list
      split
      · exact listed
      · next unlisted =>
          have different : number ≠ other := by
            rintro rfl
            rw [listed] at unlisted
            cases unlisted
          exact (Function.update_of_ne different _ _).trans listed
  | turn other env =>
      by_cases own : other = number
      · subst own
        cases comes : b.turnOf other with
        | none =>
            left
            show (b.turn sdk env other).runs other = some run
            rw [turn_none comes]
            exact listed
        | some ownerId => exact .inr ⟨env, rfl, ownerId, rfl⟩
      · left
        show (b.turn sdk env other).runs number = some run
        cases comes : b.turnOf other with
        | none =>
            rw [turn_none comes]
            exact listed
        | some ownerId =>
            obtain ⟨_, -, -, -, turned⟩ := turn_of comes sdk env
            rw [turned]
            exact (Function.update_of_ne (Ne.symm own) _ _).trans listed

end Turn

/-- The run owes the Owner a turn, or the Owner's home is written. -/
def Owes (b : Backfill) (number : Nat) (ownerId : String) : Prop :=
  ∃ run, b.runs number = some run ∧ (ownerId ∈ run.remaining ∨ 1 ≤ b.revision ownerId)

theorem step_owes (b : Backfill) (event : BackfillEvent) {number : Nat} {ownerId : String}
    (stored : b.Stores ownerId) (stays : (b.step sdk event).Stores ownerId)
    (owes : b.Owes number ownerId) : (b.step sdk event).Owes number ownerId := by
  obtain ⟨run, listed, owed⟩ := owes
  have written : 1 ≤ b.revision ownerId → 1 ≤ (b.step sdk event).revision ownerId :=
    fun before => le_trans before (b.step_revision_le event stays)
  have moved : (b.step sdk event).runs number = some _ ∨ _ := b.step_runs listed event
  rcases moved with same | ⟨env, rfl, other, comes⟩
  · exact ⟨run, same, owed.imp_right written⟩
  obtain ⟨same, found, -, remaining, turned⟩ := turn_of comes sdk env
  rw [listed] at found
  cases found
  -- Only the Owner whose turn it is leaves the list.
  by_cases own : ownerId = other
  · subst own
    rcases turn_cases comes sdk env with ⟨absent | before, -⟩ | ⟨-, -, once | stopped⟩
    · exact absurd stored absent
    · exact ⟨_, by rw [step, turned]; exact Function.update_self _ _ _, .inr (written before)⟩
    · exact ⟨_, by rw [step, turned]; exact Function.update_self _ _ _, .inr (le_of_eq once.symm)⟩
    · obtain ⟨run', error, found, stops⟩ := stopped
      rw [listed] at found
      cases found
      exact ⟨_, stops, owed.imp_right written⟩
  · refine ⟨_, by rw [step, turned]; exact Function.update_self _ _ _, owed.imp ?_ written⟩
    intro member
    have later : ownerId ∈ run.remaining.tail := by
      rw [remaining] at member
      exact (List.mem_cons.mp member).resolve_left own
    exact run.mem_note later _

/-- The run has come to its end. -/
def Finished (b : Backfill) (number : Nat) : Prop :=
  ∃ run, b.runs number = some run ∧ run.Finished

def NoneCreated (b b' : Backfill) : Prop := ∀ ownerId, b'.Stores ownerId → b.Stores ownerId

/-- The turn of a run loads the sample for this Owner. -/
def Initializes (sdk : Sdk) (env : Env) (b : Backfill) (number : Nat) (ownerId : String) : Prop :=
  b.turnOf number = some ownerId ∧ ∃ reply, b.db.transact (load sdk env ownerId) = .ok reply

section Runs

variable {b : Backfill} {number : Nat} {ownerId : String}

theorem turn_written (comes : b.turnOf number = some ownerId) (written : 1 ≤ b.revision ownerId)
    (env : Env) : b.turn sdk env number = b.passOver number ∧
      ∀ reply, b.db.transact (load sdk env ownerId) ≠ .ok reply := by
  rcases turn_cases comes sdk env with ⟨-, skips⟩ | ⟨-, unwritten, -⟩
  · exact skips
  · obtain ⟨row, stored⟩ := opened_of_revision written
    rw [unwritten] at stored
    cases stored

theorem revision_of_initializes {env : Env} (first : b.Initializes sdk env number ownerId) :
    1 ≤ (b.turn sdk env number).revision ownerId := by
  obtain ⟨comes, ⟨proposed, db'⟩, transacted⟩ := first
  obtain ⟨run, -, -, -, turned⟩ := turn_of comes sdk env
  have made := (HomeWrite.session_onward sdk env ownerId .initializeDefault).runs b.db.tables
    proposed _ (Database.transact_ok_iff.mp transacted)
  rw [turned, Database.after_of_ok transacted]
  exact le_of_eq made.comparedAndSet.revision.2.symm

theorem revision_stays {events : List BackfillEvent}
    (stays : Throughout (step sdk) (fun b => b.Stores ownerId) events b)
    (written : 1 ≤ b.revision ownerId) : 1 ≤ (play sdk events b).revision ownerId := by
  refine stays.carries (motive := fun b => 1 ≤ b.revision ownerId) ?_ written
  intro b event _ stored before
  exact le_trans before (b.step_revision_le event stored)

theorem list_owes (unlisted : b.runs number = none) (active : b.Active ownerId) :
    (b.list number).Owes number ownerId := by
  obtain ⟨owner, found, status⟩ := active
  have listed : (b.list number).runs number =
      some { remaining := defaultHomeCandidates b.db.tables } := by
    simp only [list, unlisted]
    exact Function.update_self _ _ _
  have same : (b.list number).revision ownerId = b.revision ownerId := by
    simp only [list, unlisted, revision]
  refine ⟨_, listed, ?_⟩
  rw [same]
  cases stored : b.db.tables.home.registries.get? ownerId with
  | some row => exact .inr (revision_of_opened stored)
  | none =>
      left
      refine mem_orderBy.mpr (List.mem_map.mpr ⟨owner, ?_, Table.key_of_get? found⟩)
      have key : owner.ownerId = ownerId := Table.key_of_get? found
      have unwritten := Table.has_eq_false_iff.mpr stored
      refine List.mem_filter.mpr ⟨Table.mem_of_get? found, ?_⟩
      simp [status, key, unwritten]

theorem finished_written (unlisted : b.runs number = none) {later : List BackfillEvent}
    (finished : (play sdk later (b.list number)).Finished number) (active : b.Active ownerId)
    (stays : Throughout (step sdk) (fun b => b.Stores ownerId) later (b.list number)) :
    1 ≤ (play sdk later (b.list number)).revision ownerId := by
  have owes : (play sdk later (b.list number)).Owes number ownerId := by
    refine stays.carries (motive := fun b => b.Owes number ownerId) ?_ (list_owes unlisted active)
    intro b event stored stays owes
    exact b.step_owes event stored stays owes
  obtain ⟨run, listed, owed⟩ := owes
  obtain ⟨run', listed', done, -⟩ := finished
  rw [listed] at listed'
  cases listed'
  rw [done] at owed
  exact owed.resolve_left List.not_mem_nil

theorem second_finds_none (unlisted : b.runs number = none) {later : List BackfillEvent}
    (finished : (play sdk later (b.list number)).Finished number)
    (noneCreated : Stepwise (step sdk) NoneCreated later (b.list number)) :
    defaultHomeCandidates (play sdk later (b.list number)).db.tables = [] := by
  have same : (b.list number).db = b.db := by
    simp only [list, unlisted]
  apply List.eq_nil_iff_forall_not_mem.mpr
  intro ownerId candidate
  obtain ⟨owner, member, rfl⟩ := List.mem_map.mp (mem_orderBy.mp candidate)
  obtain ⟨stored, chosen⟩ := List.mem_filter.mp member
  have found : (play sdk later (b.list number)).db.tables.workspace.owners.get? owner.ownerId =
      some owner := (Table.mem_rows_iff _ _).mp stored
  simp only [Bool.and_eq_true, decide_eq_true_eq, Bool.not_eq_true'] at chosen
  obtain ⟨status, unwritten⟩ := chosen
  have stays : Throughout (step sdk) (fun b => b.Stores owner.ownerId) later (b.list number) :=
    noneCreated.throughout (fun created after => created _ after) (Table.has_of_get? found)
  have active : b.Active owner.ownerId := by
    by_contra inactive
    have before : ¬ (b.list number).Active owner.ownerId := by
      rw [Active, same]
      exact inactive
    refine stays.carries (motive := fun b => ¬ b.Active owner.ownerId) ?_ before
      ⟨owner, found, status⟩
    intro b event stored _ inactive
    exact b.step_inactive event stored inactive
  obtain ⟨row, opened⟩ := opened_of_revision (finished_written unlisted finished active stays)
  rw [Table.has_of_get? opened] at unwritten
  cases unwritten

theorem turn_of_nobody (listed : b.runs number = some { remaining := [] })
    (later : List BackfillEvent) (env : Env) :
    (play sdk later b).turn sdk env number = play sdk later b := by
  have idle : ∀ b : Backfill, b.runs number = some { remaining := [] } →
      b.turnOf number = none := by
    intro b listed
    simp only [turnOf, listed]
    rfl
  have stays : (play sdk later b).runs number = some { remaining := [] } := by
    refine foldl_preserves (motive := fun b : Backfill => b.runs number = some { remaining := [] })
      ?_ later listed
    intro b event listed
    have moved : (b.step sdk event).runs number = some _ ∨ _ := b.step_runs listed event
    rcases moved with same | ⟨env, rfl, ownerId, comes⟩
    · exact same
    · rw [idle b listed] at comes
      cases comes
  exact turn_none (idle _ stays) sdk env

end Runs

end Backfill

theorem HomeWritten.accepted {env : Env} {ownerId : String} {write : HomeWrite}
    {proposed : Registry} {t t' : Tables} (made : HomeWritten sdk env ownerId t write proposed t')
    (contract : sdk.RegistryContract) (checks : sdk.ChecksRegistries) (integrity : t.Integrity)
    (sound : t.home.Sound sdk) (fresh : ¬ t.HasEvent (env.event 0)) : t'.Integrity := by
  have inner := made.integrity contract checks integrity.home sound
  obtain ⟨change, target, edit, written⟩ := made.registry
  obtain ⟨home, rfl⟩ := written.rest
  have moved : (t.mapHome (fun _ => home)).Integrity := { integrity with home := inner }
  exact (moved.addFact_iff _ _).mpr fresh

theorem Backfill.turn_goes_on {b : Backfill} {number : Nat} {ownerId : String} {env : Env}
    (contract : sdk.RegistryContract) (checks : sdk.ChecksRegistries)
    (accepted : sdk.validateRegistry { sdk.apartmentSample with revision := 1 } = .ok ())
    (sound : b.db.tables.home.Sound sdk) (fresh : ¬ b.db.tables.HasEvent (env.event 0))
    (comes : b.turnOf number = some ownerId) :
    ∃ run', (b.turn sdk env number).runs number = some run' ∧ run'.raised = none ∧
      (b.runs number).map (fun run => run.remaining.tail) = some run'.remaining := by
  obtain ⟨run, listed, unraised, remaining, turned⟩ := turn_of comes sdk env
  have later : (b.runs number).map (fun run => run.remaining.tail) = some run.remaining.tail := by
    rw [listed]
    rfl
  rcases turn_cases comes sdk env with ⟨-, skips, -⟩ | ⟨known, unwritten, -⟩
  · rw [skips, later]
    refine ⟨{ run with remaining := run.remaining.tail }, ?_, unraised, rfl⟩
    simp only [passOver, listed, Option.map_some, Function.update_self]
  · have stored := b.db.property.home.stored ownerId
    cases ran : (load sdk env ownerId).run b.db.tables with
    | error error =>
        exact (load_runs checks accepted (sound ownerId) stored known unwritten error ran).elim
    | ok finished =>
        obtain ⟨proposed, t⟩ := finished
        have made := (HomeWrite.session_onward sdk env ownerId .initializeDefault).runs b.db.tables
          proposed t ran
        have accepts := made.accepted contract checks b.db.property sound fresh
        have transacted : b.db.transact (load sdk env ownerId) = .ok (proposed, ⟨t, accepts⟩) :=
          Database.transact_ok_iff.mpr ran
        rw [turned, transacted, later]
        refine ⟨run.note (.ok (proposed, (⟨t, accepts⟩ : Database))), ?_, unraised, rfl⟩
        exact Function.update_self _ _ _

end Runs

/-- A turn that comes to a written home leaves every row as it is and its run
goes on; after a run each Owner it found active who has stayed has a written
home; a second run with no Owner created in between finds nobody; two turns
for one Owner, of whichever runs, both load the sample only if the Owner's row
was gone in between; and no turn that draws a fresh event id ends its run. -/
theorem default_homes_idempotent (sdk : Sdk) (events : List BackfillEvent) :
    let b := Backfill.play sdk events .empty
    (∀ number env ownerId, b.turnOf number = some ownerId → 1 ≤ b.revision ownerId →
      b.turn sdk env number = b.passOver number) ∧
    (∀ number, b.runs number = none → ∀ later,
      let ended := Backfill.play sdk later (b.list number)
      ended.Finished number →
      (∀ ownerId, b.Active ownerId →
        Throughout (Backfill.step sdk) (fun b => b.Stores ownerId) later (b.list number) →
        1 ≤ ended.revision ownerId) ∧
      (Stepwise (Backfill.step sdk) Backfill.NoneCreated later (b.list number) →
        ∀ second, ended.runs second = none →
        (ended.list second).runs second = some { remaining := [] } ∧
        (ended.list second).Finished second ∧
        ∀ after env, (Backfill.play sdk after (ended.list second)).turn sdk env second =
          Backfill.play sdk after (ended.list second))) ∧
    (∀ number env ownerId, b.Initializes sdk env number ownerId → ∀ later,
      Throughout (Backfill.step sdk) (fun b => b.Stores ownerId) later (b.turn sdk env number) →
      ∀ other env',
        ¬ (Backfill.play sdk later (b.turn sdk env number)).Initializes sdk env' other ownerId) ∧
    (sdk.RegistryContract → sdk.ChecksRegistries →
      sdk.validateRegistry { sdk.apartmentSample with revision := 1 } = .ok () →
      ∀ number env ownerId, b.turnOf number = some ownerId →
        ¬ b.db.tables.HasEvent (env.event 0) →
        ∃ run', (b.turn sdk env number).runs number = some run' ∧ run'.raised = none ∧
          (b.runs number).map (fun run => run.remaining.tail) = some run'.remaining) := by
  intro b
  refine ⟨?_, ?_, ?_, ?_⟩
  · intro number env ownerId comes written
    exact (Backfill.turn_written comes written env).1
  · intro number unlisted later ended finished
    refine ⟨fun ownerId active stays => Backfill.finished_written unlisted finished active stays,
      ?_⟩
    intro noneCreated second unlistedSecond
    have none := Backfill.second_finds_none unlisted finished noneCreated
    have listed : (ended.list second).runs second = some { remaining := [] } := by
      simp only [Backfill.list, unlistedSecond, Function.update_self]
      exact congrArg some
        (congrArg (fun remaining => ({ remaining := remaining } : DefaultRun)) none)
    exact ⟨listed, ⟨_, listed, rfl, rfl⟩, Backfill.turn_of_nobody listed⟩
  · intro number env ownerId first later stays other env' again
    have written := Backfill.revision_stays stays (Backfill.revision_of_initializes first)
    obtain ⟨comes, reply, transacted⟩ := again
    exact (Backfill.turn_written comes written env').2 reply transacted
  · intro contract checks accepted number env ownerId comes fresh
    obtain ⟨calls, played⟩ : ∃ calls, b.db = replay sdk calls .empty :=
      Backfill.play_db events .empty
    have sound : b.db.tables.home.Sound sdk := by
      rw [played]
      exact homes_sound contract calls
    exact Backfill.turn_goes_on contract checks accepted sound fresh comes

/-- An Owner without a home, and two runs that list her. -/
def racingBackfills : List BackfillEvent :=
  (numbered [.createOwner "amy" "Amy" "person" none none]).map .call ++ [.list 0, .list 1]

def backfillEnv : Env := { uuid := fun site => .ofNat (1024 + site), now := 2 }

/-- The first turn writes her home, and the other run passes it over. -/
theorem default_homes_idempotent_race :
    let b := Backfill.play .checking racingBackfills .empty
    let first := b.turn .checking backfillEnv 0
    b.Initializes .checking backfillEnv 0 "amy" ∧ first.Finished 0 ∧ first.turnOf 1 = some "amy" ∧
      first.turn .checking backfillEnv 1 = first.passOver 1 ∧
      ¬ first.Initializes .checking backfillEnv 1 "amy" := by
  intro b first
  have comes : b.turnOf 0 = some "amy" := by decide +kernel
  have transacted : (b.db.transact (Backfill.load .checking backfillEnv "amy")).toOption.isSome =
      true := by
    decide +kernel
  have initializes : b.Initializes .checking backfillEnv 0 "amy" := by
    obtain ⟨reply, replied⟩ := Option.isSome_iff_exists.mp transacted
    exact ⟨comes, reply, Tx.ok_of_toOption replied⟩
  have finished : first.runs 0 = some { remaining := [], initialized := 1 } := by decide +kernel
  have waits : first.turnOf 1 = some "amy" := by decide +kernel
  have written : 1 ≤ first.revision "amy" := by decide +kernel
  have stored : first.db.tables.workspace.owners.has "amy" = true := by decide +kernel
  obtain ⟨-, -, once, -⟩ := default_homes_idempotent .checking racingBackfills
  obtain ⟨skips, -⟩ := default_homes_idempotent .checking (racingBackfills ++ [.turn 0 backfillEnv])
  refine ⟨initializes, ⟨_, finished, rfl, rfl⟩, waits, ?_, ?_⟩
  · have same : Backfill.play .checking (racingBackfills ++ [.turn 0 backfillEnv]) .empty = first :=
      List.foldl_append
    rw [same] at skips
    exact skips 1 backfillEnv "amy" waits written
  · exact once 0 backfillEnv "amy" initializes [] stored 1 backfillEnv

end EidolonData
