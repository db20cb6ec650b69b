import Mathlib.Logic.Function.Basic
import EidolonData.Commands

/-!
# The backfill of default homes

`initialize_default_homes` lists the Owners whose home nobody has written and
then loads the packaged sample for one of them after another, each in a
transaction of its own.  Other commands, and other runs of the same backfill,
come in between.
-/

namespace EidolonData

open Relational

/-- A run of `initialize_default_homes` after its query: the Owners whose turn
is still to come, the homes it has initialized, and the error that ended it. -/
structure DefaultRun where
  remaining : List String
  initialized : Nat := 0
  raised : Option Error := none
  deriving DecidableEq, Repr

/-- `except (SmartHomeRegistryConflict, SmartHomeRegistryNotFound)`. -/
def Error.passedOver : Error → Bool
  | smartHomeRegistryConflict _ _ => true
  | smartHomeRegistryNotFound _ => true
  | _ => false

/-- The Owner whose turn it is. -/
def DefaultRun.next? (run : DefaultRun) : Option String :=
  match run.raised with
  | some _ => none
  | none => run.remaining.head?

/-- What the loop makes of the outcome of one `load_sample`. -/
def DefaultRun.note {α : Type} (run : DefaultRun) : Except Error α → DefaultRun
  | .ok _ =>
      { run with
        remaining := run.remaining.tail
        initialized := run.initialized + 1 }
  | .error error =>
      if error.passedOver then { run with remaining := run.remaining.tail }
      else { run with raised := some error }

/-- The loop came to its end. -/
def DefaultRun.Finished (run : DefaultRun) : Prop := run.remaining = [] ∧ run.raised = none

/-- A database with the runs of the backfill that have listed their Owners. -/
structure Backfill where
  db : Database
  runs : Nat → Option DefaultRun

inductive BackfillEvent where
  /-- A command of somebody else. -/
  | call (call : Call)
  /-- The query of a run. -/
  | list (number : Nat)
  /-- The next turn of a run. -/
  | turn (number : Nat) (env : Env)

namespace Backfill

/-- No row, and no run. -/
def empty : Backfill := { db := .empty, runs := fun _ => none }

/-- The Owner to whom the next turn of a run comes. -/
def turnOf (b : Backfill) (number : Nat) : Option String := (b.runs number).bind DefaultRun.next?

/-- The query of a run, unless it has listed its Owners already. -/
def list (b : Backfill) (number : Nat) : Backfill :=
  match b.runs number with
  | some _ => b
  | none =>
      let listed : DefaultRun := { remaining := defaultHomeCandidates b.db.tables }
      { b with runs := Function.update b.runs number (some listed) }

/-- The transaction of one turn. -/
def load (sdk : Sdk) (env : Env) (ownerId : String) : Session Registry :=
  loadSample sdk env ownerId "apartment" 0

def turn (sdk : Sdk) (env : Env) (b : Backfill) (number : Nat) : Backfill :=
  match b.runs number, b.turnOf number with
  | some run, some ownerId =>
      let outcome := b.db.transact (load sdk env ownerId)
      { db := b.db.after (load sdk env ownerId)
        runs := Function.update b.runs number (some (run.note outcome)) }
  | _, _ => b

def step (sdk : Sdk) (b : Backfill) : BackfillEvent → Backfill
  | .call call => { b with db := call.step sdk b.db }
  | .list number => b.list number
  | .turn number env => b.turn sdk env number

def play (sdk : Sdk) (events : List BackfillEvent) (b : Backfill) : Backfill :=
  events.foldl (step sdk) b

end Backfill

end EidolonData
