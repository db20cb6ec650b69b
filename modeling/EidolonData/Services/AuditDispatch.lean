import Mathlib.Algebra.Group.Int.Defs
import Mathlib.Logic.Function.Basic
import EidolonData.Services.AuditOutbox

/-!
# Dispatching the outbox

A round of `dispatch_once` fetches a batch, hands it to the publisher and
records the outcome, each in a transaction of its own, so that other rounds,
enqueues and purges come in between.  A round may also be abandoned at any
point, by a cancellation or a failed commit.
-/

namespace EidolonData

open Relational

/-- How an `AuditOutboxDispatcher` is set up, its delays in microseconds. -/
structure Dispatcher where
  batchSize : Nat := 200
  retryBase : Int := 1000000
  retryMax : Int := 60000000
  deriving DecidableEq, Repr

/-- `_retry_delay`. -/
def retryDelay (attemptCount : Nat) (base maximum : Int) : Int :=
  min (base * 2 ^ min attemptCount 16) maximum

def PendingAuditBatch.ids (batch : PendingAuditBatch) : List String :=
  batch.events.map (fun event => event.eventId)

/-- Where a dispatcher stands between the transactions of a round. -/
inductive Round where
  | idle
  /-- The publisher has the batch. -/
  | publishing (batch : PendingAuditBatch)
  /-- The publisher raised. -/
  | raised (batch : PendingAuditBatch) (error : String)
  /-- The publisher returned the event ids it acknowledges. -/
  | returned (batch : PendingAuditBatch) (acknowledged : List String)
  /-- The acknowledged events are marked, and these are not among them. -/
  | incomplete (batch : PendingAuditBatch) (missing : List String)
  deriving DecidableEq, Repr

/-- The outbox and the rounds of its dispatchers. -/
structure Delivery (ι : Type) where
  outbox : Table AuditOutboxRow
  rounds : ι → Round

inductive DeliveryEvent (ι : Type) where
  /-- A fact is committed, by `enqueue` or in the transaction of a command. -/
  | enqueue (now : Timestamp) (fact : AuditFact)
  | fetch (dispatcher : ι) (now : Timestamp)
  /-- `publish_many` returns. -/
  | acknowledge (dispatcher : ι) (acknowledged : List String)
  /-- `publish_many` raises. -/
  | refuse (dispatcher : ι) (error : String)
  /-- The next `mark_published` or `mark_failed` of a round. -/
  | mark (dispatcher : ι) (now : Timestamp)
  | abandon (dispatcher : ι)
  /-- `purge_expired_audit`. -/
  | purge (now : Timestamp) (retention : Int)

namespace Delivery

variable {ι : Type} [DecidableEq ι]

/-- No row, and no round. -/
def start : Delivery ι := { outbox := ∅, rounds := fun _ => .idle }

def setRound (d : Delivery ι) (dispatcher : ι) (round : Round) : Delivery ι :=
  { d with rounds := Function.update d.rounds dispatcher round }

/-- The outbox after a fact is committed or refused. -/
def stored (d : Delivery ι) (now : Timestamp) (fact : AuditFact) : Table AuditOutboxRow :=
  match enqueue d.outbox now fact with
  | .ok outbox => outbox
  | .error _ => d.outbox

/-- `pending_batch`, with which a round begins; an empty one ends it. -/
def fetch (config : ι → Dispatcher) (d : Delivery ι) (dispatcher : ι) (now : Timestamp) :
    Delivery ι :=
  match d.rounds dispatcher with
  | .idle =>
      let batch := pendingBatch d.outbox now (config dispatcher).batchSize
      if batch.events = [] then d else d.setRound dispatcher (.publishing batch)
  | _ => d

/-- The outcome of `publish_many`. -/
def publish (d : Delivery ι) (dispatcher : ι) (outcome : PendingAuditBatch → Round) : Delivery ι :=
  match d.rounds dispatcher with
  | .publishing batch => d.setRound dispatcher (outcome batch)
  | _ => d

/-- The delay before the events of a batch are due again. -/
def retryAfter (config : Dispatcher) (batch : PendingAuditBatch) : Int :=
  retryDelay batch.maxAttemptCount config.retryBase config.retryMax

/-- The transaction with which a round records its outcome. -/
def mark (config : ι → Dispatcher) (d : Delivery ι) (dispatcher : ι) (now : Timestamp) :
    Delivery ι :=
  match d.rounds dispatcher with
  | .raised batch error =>
      let delay := retryAfter (config dispatcher) batch
      let outbox := markFailed d.outbox batch.ids error delay now
      { d with outbox := outbox }.setRound dispatcher .idle
  | .returned batch acknowledged =>
      let confirmed := acknowledged.filter (fun eventId => eventId ∈ batch.ids)
      let missing := batch.ids.filter (fun eventId => eventId ∉ confirmed)
      let outbox := markPublished d.outbox confirmed now
      { d with outbox := outbox }.setRound dispatcher
        (if missing = [] then .idle else .incomplete batch missing)
  | .incomplete batch missing =>
      let delay := retryAfter (config dispatcher) batch
      let outbox := markFailed d.outbox missing "transport did not acknowledge event" delay now
      { d with outbox := outbox }.setRound dispatcher .idle
  | _ => d

def step (config : ι → Dispatcher) (d : Delivery ι) : DeliveryEvent ι → Delivery ι
  | .enqueue now fact => { d with outbox := d.stored now fact }
  | .fetch dispatcher now => d.fetch config dispatcher now
  | .acknowledge dispatcher acknowledged =>
      d.publish dispatcher (fun batch => .returned batch acknowledged)
  | .refuse dispatcher error => d.publish dispatcher (fun batch => .raised batch error)
  | .mark dispatcher now => d.mark config dispatcher now
  | .abandon dispatcher => d.setRound dispatcher .idle
  | .purge now retention => { d with outbox := purgePublished d.outbox (now - retention) }

def play (config : ι → Dispatcher) (events : List (DeliveryEvent ι)) (d : Delivery ι) :
    Delivery ι :=
  events.foldl (step config) d

end Delivery

end EidolonData
