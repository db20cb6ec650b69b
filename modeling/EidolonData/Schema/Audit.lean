import EidolonData.Python
import EidolonData.Schema.Workspace

/-!
# The audit outbox

The authority-local hand-off to the global audit index, and the constructor
of the governance facts the services add to it in their own transaction.
-/

namespace EidolonData

open Relational

inductive AuditCategory where
  | governance
  | receipt
  deriving DecidableEq, Repr

inductive AuditOutcome where
  | success
  | failure
  | denied
  | deferred
  deriving DecidableEq, Repr

inductive AuditSeverity where
  | info
  | warn
  | error
  | critical
  deriving DecidableEq, Repr

/-- A row of the outbox before the database has numbered it. -/
structure AuditFact where
  eventId : String
  producer : String
  category : AuditCategory
  ownerId : Option String
  subjectType : String
  subjectId : String
  action : String
  outcome : AuditOutcome := .success
  severity : AuditSeverity := .info
  reason : Option String := none
  traceId : Option String := none
  dataClassification : String := "safe"
  schemaVersion : Int := 1
  payloadJson : JsonDict := []
  occurredAt : Timestamp
  deriving DecidableEq, Repr

structure AuditOutboxRow where
  outboxId : Int
  fact : AuditFact
  publishedAt : Option Timestamp := none
  attemptCount : Nat := 0
  nextAttemptAt : Timestamp
  lastError : String := ""
  deriving DecidableEq, Repr

instance : HasKey AuditOutboxRow Int := ⟨AuditOutboxRow.outboxId⟩

/-- `governance_fact`: one outbox row for insertion in the caller's domain
transaction; `uuid` is the `uuid4()` behind an event id the caller does not
choose. -/
def governanceFact (uuid : Uuid) (now : Timestamp) (ownerId subjectType subjectId
    action : String) (payload : JsonDict := []) (eventId : Option String := none)
    (outcome : AuditOutcome := .success) (traceId : Option String := none) : AuditFact :=
  { eventId := orDefault eventId ("audit-" ++ uuid.hex)
    producer := "eidolon-system-data"
    category := .governance
    ownerId := some ownerId
    subjectType := subjectType
    subjectId := subjectId
    action := action
    outcome := outcome
    traceId := traceId
    payloadJson := payload
    occurredAt := now }

/-- The id an `INTEGER PRIMARY KEY` gives to the next row. -/
def nextOutboxId (outbox : Table AuditOutboxRow) : Int :=
  1 + outbox.rows.foldl (fun highest row => max highest row.outboxId) 0

end EidolonData
