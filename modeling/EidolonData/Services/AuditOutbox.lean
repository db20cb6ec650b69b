import EidolonData.Library.Ordering
import EidolonData.Services.Session

/-!
# The audit outbox repository

What the transport, the retention and the Owner's history do with the outbox.
Each function is one transaction; a dispatch round is three of them.
-/

namespace EidolonData

open Relational

/-- `AuditEnvelope`. -/
structure AuditEnvelope extends AuditFact where
  producerSeq : Int
  deriving DecidableEq, Repr

/-- `_envelope`. -/
def envelope (row : AuditOutboxRow) : AuditEnvelope :=
  { toAuditFact := row.fact
    producerSeq := row.outboxId }

/-- `OwnerGovernancePage`. -/
structure OwnerGovernancePage where
  events : List AuditEnvelope
  nextSequence : Option Int
  deriving DecidableEq, Repr

/-- `PendingAuditBatch`. -/
structure PendingAuditBatch where
  events : List AuditEnvelope
  maxAttemptCount : Nat
  deriving DecidableEq, Repr

section Repository

variable (outbox : Table AuditOutboxRow)

/-- `enqueue`; the `UNIQUE` constraint refuses an event id that is stored. -/
def enqueue (now : Timestamp) (fact : AuditFact) : Except Error (Table AuditOutboxRow) :=
  if outbox.rows.any (fun row => row.fact.eventId = fact.eventId) then .error .integrityError
  else
    .ok (outbox.insert
      { outboxId := nextOutboxId outbox
        fact := fact
        nextAttemptAt := now })

/-- An Owner's governance events. -/
def governanceEvents (ownerId : String) : List AuditOutboxRow :=
  outbox.select (fun row => row.fact.ownerId = some ownerId && row.fact.category = .governance)

/-- Newest first. -/
def governanceColumn (row : AuditOutboxRow) : Intᵒᵈ := OrderDual.toDual row.outboxId

/-- `list_for_owner`. -/
def listForOwner (ownerId : String) (limit : Nat) (beforeSequence : Option Int) :
    OwnerGovernancePage :=
  let capped := max 1 (min limit 100)
  let rows := (orderBy governanceColumn (outbox.select (fun row =>
    row.fact.ownerId = some ownerId && row.fact.category = .governance &&
      beforeSequence.all (fun before => row.outboxId < before)))).take (capped + 1)
  let page := rows.take capped
  { events := page.map envelope
    nextSequence :=
      if capped < rows.length then page.getLast?.map (fun row => row.outboxId) else none }

/-- `pending_batch`. -/
def pendingBatch (now : Timestamp) (limit : Nat) : PendingAuditBatch :=
  let rows := (orderBy (fun row => row.outboxId) (outbox.select (fun row =>
    row.publishedAt.isNone && row.nextAttemptAt ≤ now))).take limit
  { events := rows.map envelope
    maxAttemptCount := (rows.map (fun row => row.attemptCount)).foldl max 0 }

/-- An unpublished row of one of the events. -/
def AuditOutboxRow.isUnpublished (row : AuditOutboxRow) (eventIds : List String) : Bool :=
  row.fact.eventId ∈ eventIds && row.publishedAt.isNone

/-- `mark_published`. -/
def markPublished (eventIds : List String) (now : Timestamp) : Table AuditOutboxRow :=
  outbox.update
    (fun row =>
      if row.isUnpublished eventIds then { row with publishedAt := some now, lastError := "" }
      else row)
    (by intro row; split <;> rfl)

/-- `mark_failed`. -/
def markFailed (eventIds : List String) (error : String) (retryAfter : Int) (now : Timestamp) :
    Table AuditOutboxRow :=
  outbox.update
    (fun row =>
      if row.isUnpublished eventIds then
        { row with
          attemptCount := row.attemptCount + 1
          lastError := String.ofList (error.toList.take 2000)
          nextAttemptAt := now + retryAfter }
      else row)
    (by intro row; split <;> rfl)

/-- `purge_published`. -/
def purgePublished (before : Timestamp) : Table AuditOutboxRow :=
  outbox.retain (fun row => row.publishedAt.all (fun published => before ≤ published))

end Repository

end EidolonData
