import EidolonData.Effects.Integrity
import EidolonData.Library.Runs
import EidolonData.Services.AuditDispatch

/-!
# Delivery of audit events

Only a purge removes a row of the outbox, and only a round whose publisher
acknowledged its event publishes it; a failure is counted as long as the event
is not published.
-/

namespace EidolonData

open Relational

namespace Delivery

variable {ι : Type} [DecidableEq ι]

/-- The events whose rows the next event of a run marks as published. -/
def confirms (d : Delivery ι) : DeliveryEvent ι → List String
  | .mark dispatcher _ =>
      match d.rounds dispatcher with
      | .returned batch acknowledged => acknowledged.filter (fun eventId => eventId ∈ batch.ids)
      | _ => []
  | _ => []

/-- The events for which it records a failure. -/
def fails (d : Delivery ι) : DeliveryEvent ι → List String
  | .mark dispatcher _ =>
      match d.rounds dispatcher with
      | .raised batch _ => batch.ids
      | .incomplete _ missing => missing
      | _ => []
  | _ => []

def Enqueues (d : Delivery ι) (fact : AuditFact) : Prop :=
  ∀ row ∈ d.outbox.rows, row.fact.eventId ≠ fact.eventId

instance (d : Delivery ι) (fact : AuditFact) : Decidable (d.Enqueues fact) :=
  inferInstanceAs (Decidable (∀ row ∈ d.outbox.rows, _))

end Delivery

structure AuditOutboxRow.Follows (confirmed failed : List String) (old new : AuditOutboxRow) :
    Prop where
  fact : new.fact = old.fact
  published : new.publishedAt = old.publishedAt ∨
    (old.publishedAt = none ∧ old.fact.eventId ∈ confirmed ∧ new.publishedAt ≠ none)
  attempts : new.attemptCount = old.attemptCount +
    if old.publishedAt = none ∧ old.fact.eventId ∈ failed then 1 else 0

theorem AuditOutboxRow.Follows.refl (row : AuditOutboxRow) : row.Follows [] [] row := by
  refine { fact := rfl, published := .inl rfl, attempts := ?_ }
  simp

section Rows

variable {outbox : Table AuditOutboxRow} {id : Int} {row : AuditOutboxRow}

theorem AuditOutboxRow.isUnpublished_iff {eventIds : List String} :
    row.isUnpublished eventIds = true ↔
      row.publishedAt = none ∧ row.fact.eventId ∈ eventIds := by
  simp [AuditOutboxRow.isUnpublished, and_comm]

theorem markPublished_row (eventIds : List String) (now : Timestamp)
    (found : outbox.get? id = some row) :
    ∃ new, (markPublished outbox eventIds now).get? id = some new ∧
      row.Follows eventIds [] new := by
  by_cases marked : row.isUnpublished eventIds = true
  · obtain ⟨unpublished, named⟩ := AuditOutboxRow.isUnpublished_iff.mp marked
    refine ⟨{ row with publishedAt := some now, lastError := "" }, ?_, ?_⟩
    · simp [markPublished, found, marked]
    · refine { fact := rfl, published := .inr ⟨unpublished, named, by rintro ⟨⟩⟩, attempts := ?_ }
      simp
  · refine ⟨row, by simp [markPublished, found, marked], ?_⟩
    refine { fact := rfl, published := .inl rfl, attempts := ?_ }
    simp

theorem markFailed_row (eventIds : List String) (error : String) (retryAfter : Int)
    (now : Timestamp) (found : outbox.get? id = some row) :
    ∃ new, (markFailed outbox eventIds error retryAfter now).get? id = some new ∧
      row.Follows [] eventIds new := by
  by_cases marked : row.isUnpublished eventIds = true
  · refine ⟨{ row with
      attemptCount := row.attemptCount + 1
      lastError := String.ofList (error.toList.take 2000)
      nextAttemptAt := now + retryAfter }, ?_, ?_⟩
    · simp [markFailed, found, marked]
    · refine { fact := rfl, published := .inl rfl, attempts := ?_ }
      rw [if_pos (AuditOutboxRow.isUnpublished_iff.mp marked)]
  · refine ⟨row, by simp [markFailed, found, marked], ?_⟩
    refine { fact := rfl, published := .inl rfl, attempts := ?_ }
    rw [if_neg (fun named => marked (AuditOutboxRow.isUnpublished_iff.mpr named))]
    rfl

end Rows

namespace Delivery

variable {ι : Type} [DecidableEq ι] {config : ι → Dispatcher} {d : Delivery ι} {id : Int}
  {row new : AuditOutboxRow}

@[simp] theorem outbox_setRound (dispatcher : ι) (round : Round) :
    (d.setRound dispatcher round).outbox = d.outbox := rfl

@[simp] theorem outbox_fetch (dispatcher : ι) (now : Timestamp) :
    (d.fetch config dispatcher now).outbox = d.outbox := by
  unfold fetch
  split
  · simp only
    split
    · rfl
    · rfl
  · rfl

@[simp] theorem outbox_publish (dispatcher : ι) (outcome : PendingAuditBatch → Round) :
    (d.publish dispatcher outcome).outbox = d.outbox := by
  unfold publish
  split
  · rfl
  · rfl

omit [DecidableEq ι] in
theorem stored_of_enqueues {now : Timestamp} {fact : AuditFact} (fresh : d.Enqueues fact) :
    d.stored now fact = d.outbox.insert
      { outboxId := nextOutboxId d.outbox, fact := fact, nextAttemptAt := now } := by
  have free : d.outbox.rows.any (fun row => row.fact.eventId = fact.eventId) = false := by
    simp only [List.any_eq_false, decide_eq_true_eq]
    exact fresh
  simp [stored, enqueue, free]

omit [DecidableEq ι] in
theorem get?_stored {now : Timestamp} {fact : AuditFact} (fresh : d.Enqueues fact) (id : Int) :
    (d.stored now fact).get? id = if id = nextOutboxId d.outbox then
      some { outboxId := nextOutboxId d.outbox, fact := fact, nextAttemptAt := now }
    else d.outbox.get? id := by
  rw [stored_of_enqueues fresh]
  exact Table.get?_insert (nextOutboxId_fresh d.outbox) id

omit [DecidableEq ι] in
theorem stored_of_taken {now : Timestamp} {fact : AuditFact} (taken : ¬ d.Enqueues fact) :
    d.stored now fact = d.outbox := by
  have found : d.outbox.rows.any (fun row => row.fact.eventId = fact.eventId) = true := by
    simpa [Enqueues] using taken
  simp [stored, enqueue, found]

theorem step_row (event : DeliveryEvent ι) (found : d.outbox.get? id = some row) :
    (∃ new, (d.step config event).outbox.get? id = some new ∧
      row.Follows (d.confirms event) (d.fails event) new) ∨
    (∃ now retention published, event = .purge now retention ∧
      row.publishedAt = some published ∧ published < now - retention ∧
      (d.step config event).outbox.get? id = none) := by
  cases event with
  | enqueue now fact =>
      left
      refine ⟨row, ?_, .refl row⟩
      by_cases fresh : d.Enqueues fact
      · have other : id ≠ nextOutboxId d.outbox := by
          rintro rfl
          rw [nextOutboxId_fresh] at found
          cases found
        simp only [step, get?_stored fresh, if_neg other]
        exact found
      · simp only [step, stored_of_taken fresh]
        exact found
  | fetch dispatcher now => exact .inl ⟨row, by simpa [step] using found, .refl row⟩
  | acknowledge dispatcher acknowledged =>
      exact .inl ⟨row, by simpa [step] using found, .refl row⟩
  | refuse dispatcher error => exact .inl ⟨row, by simpa [step] using found, .refl row⟩
  | abandon dispatcher => exact .inl ⟨row, by simpa [step] using found, .refl row⟩
  | mark dispatcher now =>
      left
      cases round : d.rounds dispatcher with
      | idle => exact ⟨row, by simpa [step, mark, round] using found, by
          simpa [confirms, fails, round] using AuditOutboxRow.Follows.refl row⟩
      | publishing => exact ⟨row, by simpa [step, mark, round] using found, by
          simpa [confirms, fails, round] using AuditOutboxRow.Follows.refl row⟩
      | raised batch error =>
          simp only [step, mark, round, confirms, fails, outbox_setRound]
          exact markFailed_row _ _ _ _ found
      | returned batch acknowledged =>
          simp only [step, mark, round, confirms, fails, outbox_setRound]
          exact markPublished_row _ _ found
      | incomplete batch missing =>
          simp only [step, mark, round, confirms, fails, outbox_setRound]
          exact markFailed_row _ _ _ _ found
  | purge now retention =>
      have kept : (d.step config (.purge now retention)).outbox.get? id =
          (some row).filter (fun row => row.publishedAt.all (fun published =>
            now - retention ≤ published)) := by
        simp only [step, purgePublished, Table.get?_retain, found]
      cases published : row.publishedAt with
      | none => exact .inl ⟨row, by rw [kept]; simp [published], .refl row⟩
      | some moment =>
          by_cases before : moment < now - retention
          · refine .inr ⟨now, retention, moment, rfl, rfl, before, ?_⟩
            have dropped : row.publishedAt.all (fun published =>
                now - retention ≤ published) = false := by
              rw [published]
              exact decide_eq_false (Int.not_le.mpr before)
            rw [kept, Option.filter_some, dropped]
            rfl
          · refine .inl ⟨row, ?_, .refl row⟩
            rw [kept]
            simpa [published] using before

theorem step_origin (event : DeliveryEvent ι)
    (found : (d.step config event).outbox.get? id = some new) :
    (∃ row, d.outbox.get? id = some row ∧
      row.Follows (d.confirms event) (d.fails event) new) ∨
    (∃ now fact, event = .enqueue now fact ∧ d.Enqueues fact ∧
      new = { outboxId := nextOutboxId d.outbox, fact := fact, nextAttemptAt := now }) := by
  cases before : d.outbox.get? id with
  | some row =>
      left
      rcases step_row event before with ⟨same, stays, follows⟩ |
        ⟨_, _, _, _, _, _, gone⟩
      · rw [found] at stays
        cases stays
        exact ⟨row, rfl, follows⟩
      · rw [found] at gone
        cases gone
  | none =>
      right
      have absent : (d.step config event).outbox.get? id = none → False := by
        intro none
        rw [found] at none
        cases none
      cases event with
      | enqueue now fact =>
          by_cases fresh : d.Enqueues fact
          · simp only [step, get?_stored fresh, before] at found
            split at found
            · cases found
              exact ⟨now, fact, rfl, fresh, rfl⟩
            · cases found
          · simp only [step, stored_of_taken fresh, before] at found
            cases found
      | fetch dispatcher now => exact (absent (by simpa [step] using before)).elim
      | acknowledge dispatcher acknowledged => exact (absent (by simpa [step] using before)).elim
      | refuse dispatcher error => exact (absent (by simpa [step] using before)).elim
      | abandon dispatcher => exact (absent (by simpa [step] using before)).elim
      | mark dispatcher now =>
          refine (absent ?_).elim
          cases round : d.rounds dispatcher with
          | _ => simp [step, mark, round, markFailed, markPublished, before]
      | purge now retention =>
          exact (absent (by simp [step, purgePublished, before])).elim

theorem play_snoc (events : List (DeliveryEvent ι)) (event : DeliveryEvent ι) :
    play config (events ++ [event]) d = (play config events d).step config event :=
  List.foldl_append

section Rounds

variable {dispatcher : ι} {batch : PendingAuditBatch} {acknowledged : List String}

theorem rounds_setRound (mover : ι) (round : Round) :
    (d.setRound mover round).rounds dispatcher =
      if dispatcher = mover then round else d.rounds dispatcher := by
  simp only [setRound, Function.update_apply]

/-- How a step leaves the round of a dispatcher. -/
inductive RoundMoved (config : ι → Dispatcher) (d : Delivery ι) (dispatcher : ι) :
    DeliveryEvent ι → Round → Prop where
  | same (event : DeliveryEvent ι) : RoundMoved config d dispatcher event (d.rounds dispatcher)
  | fetched (now : Timestamp) : RoundMoved config d dispatcher (.fetch dispatcher now)
      (.publishing (pendingBatch d.outbox now (config dispatcher).batchSize))
  | returned (batch : PendingAuditBatch) (acknowledged : List String)
      (had : d.rounds dispatcher = .publishing batch) :
      RoundMoved config d dispatcher (.acknowledge dispatcher acknowledged)
        (.returned batch acknowledged)
  | raised (event : DeliveryEvent ι) (batch : PendingAuditBatch) (error : String) :
      RoundMoved config d dispatcher event (.raised batch error)
  | incomplete (event : DeliveryEvent ι) (batch : PendingAuditBatch) (missing : List String) :
      RoundMoved config d dispatcher event (.incomplete batch missing)
  | idle (event : DeliveryEvent ι) : RoundMoved config d dispatcher event .idle

theorem step_round (config : ι → Dispatcher) (d : Delivery ι) (dispatcher : ι)
    (event : DeliveryEvent ι) :
    RoundMoved config d dispatcher event ((d.step config event).rounds dispatcher) := by
  have untouched : ∀ {mover : ι} {round : Round} {outbox : Table AuditOutboxRow},
      dispatcher ≠ mover → RoundMoved config d dispatcher event
        (({ d with outbox := outbox } : Delivery ι).setRound mover round |>.rounds dispatcher) := by
    intro mover round outbox other
    rw [rounds_setRound, if_neg other]
    exact .same event
  cases event with
  | enqueue now fact => exact .same _
  | purge now retention => exact .same _
  | abandon mover =>
      by_cases own : dispatcher = mover
      · rw [step, rounds_setRound, if_pos own]
        exact .idle _
      · exact untouched own
  | fetch mover now =>
      by_cases own : dispatcher = mover
      · subst own
        simp only [step, fetch]
        split
        · split
          · exact .same _
          · rw [rounds_setRound, if_pos rfl]
            exact .fetched now
        · exact .same _
      · simp only [step, fetch]
        split
        · split
          · exact .same _
          · exact untouched own
        · exact .same _
  | acknowledge mover acknowledged =>
      simp only [step, publish]
      split
      · next batch had =>
          by_cases own : dispatcher = mover
          · subst own
            rw [rounds_setRound, if_pos rfl]
            exact .returned batch acknowledged had
          · exact untouched own
      · exact .same _
  | refuse mover error =>
      simp only [step, publish]
      split
      · next batch had =>
          by_cases own : dispatcher = mover
          · subst own
            rw [rounds_setRound, if_pos rfl]
            exact .raised _ batch error
          · exact untouched own
      · exact .same _
  | mark mover now =>
      by_cases own : dispatcher = mover
      · subst own
        simp only [step, mark]
        split
        · rw [rounds_setRound, if_pos rfl]
          exact .idle _
        · rw [rounds_setRound, if_pos rfl]
          split
          · exact .idle _
          · exact .incomplete _ _ _
        · rw [rounds_setRound, if_pos rfl]
          exact .idle _
        · exact .same _
      · simp only [step, mark]
        split
        · exact untouched own
        · exact untouched own
        · exact untouched own
        · exact .same _

/-- A batch that is being published was fetched from the outbox, by this
dispatcher, and nothing has ended its round since. -/
theorem publishing_of_play (events : List (DeliveryEvent ι))
    (round : (play config events start).rounds dispatcher = .publishing batch) :
    ∃ before now between, events = before ++ .fetch dispatcher now :: between ∧
      batch = pendingBatch (play config before start).outbox now (config dispatcher).batchSize ∧
      Throughout (step config) (fun d => d.rounds dispatcher = .publishing batch) between
        (play config (before ++ [.fetch dispatcher now]) start) := by
  induction events using List.reverseRecOn with
  | nil => cases round
  | append_singleton events event induction =>
      rw [play_snoc] at round
      have moved := step_round config (play config events start) dispatcher event
      obtain ⟨after, held⟩ : ∃ after, after = Round.publishing batch := ⟨_, rfl⟩
      rw [round, ← held] at moved
      cases moved with
      | same =>
          obtain ⟨before, now, between, rfl, fetched, lasts⟩ := induction held
          refine ⟨before, now, between ++ [event], by simp, fetched, lasts.snoc ?_⟩
          simpa [play] using round
      | fetched now =>
          cases held
          refine ⟨events, now, [], rfl, rfl, ?_⟩
          show (play config (events ++ [_]) start).rounds dispatcher = _
          rw [play_snoc]
          exact round
      | returned | raised | incomplete | idle => cases held

theorem returned_of_play (events : List (DeliveryEvent ι))
    (round : (play config events start).rounds dispatcher = .returned batch acknowledged) :
    ∃ before between, events = before ++ .acknowledge dispatcher acknowledged :: between ∧
      (play config before start).rounds dispatcher = .publishing batch ∧
      Throughout (step config) (fun d => d.rounds dispatcher = .returned batch acknowledged) between
        (play config (before ++ [.acknowledge dispatcher acknowledged]) start) := by
  induction events using List.reverseRecOn with
  | nil => cases round
  | append_singleton events event induction =>
      rw [play_snoc] at round
      have moved := step_round config (play config events start) dispatcher event
      obtain ⟨after, held⟩ : ∃ after, after = Round.returned batch acknowledged := ⟨_, rfl⟩
      rw [round, ← held] at moved
      cases moved with
      | same =>
          obtain ⟨before, between, rfl, had, lasts⟩ := induction held
          refine ⟨before, between ++ [event], by simp, had, lasts.snoc ?_⟩
          simpa [play] using round
      | returned batch' acknowledged' had =>
          cases held
          refine ⟨events, [], rfl, had, ?_⟩
          show (play config (events ++ [_]) start).rounds dispatcher = _
          rw [play_snoc]
          exact round
      | fetched | raised | incomplete | idle => cases held

end Rounds

section Pending

variable {eventId : String}

theorem mem_pending {outbox : Table AuditOutboxRow} {now : Timestamp} {limit : Nat}
    (member : eventId ∈ (pendingBatch outbox now limit).ids) :
    ∃ row ∈ outbox.rows, row.fact.eventId = eventId ∧ row.publishedAt = none := by
  obtain ⟨event, fetched, rfl⟩ := List.mem_map.mp member
  obtain ⟨row, taken, rfl⟩ := List.mem_map.mp fetched
  obtain ⟨stored, due⟩ := List.mem_filter.mp (mem_orderBy.mp (List.mem_of_mem_take taken))
  rw [Bool.and_eq_true] at due
  exact ⟨row, stored, rfl, Option.isNone_iff_eq_none.mp due.1⟩

/-- No two rows are of one event. -/
def Apart (d : Delivery ι) : Prop :=
  ∀ id id' row row', d.outbox.get? id = some row → d.outbox.get? id' = some row' →
    row.fact.eventId = row'.fact.eventId → id = id'

theorem step_apart (event : DeliveryEvent ι) (apart : d.Apart) : (d.step config event).Apart := by
  intro id id' new new' found found' same
  have committed : ∀ {fact : AuditFact} {row : AuditOutboxRow} {id : Int}, d.Enqueues fact →
      d.outbox.get? id = some row → row.fact.eventId ≠ fact.eventId := by
    intro fact row id fresh stored
    exact fresh row (Table.mem_of_get? stored)
  rcases step_origin event found with ⟨row, stored, follows⟩ | ⟨now, fact, rfl, fresh, rfl⟩
  · rcases step_origin event found' with ⟨row', stored', follows'⟩ | ⟨now, fact, rfl, fresh, rfl⟩
    · apply apart id id' row row' stored stored'
      rw [← follows.fact, ← follows'.fact]
      exact same
    · rw [follows.fact] at same
      exact absurd same (committed fresh stored)
  · rcases step_origin _ found' with ⟨row', stored', follows'⟩ | ⟨_, _, held, _, rfl⟩
    · rw [follows'.fact] at same
      exact absurd same.symm (committed fresh stored')
    · have first : nextOutboxId d.outbox = id := Table.key_of_get? found
      have second : nextOutboxId d.outbox = id' := Table.key_of_get? found'
      exact first.symm.trans second

/-- The rows of an event are published. -/
def Delivered (d : Delivery ι) (eventId : String) : Prop :=
  ∀ id row, d.outbox.get? id = some row → row.fact.eventId = eventId → row.publishedAt ≠ none

theorem step_delivered (event : DeliveryEvent ι)
    (other : ∀ now fact, event = .enqueue now fact → d.Enqueues fact → fact.eventId ≠ eventId)
    (delivered : d.Delivered eventId) : (d.step config event).Delivered eventId := by
  intro id new found named
  rcases step_origin event found with ⟨row, stored, follows⟩ | ⟨now, fact, rfl, fresh, rfl⟩
  · rw [follows.fact] at named
    have published := delivered id row stored named
    rcases follows.published with same | ⟨unpublished, -, -⟩
    · rw [same]
      exact published
    · exact absurd unpublished published
  · exact absurd named (other now fact rfl fresh)

/-- A published event stays published until a new fact is committed under its
id. -/
theorem play_delivered (later : List (DeliveryEvent ι)) (d : Delivery ι)
    (delivered : d.Delivered eventId) :
    (play config later d).Delivered eventId ∨
    ∃ before now fact after, later = before ++ .enqueue now fact :: after ∧
      fact.eventId = eventId ∧ (play config before d).Enqueues fact := by
  induction later generalizing d with
  | nil => exact .inl delivered
  | cons event later induction =>
      have again : ∀ {d' : Delivery ι}, d' = d.step config event → d'.Delivered eventId →
          (play config (event :: later) d).Delivered eventId ∨
          ∃ before now fact after, event :: later = before ++ .enqueue now fact :: after ∧
            fact.eventId = eventId ∧ (play config before d).Enqueues fact := by
        intro d' same delivered
        subst same
        rcases induction _ delivered with stays | ⟨before, now, fact, after, split, named, fresh⟩
        · exact .inl stays
        · refine .inr ⟨event :: before, now, fact, after, ?_, named, fresh⟩
          rw [split, List.cons_append]
      by_cases committed : ∃ now fact, event = .enqueue now fact ∧ fact.eventId = eventId ∧
          d.Enqueues fact
      · obtain ⟨now, fact, rfl, named, fresh⟩ := committed
        exact .inr ⟨[], now, fact, later, rfl, named, fresh⟩
      · apply again rfl
        apply step_delivered event _ delivered
        intro now fact same fresh named
        exact committed ⟨now, fact, same, named, fresh⟩

end Pending

section Failures

variable (config) (eventId : String)

def commits (d : Delivery ι) : DeliveryEvent ι → Bool
  | .enqueue _ fact => fact.eventId = eventId && decide (d.Enqueues fact)
  | _ => false

/-- The failures recorded for an event since its fact was committed. -/
def tally (state : Delivery ι × Nat) (event : DeliveryEvent ι) : Delivery ι × Nat :=
  (state.1.step config event,
    if state.1.commits eventId event then 0
    else if eventId ∈ state.1.fails event then state.2 + 1 else state.2)

def failures (events : List (DeliveryEvent ι)) : Nat :=
  (events.foldl (tally config eventId) (start, 0)).2

theorem foldl_tally (events : List (DeliveryEvent ι)) (state : Delivery ι × Nat) :
    (events.foldl (tally config eventId) state).1 = play config events state.1 := by
  induction events generalizing state with
  | nil => rfl
  | cons event events induction => exact induction _

def Counted (eventId : String) (state : Delivery ι × Nat) : Prop :=
  ∀ id row, state.1.outbox.get? id = some row → row.fact.eventId = eventId →
    row.publishedAt = none → row.attemptCount = state.2

theorem tally_counted (state : Delivery ι × Nat) (event : DeliveryEvent ι)
    (counted : Counted eventId state) : Counted eventId (tally config eventId state event) := by
  intro id new found named unpublished
  rcases step_origin event found with ⟨row, stored, follows⟩ | ⟨now, fact, rfl, fresh, rfl⟩
  · rw [follows.fact] at named
    have pending : row.publishedAt = none := by
      rcases follows.published with same | ⟨before, -, -⟩
      · exact same.symm.trans unpublished
      · exact before
    have before := counted id row stored named pending
    have taken : state.1.commits eventId event = false := by
      cases event with
      | enqueue now fact =>
          simp only [commits, Bool.and_eq_false_iff, decide_eq_false_iff_not]
          by_cases same : fact.eventId = eventId
          · right
            intro fresh
            exact fresh row (Table.mem_of_get? stored) (named.trans same.symm)
          · left
            simpa using same
      | _ => rfl
    have attempts := follows.attempts
    rw [named] at attempts
    simp only [tally, taken, Bool.false_eq_true, if_false]
    by_cases failed : eventId ∈ state.1.fails event
    · rw [if_pos failed]
      rw [if_pos ⟨pending, failed⟩] at attempts
      omega
    · rw [if_neg failed]
      rw [if_neg (fun both => failed both.2)] at attempts
      omega
  · have committed : state.1.commits eventId (.enqueue now fact) = true := by
      simp only [commits, Bool.and_eq_true, decide_eq_true_eq]
      exact ⟨named, fresh⟩
    simp only [tally, committed, if_true]

end Failures

/-- The event of a row has been acknowledged: this dispatcher fetched it while
it was not published, its publisher returned it, and the round is at hand. -/
structure Acknowledged (config : ι → Dispatcher) (events : List (DeliveryEvent ι))
    (dispatcher : ι) (batch : PendingAuditBatch) (acknowledged : List String) : Prop where
  fetched : ∃ before now between, events = before ++ .fetch dispatcher now :: between ∧
    batch = pendingBatch (play config before start).outbox now (config dispatcher).batchSize
  returned : ∃ before between, events = before ++ .acknowledge dispatcher acknowledged :: between ∧
    (play config before start).rounds dispatcher = .publishing batch ∧
    Throughout (step config) (fun d => d.rounds dispatcher = .returned batch acknowledged) between
      (play config (before ++ [.acknowledge dispatcher acknowledged]) start)

theorem acknowledged_of_confirms (events : List (DeliveryEvent ι)) (event : DeliveryEvent ι)
    {eventId : String} (confirmed : eventId ∈ (play config events start).confirms event) :
    ∃ dispatcher now batch acknowledged, event = .mark dispatcher now ∧
      eventId ∈ acknowledged ∧ eventId ∈ batch.ids ∧
      Acknowledged config events dispatcher batch acknowledged := by
  cases event with
  | mark dispatcher now =>
      simp only [confirms] at confirmed
      split at confirmed
      · next batch acknowledged round =>
          obtain ⟨returned, sent⟩ := List.mem_filter.mp confirmed
          refine ⟨dispatcher, now, batch, acknowledged, rfl, returned, of_decide_eq_true sent, ?_⟩
          have answered := returned_of_play events round
          obtain ⟨before, between, rfl, had, lasts⟩ := answered
          obtain ⟨earlier, moment, since, rfl, fetched, -⟩ := publishing_of_play before had
          refine
            { fetched := ⟨earlier, moment, ?_, ?_, fetched⟩
              returned := ⟨_, between, rfl, had, lasts⟩ }
          · exact since ++ .acknowledge dispatcher acknowledged :: between
          · simp
      · cases confirmed
  | _ => cases confirmed

end Delivery

open Delivery in
/-- A fact is stored unless its event is; its row leaves the outbox only in a
purge, published before its cutoff; it is published once, by a round whose
publisher acknowledged its event; a published event is not pending again, unless
a new fact is committed under its id; and the attempts of an unpublished event
are the failures recorded for it. -/
theorem audit_events_kept {ι : Type} [DecidableEq ι] (config : ι → Dispatcher)
    (events : List (DeliveryEvent ι)) :
    let d := play config events start
    (∀ now fact, (d.Enqueues fact → ∃ row,
        (d.step config (.enqueue now fact)).outbox.get? (nextOutboxId d.outbox) = some row ∧
          row.fact = fact ∧ row.publishedAt = none ∧ row.attemptCount = 0) ∧
      (¬ d.Enqueues fact → d.step config (.enqueue now fact) = d)) ∧
    (∀ event id row, d.outbox.get? id = some row →
      (∃ new, (d.step config event).outbox.get? id = some new ∧ new.fact = row.fact ∧
        (new.publishedAt = row.publishedAt ∨ (row.publishedAt = none ∧
          ∃ dispatcher now batch acknowledged, event = .mark dispatcher now ∧
            row.fact.eventId ∈ acknowledged ∧ row.fact.eventId ∈ batch.ids ∧
            Acknowledged config events dispatcher batch acknowledged))) ∨
      (∃ now retention published, event = .purge now retention ∧
        row.publishedAt = some published ∧ published < now - retention)) ∧
    (∀ event id new, (d.step config event).outbox.get? id = some new →
      (∃ row, d.outbox.get? id = some row) ∨ new.publishedAt = none) ∧
    (∀ now limit eventId, eventId ∈ (pendingBatch d.outbox now limit).ids →
      ∃ row ∈ d.outbox.rows, row.fact.eventId = eventId ∧ row.publishedAt = none) ∧
    (∀ id row, d.outbox.get? id = some row → row.publishedAt ≠ none → ∀ later now limit,
      row.fact.eventId ∈ (pendingBatch (play config later d).outbox now limit).ids →
      ∃ before moment fact after, later = before ++ .enqueue moment fact :: after ∧
        fact.eventId = row.fact.eventId ∧ (play config before d).Enqueues fact) ∧
    (∀ id row, d.outbox.get? id = some row → row.publishedAt = none →
      row.attemptCount = failures config row.fact.eventId events) := by
  intro d
  have apart : d.Apart := by
    apply foldl_preserves (fun state event kept => step_apart event kept) events
    intro id id' row row' found
    cases found
  refine ⟨?_, ?_, ?_, ?_, ?_, ?_⟩
  · intro now fact
    constructor
    · intro fresh
      refine ⟨{ outboxId := nextOutboxId d.outbox, fact := fact, nextAttemptAt := now }, ?_, rfl,
        rfl, rfl⟩
      rw [step, get?_stored fresh, if_pos rfl]
    · intro taken
      rw [step, stored_of_taken taken]
  · intro event id row found
    rcases step_row event found with ⟨new, stays, follows⟩ | ⟨now, retention, moment, purged,
      published, before, -⟩
    · refine .inl ⟨new, stays, follows.fact, ?_⟩
      rcases follows.published with same | ⟨unpublished, confirmed, -⟩
      · exact .inl same
      · exact .inr ⟨unpublished, acknowledged_of_confirms events event confirmed⟩
    · exact .inr ⟨now, retention, moment, purged, published, before⟩
  · intro event id new found
    rcases step_origin event found with ⟨row, stored, -⟩ | ⟨now, fact, -, -, rfl⟩
    · exact .inl ⟨row, stored⟩
    · exact .inr rfl
  · intro now limit eventId member
    exact mem_pending member
  · intro id row found published later now limit member
    have delivered : d.Delivered row.fact.eventId := by
      intro id' row' found' same
      have one := apart id' id row' row found' found same
      subst one
      rw [found] at found'
      cases found'
      exact published
    obtain ⟨row', stored, named, unpublished⟩ := mem_pending member
    rcases play_delivered later d delivered with stays | committed
    · exact absurd unpublished (stays _ row' ((Table.mem_rows_iff _ _).mp stored) named)
    · exact committed
  · intro id row found unpublished
    have counted : Counted row.fact.eventId
        (events.foldl (tally config row.fact.eventId) (start, 0)) := by
      apply foldl_preserves (tally_counted config row.fact.eventId) events
      intro id row found
      cases found
    refine counted id row ?_ rfl unpublished
    rw [foldl_tally]
    exact found

end EidolonData
