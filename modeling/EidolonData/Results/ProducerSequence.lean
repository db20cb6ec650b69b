import EidolonData.Results.AuditDelivery

/-!
# The producer sequence

An envelope carries the id of its row as its place in the sequence of the
producer.  SQLite hands out one more than the greatest id that is stored, so
the sequence goes back when the newest rows have been purged.
-/

namespace EidolonData

open Relational

namespace Delivery

variable {ι : Type} [DecidableEq ι] {config : ι → Dispatcher} {d : Delivery ι}

omit [DecidableEq ι] in
def handsOut (d : Delivery ι) : DeliveryEvent ι → List Int
  | .enqueue now fact =>
      if d.Enqueues fact then
        let row : AuditOutboxRow :=
          { outboxId := nextOutboxId d.outbox, fact := fact, nextAttemptAt := now }
        [(envelope row).producerSeq]
      else []
  | _ => []

def number (config : ι → Dispatcher) (state : Delivery ι × List Int) (event : DeliveryEvent ι) :
    Delivery ι × List Int :=
  (state.1.step config event, state.2 ++ state.1.handsOut event)

/-- The sequence numbers of a run, in the order of its enqueues. -/
def sequence (config : ι → Dispatcher) (events : List (DeliveryEvent ι)) : List Int :=
  (events.foldl (number config) (start, [])).2

/-- Whenever a fact is committed, the row of the one before it is still stored. -/
def KeepsNewest (config : ι → Dispatcher) (events : List (DeliveryEvent ι)) : Prop :=
  ∀ before now fact after, events = before ++ .enqueue now fact :: after →
    (play config before start).Enqueues fact →
    ∀ newest ∈ (sequence config before).getLast?,
      (play config before start).outbox.get? newest ≠ none

theorem foldl_number (events : List (DeliveryEvent ι)) (state : Delivery ι × List Int) :
    (events.foldl (number config) state).1 = play config events state.1 := by
  induction events generalizing state with
  | nil => rfl
  | cons event events induction => exact induction _

theorem sequence_snoc (events : List (DeliveryEvent ι)) (event : DeliveryEvent ι) :
    sequence config (events ++ [event]) =
      sequence config events ++ (play config events start).handsOut event := by
  unfold sequence
  rw [List.foldl_append]
  simp only [List.foldl_cons, List.foldl_nil, number, foldl_number]

omit [DecidableEq ι] in
theorem handsOut_of_not_enqueues {event : DeliveryEvent ι}
    (silent : ∀ now fact, event = .enqueue now fact → ¬ d.Enqueues fact) :
    d.handsOut event = [] := by
  cases event with
  | enqueue now fact => exact if_neg (silent now fact rfl)
  | _ => rfl

/-- The stored ids have been handed out. -/
theorem mem_sequence (events : List (DeliveryEvent ι)) :
    ∀ id row, (play config events start).outbox.get? id = some row →
      id ∈ sequence config events := by
  induction events using List.reverseRecOn with
  | nil =>
      intro id row found
      cases found
  | append_singleton events event induction =>
      intro id row found
      rw [play_snoc] at found
      rw [sequence_snoc, List.mem_append]
      rcases step_origin event found with ⟨old, stored, -⟩ | ⟨now, fact, rfl, fresh, rfl⟩
      · exact .inl (induction id old stored)
      · right
        have same : nextOutboxId (play config events start).outbox = id := Table.key_of_get? found
        rw [handsOut, if_pos fresh, ← same]
        exact List.mem_singleton_self _

theorem nextOutboxId_pos (outbox : Table AuditOutboxRow) : 1 ≤ nextOutboxId outbox := by
  have least := (le_foldl_max outbox.rows 0).1
  unfold nextOutboxId
  omega

theorem sequence_pos (events : List (DeliveryEvent ι)) :
    ∀ id ∈ sequence config events, 1 ≤ id := by
  induction events using List.reverseRecOn with
  | nil =>
      intro id member
      cases member
  | append_singleton events event induction =>
      intro id member
      rw [sequence_snoc, List.mem_append] at member
      rcases member with before | last
      · exact induction id before
      · cases event with
        | enqueue now fact =>
            simp only [handsOut] at last
            split at last
            · rw [List.mem_singleton.mp last]
              exact nextOutboxId_pos _
            · cases last
        | _ => cases last

/-- The greatest stored id is one less than the next, unless nothing is stored. -/
theorem nextOutboxId_reached (rows : List AuditOutboxRow) (start : Int) :
    rows.foldl (fun highest row => max highest row.outboxId) start = start ∨
      ∃ row ∈ rows,
        row.outboxId = rows.foldl (fun highest row => max highest row.outboxId) start := by
  induction rows generalizing start with
  | nil => exact .inl rfl
  | cons head tail induction =>
      rw [List.foldl_cons]
      rcases induction (max start head.outboxId) with kept | ⟨row, member, reached⟩
      · rw [kept]
        rcases le_total head.outboxId start with below | above
        · exact .inl (max_eq_left below)
        · exact .inr ⟨head, List.mem_cons_self, (max_eq_right above).symm⟩
      · exact .inr ⟨row, List.mem_cons_of_mem _ member, reached⟩

theorem le_of_getLast? {ids : List Int} {newest : Int} (ascending : ids.Pairwise (· < ·))
    (last : newest ∈ ids.getLast?) : ∀ id ∈ ids, id ≤ newest := by
  obtain ⟨before, rfl⟩ := List.getLast?_eq_some_iff.mp last
  intro id member
  rcases List.mem_append.mp member with earlier | same
  · exact le_of_lt ((List.pairwise_append.mp ascending).2.2 id earlier newest
      (List.mem_singleton_self _))
  · exact le_of_eq (List.mem_singleton.mp same)

/-- A new id comes after all the others when the newest row is stored. -/
theorem next_above_iff (events : List (DeliveryEvent ι))
    (ascending : (sequence config events).Pairwise (· < ·)) :
    (∀ id ∈ sequence config events, id < nextOutboxId (play config events start).outbox) ↔
      ∀ newest ∈ (sequence config events).getLast?,
        (play config events start).outbox.get? newest ≠ none := by
  have stored : ∀ id row, (play config events start).outbox.get? id = some row →
      id ∈ sequence config events :=
    mem_sequence events
  generalize (play config events start).outbox = outbox at stored
  constructor
  · intro above newest last
    have member : newest ∈ sequence config events := List.mem_of_getLast? last
    have below := above newest member
    have positive := sequence_pos events newest member
    unfold nextOutboxId at below
    rcases nextOutboxId_reached outbox.rows 0 with empty | ⟨row, held, reached⟩
    · omega
    · have found := (Table.mem_rows_iff outbox row).mp held
      have handed := le_of_getLast? ascending last _ (stored row.outboxId row found)
      have same : row.outboxId = newest := by omega
      intro missing
      rw [← same] at missing
      exact absurd (found.symm.trans missing) (Option.some_ne_none row)
  · intro kept id member
    cases last : (sequence config events).getLast? with
    | none =>
        rw [List.getLast?_eq_none_iff.mp last] at member
        cases member
    | some newest =>
        have below := le_of_getLast? ascending last id member
        obtain ⟨row, found⟩ := Option.ne_none_iff_exists'.mp (kept newest last)
        have same : row.outboxId = newest := Table.key_of_get? found
        have bound := (le_foldl_max outbox.rows 0).2 row (Table.mem_of_get? found)
        unfold nextOutboxId
        omega

/-- The condition on a run one event longer. -/
theorem keepsNewest_snoc (events : List (DeliveryEvent ι)) (event : DeliveryEvent ι) :
    KeepsNewest config (events ++ [event]) ↔ KeepsNewest config events ∧
      ∀ now fact, event = .enqueue now fact → (play config events start).Enqueues fact →
        ∀ newest ∈ (sequence config events).getLast?,
          (play config events start).outbox.get? newest ≠ none := by
  constructor
  · intro keeps
    refine ⟨?_, ?_⟩
    · intro before now fact after split
      apply keeps before now fact (after ++ [event])
      rw [split, List.append_assoc, List.cons_append]
    · intro now fact same
      exact keeps events now fact [] (by rw [same])
  · intro keeps before now fact after split
    obtain ⟨earlier, last⟩ := keeps
    rcases List.eq_nil_or_concat after with rfl | ⟨after', final, rfl⟩
    · obtain ⟨rfl, same⟩ := List.append_inj' split rfl
      cases same
      exact last now fact rfl
    · rw [List.concat_eq_append, ← List.cons_append, ← List.append_assoc] at split
      obtain ⟨rfl, -⟩ := List.append_inj' split rfl
      exact earlier before now fact after' rfl

end Delivery

open Delivery in
/-- The sequence numbers of a run ascend exactly when the newest row is never
purged before the next fact. -/
theorem producer_sequence_ascends {ι : Type} [DecidableEq ι] (config : ι → Dispatcher)
    (events : List (DeliveryEvent ι)) :
    (sequence config events).Pairwise (· < ·) ↔ KeepsNewest config events := by
  induction events using List.reverseRecOn with
  | nil =>
      constructor
      · intro _ before now fact after split
        simp at split
      · intro _
        exact List.Pairwise.nil
  | append_singleton events event induction =>
      rw [sequence_snoc, keepsNewest_snoc, ← induction, List.pairwise_append]
      apply and_congr_right
      intro ascending
      by_cases commits : ∃ now fact, event = .enqueue now fact ∧
          (play config events start).Enqueues fact
      · obtain ⟨now, fact, rfl, fresh⟩ := commits
        have handed : (play config events start).handsOut (.enqueue now fact) =
            [nextOutboxId (play config events start).outbox] := if_pos fresh
        rw [handed]
        constructor
        · intro apart now' fact' _ _
          apply (next_above_iff events ascending).mp
          intro id member
          exact apart.2 id member _ (List.mem_singleton_self _)
        · intro kept
          refine ⟨List.pairwise_singleton _ _, ?_⟩
          intro id member next same
          rw [List.mem_singleton.mp same]
          exact (next_above_iff events ascending).mpr (kept now fact rfl fresh) id member
      · have silent : (play config events start).handsOut event = [] := by
          apply handsOut_of_not_enqueues
          intro now fact same fresh
          exact commits ⟨now, fact, same, fresh⟩
        rw [silent]
        constructor
        · intro _ now fact same fresh
          exact absurd ⟨now, fact, same, fresh⟩ commits
        · intro _
          refine ⟨List.Pairwise.nil, ?_⟩
          intro _ _ _ member
          cases member

/-- An event that is delivered and purged leaves its number to the next. -/
theorem producer_sequence_repeats :
    let uuid := Uuid.ofNat
    let fact := fun number now =>
      governanceFact (uuid number) now "o1" "person" "p1" "person.created"
    let run : List (DeliveryEvent Unit) := [.enqueue 0 (fact 0 0), .fetch () 1,
      .acknowledge () [(fact 0 0).eventId], .mark () 2, .purge 10 5, .enqueue 11 (fact 1 11)]
    Delivery.sequence (fun _ => {}) run = [1, 1] ∧
      ¬ (Delivery.sequence (fun _ => {}) run).Pairwise (· < ·) := by
  decide +kernel

end EidolonData
