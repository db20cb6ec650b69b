import EidolonData.Library.Interleaving

/-!
# Serial schedules

When the transactions of a schedule commit what they would commit if they ran
alone, one after another.  A turn is sound when what is left of a transaction
that takes the lock, or ends without having written, ends as the whole
transaction would on the committed state; a schedule of sound turns is serial.
-/

namespace Relational

variable {σ ε α ι : Type}

namespace System

variable {valid : σ → Prop} [DecidablePred valid] (violated : ε)

/-- What the transactions commit one after another. -/
inductive Serial (violated : ε) (programs : ι → Tx σ ε α) (origin : {state : σ // valid state}) :
    List (ι × α) → {state : σ // valid state} → Prop where
  | start : Serial violated programs origin [] origin
  | commit {order : List (ι × α)} {state state' : {state : σ // valid state}} {client : ι}
      {value : α} (before : Serial violated programs origin order state)
      (commits : (programs client).commit valid violated state.val = .ok (value, state')) :
      Serial violated programs origin (order ++ [(client, value)]) state'

end System

namespace System

variable {valid : σ → Prop} [DecidableEq ι] [DecidablePred valid] {violated : ε}
  (programs : ι → Tx σ ε α)

/-- What is left of a transaction that decides ends as the whole of it would. -/
def Sound (system : System valid ε α ι) (next : Turn ι) : Prop :=
  ∀ client, next = .step client → ∀ seen rest, system.clients client = .reading seen rest →
    rest.Decides (system.holder = none) system.committed.val →
    ∀ value final, rest.run system.committed.val = .ok (value, final) →
      (programs client).run system.committed.val = .ok (value, final)

/-- The transactions that succeeded, in the order of their success, commit the
same one after another; a transaction that holds the lock will end as it would
run alone. -/
structure Serialized (violated : ε) (origin : {state : σ // valid state})
    (system : System valid ε α ι) : Prop where
  order : ∃ order : List (ι × α), (order.map Prod.fst).Nodup ∧
    (∀ client value, (client, value) ∈ order ↔
      system.clients client = .finished (.ok value)) ∧
    Serial violated programs origin order system.committed
  lock : ∀ client state rest, system.clients client = .writing state rest →
    system.holder = some client ∧ ∀ value final, rest.run state = .ok (value, final) →
      (programs client).run system.committed.val = .ok (value, final)

variable {programs} {origin : {state : σ // valid state}} {system : System valid ε α ι}

/-- What a client does when it runs alone. -/
def Alone (programs : ι → Tx σ ε α) (client : ι) (state : σ) (value : α) (final : σ) : Prop :=
  (programs client).run state = .ok (value, final)

omit [DecidableEq ι] in
theorem serial_iff {order : List (ι × α)} {state : {state : σ // valid state}} :
    Serial violated programs origin order state ↔ Follows (Alone programs) origin order state := by
  constructor
  · intro serial
    induction serial with
    | start => exact .start
    | commit before commits follows => exact follows.commit (Tx.commit_ok_iff.mp commits)
  · intro follows
    induction follows with
    | start => exact .start
    | commit before made serial => exact serial.commit (Tx.commit_ok_iff.mpr made)

omit [DecidableEq ι] in
theorem serialized_iff :
    Serialized programs violated origin system ↔ Followed (Alone programs) origin system := by
  constructor
  · rintro ⟨⟨order, once, members, serial⟩, lock⟩
    exact ⟨⟨order, once, members, serial_iff.mp serial⟩, lock⟩
  · rintro ⟨⟨order, once, members, follows⟩, lock⟩
    exact ⟨⟨order, once, members, serial_iff.mpr follows⟩, lock⟩

omit [DecidableEq ι] in
theorem serialized_start (origin : {state : σ // valid state}) :
    Serialized programs violated origin (start programs origin) :=
  serialized_iff.mpr (followed_start programs origin)

theorem Serialized.turn (serialized : Serialized programs violated origin system)
    {next : Turn ι} (sound : Sound programs system next) :
    Serialized programs violated origin (turn violated system next) :=
  serialized_iff.mpr ((serialized_iff.mp serialized).turn sound)

/-- A transaction that takes the lock, or ends without having written, was
answered as it would be now. -/
def UpToDate (system : System valid ε α ι) (next : Turn ι) : Prop :=
  ∀ client, next = .step client → ∀ seen rest, system.clients client = .reading seen rest →
    rest.Decides (system.holder = none) system.committed.val →
      Current seen system.committed.val

/-- Where the queries are answered as they were, what is left of a transaction
ends as the whole of it. -/
def Traced (programs : ι → Tx σ ε α) (client : ι) (seen : List (Answered σ))
    (rest : Tx σ ε α) : Prop :=
  ∀ state, Current seen state → (programs client).run state = rest.run state

omit [DecidableEq ι] [DecidablePred valid] in
theorem Traced.answered {client : ι} {seen : List (Answered σ)} {β : Type} {query : σ → β}
    {rest : β → Tx σ ε α} (traced : Traced programs client seen (.select query rest))
    (origin : σ) :
    Traced programs client (⟨query, query origin⟩ :: seen) (rest (query origin)) := by
  intro state current
  have before : Current seen state :=
    fun answered member => current answered (List.mem_cons_of_mem _ member)
  have same : query state = query origin := current _ List.mem_cons_self
  rw [traced state before, Tx.run, same]

/-- A schedule in which no transaction decides on an outdated answer commits
what its successful transactions commit one after another. -/
theorem serialized_play_of_upToDate (programs : ι → Tx σ ε α)
    (origin : {state : σ // valid state}) (schedule : List (Turn ι))
    (upToDate : Along violated UpToDate schedule (start programs origin)) :
    Serialized programs violated origin (play violated schedule (start programs origin)) := by
  let motive (system : System valid ε α ι) : Prop :=
    Serialized programs violated origin system ∧
      ∀ client seen rest, system.clients client = .reading seen rest →
        Traced programs client seen rest
  have preserved : ∀ system next, motive system → UpToDate system next →
      motive (turn violated system next) := by
    rintro system next ⟨serialized, traced⟩ upToDate
    constructor
    · apply serialized.turn
      intro client isStep seen rest phase decides value final ran
      rw [traced client seen rest phase _ (upToDate client isStep seen rest phase decides)]
      exact ran
    · refine reading_turn (Traced programs) traced ?_ next
      intro _ _ _ _ _ held
      exact held.answered _
  have starts : motive (start programs origin) := by
    refine ⟨serialized_start origin, ?_⟩
    rintro client _ _ ⟨⟩ state -
    rfl
  exact (Along.preserves preserved schedule _ upToDate starts).1

/-- Turns of one client are never outdated as long as what it was answered
still holds when they begin. -/
theorem upToDate_replicate {client : ι} (turns : Nat) (system : System valid ε α ι)
    (held : ∀ seen rest, system.clients client = .reading seen rest →
      Current seen system.committed.val) :
    Along violated UpToDate (List.replicate turns (.step client)) system := by
  induction turns generalizing system with
  | zero => exact trivial
  | succ turns induction =>
      constructor
      · rintro _ ⟨⟩ seen rest phase _
        exact held seen rest phase
      · apply induction
        have effect := turn_effect violated system (.step client)
        generalize System.turn violated system (.step client) = system' at effect ⊢
        intro seen rest found
        cases effect with
        | idle => exact held seen rest found
        | answered phase =>
            rw [put_self] at found
            cases found
        | @read _ seen' β query next phase =>
            rw [put_self] at found
            obtain ⟨rfl, rfl⟩ := Client.settled_eq_reading found
            intro answered member
            rcases List.mem_cons.mp member with rfl | earlier
            · rfl
            · exact held seen' _ phase answered earlier
        | locked phase free changed =>
            rw [put_self] at found
            cases found
        | advanced phase same =>
            rw [put_self] at found
            cases found
        | committed accepted phase =>
            rw [put_self] at found
            cases found
        | @ended _ other phase unsuccessful running =>
            by_cases same : client = other
            · subst same
              rw [put_self] at found
              subst found
              rcases unsuccessful with gone | ⟨error, refused⟩
              · cases gone
              · cases refused
            · rw [put_other _ _ _ same] at found
              exact held seen rest found

theorem upToDate_unanswered {client : ι} (turns : Nat) {system : System valid ε α ι}
    {program : Tx σ ε α} (unanswered : system.clients client = .reading [] program) :
    Along violated UpToDate (List.replicate turns (.step client)) system := by
  apply upToDate_replicate
  intro seen rest phase answered member
  rw [unanswered] at phase
  cases phase
  cases member

end System

end Relational
