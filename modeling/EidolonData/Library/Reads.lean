import Mathlib.Order.Defs.PartialOrder
import EidolonData.Library.Onward

/-!
# Reads between writes

A transaction that only queries takes no lock: each of its queries sees what
was committed last when it is issued, and what it answers depends on those
states alone.
-/

namespace Relational

variable {σ ε α β ι : Type}

namespace Tx

/-- The transaction writes nothing. -/
def ReadOnly : Tx σ ε α → Prop
  | done _ => True
  | refuse _ => True
  | select _ next => ∀ answer, (next answer).ReadOnly
  | write _ _ => False

/-- The outcome of the queries of a transaction, each on the next of some
states. -/
def answeredBy : Tx σ ε α → List σ → Option (Except ε α)
  | done value, _ => some (.ok value)
  | refuse error, _ => some (.error error)
  | select query next, state :: states => (next (query state)).answeredBy states
  | select _ _, [] => none
  | write _ _, _ => none

section Rules

@[simp] theorem readOnly_done (value : α) : (done value : Tx σ ε α).ReadOnly := trivial

@[simp] theorem readOnly_refuse (error : ε) : (refuse error : Tx σ ε α).ReadOnly := trivial

@[simp] theorem readOnly_read_bind (query : σ → β) (rest : β → Tx σ ε α) :
    (read query >>= rest).ReadOnly ↔ ∀ answer, (rest answer).ReadOnly := Iff.rfl

@[simp] theorem readOnly_lift_bind {δ : Type} (translate : δ → ε) (outcome : Except δ β)
    (rest : β → Tx σ ε α) : (lift translate outcome >>= rest).ReadOnly ↔
      ∀ value, outcome = .ok value → (rest value).ReadOnly := by
  cases outcome with
  | ok value =>
      constructor
      · rintro readOnly _ ⟨⟩
        exact readOnly
      · exact fun readOnly => readOnly value rfl
  | error failure =>
      constructor
      · rintro _ _ ⟨⟩
      · exact fun _ => trivial

@[simp] theorem answeredBy_done (value : α) (states : List σ) :
    (done value : Tx σ ε α).answeredBy states = some (.ok value) := rfl

@[simp] theorem answeredBy_refuse (error : ε) (states : List σ) :
    (refuse error : Tx σ ε α).answeredBy states = some (.error error) := rfl

@[simp] theorem answeredBy_read_bind (query : σ → β) (rest : β → Tx σ ε α) (state : σ)
    (states : List σ) :
    (read query >>= rest).answeredBy (state :: states) =
      (rest (query state)).answeredBy states := rfl

@[simp] theorem answeredBy_read_bind_nil (query : σ → β) (rest : β → Tx σ ε α) :
    (read query >>= rest).answeredBy [] = none := rfl

end Rules

/-- A transaction that only queries ends on the state it finds. -/
theorem ReadOnly.onward {program : Tx σ ε α} (readOnly : program.ReadOnly) :
    program.Onward (fun state _ state' => state' = state) := by
  induction program with
  | done value => exact fun _ => rfl
  | refuse error => trivial
  | select query next induction => exact fun answer => induction answer (readOnly answer)
  | write change next => cases readOnly

end Tx

namespace System

variable {valid : σ → Prop}

/-- The outcome of a client that ended. -/
def outcome? (system : System valid ε α ι) (client : ι) : Option (Except ε α) :=
  match system.clients client with
  | .finished outcome => some outcome
  | _ => none

theorem outcome?_eq_some_iff {system : System valid ε α ι} {client : ι} {outcome : Except ε α} :
    system.outcome? client = some outcome ↔ system.clients client = .finished outcome := by
  unfold outcome?
  split
  · next result phase => simp [phase]
  · next phase =>
      constructor
      · rintro ⟨⟩
      · exact fun finished => absurd finished (phase outcome)

variable [DecidableEq ι] [DecidablePred valid] (violated : ε) (client : ι)

/-- What was committed at each turn of a client. -/
def committedAt : List (Turn ι) → System valid ε α ι → List σ
  | [], _ => []
  | next :: rest, system =>
      if next = .step client then
        system.committed.val :: committedAt rest (turn violated system next)
      else committedAt rest (turn violated system next)

variable {violated client}

theorem turn_ended {system : System valid ε α ι} {phase : Client σ ε α} {next : Turn ι}
    (ended : phase = .dropped ∨ ∃ outcome, phase = .finished outcome)
    (found : system.clients client = phase) :
    (turn violated system next).clients client = phase := by
  by_cases step : next = .step client
  · subst step
    rcases ended with rfl | ⟨outcome, rfl⟩
    · simp only [turn, found]
    · simp only [turn, found]
  by_cases drop : next = .drop client
  · subst drop
    rcases ended with rfl | ⟨outcome, rfl⟩
    · simp only [turn, found]
    · simp only [turn, found]
  rw [turn_other step drop]
  exact found

variable (violated) in
theorem play_ended {phase : Client σ ε α}
    (ended : phase = .dropped ∨ ∃ outcome, phase = .finished outcome) (schedule : List (Turn ι))
    {system : System valid ε α ι} (found : system.clients client = phase) :
    (play violated schedule system).clients client = phase := by
  induction schedule generalizing system with
  | nil => exact found
  | cons next rest induction => exact induction (turn_ended ended found)

/-- A client that only queries ends as its queries do on what was committed at
its turns. -/
theorem answeredBy_of_outcome? {program : Tx σ ε α} (readOnly : program.ReadOnly)
    (schedule : List (Turn ι)) {system : System valid ε α ι} {seen : List (Answered σ)}
    (phase : system.clients client = .settled seen program) {outcome : Except ε α}
    (ended : (play violated schedule system).outcome? client = some outcome) :
    program.answeredBy (committedAt violated client schedule system) = some outcome := by
  induction schedule generalizing system seen program with
  | nil =>
      have finished : system.clients client = .finished outcome := outcome?_eq_some_iff.mp ended
      rw [phase] at finished
      cases program with
      | done value =>
          cases finished
          rfl
      | refuse error =>
          cases finished
          rfl
      | select query answered => cases finished
      | write change rest => cases finished
  | cons next rest induction =>
      cases program with
      | done value =>
          have kept := play_ended violated (Or.inr ⟨.ok value, rfl⟩) (next :: rest) phase
          rw [outcome?_eq_some_iff, kept] at ended
          cases ended
          rfl
      | refuse error =>
          have kept := play_ended violated (Or.inr ⟨.error error, rfl⟩) (next :: rest) phase
          rw [outcome?_eq_some_iff, kept] at ended
          cases ended
          rfl
      | write change rest => cases readOnly
      | select query answered =>
          have reading : system.clients client = .reading seen (.select query answered) := phase
          rw [committedAt]
          split
          · next own =>
              subst own
              have settled : (turn violated system (.step client)).clients client =
                  .settled (⟨query, query system.committed.val⟩ :: seen)
                    (answered (query system.committed.val)) := by
                simp only [turn, reading, put_self]
              exact induction (readOnly _) settled ended
          · next other =>
              by_cases drop : next = .drop client
              · subst drop
                have dropped : (turn violated system (.drop client)).clients client = .dropped := by
                  simp only [turn, reading, put_self]
                have kept := play_ended violated (Or.inl rfl) rest dropped
                rw [outcome?_eq_some_iff] at ended
                rw [show play violated (.drop client :: rest) system =
                  play violated rest (turn violated system (.drop client)) from rfl, kept] at ended
                cases ended
              · have kept : (turn violated system next).clients client =
                    .settled seen (.select query answered) := by
                  rw [turn_other other drop]
                  exact phase
                exact induction readOnly kept ended

theorem committedAt_ascending {holds : System valid ε α ι → Prop} {γ : Type} [Preorder γ]
    (column : σ → γ)
    (kept : ∀ system next, holds system → holds (turn violated system next) ∧
      column system.committed.val ≤ column (turn violated system next).committed.val)
    (schedule : List (Turn ι)) {system : System valid ε α ι} (held : holds system) :
    (∀ state ∈ committedAt violated client schedule system,
        column system.committed.val ≤ column state) ∧
      (committedAt violated client schedule system).Pairwise
        (fun earlier later => column earlier ≤ column later) := by
  induction schedule generalizing system with
  | nil => exact ⟨by rintro _ ⟨⟩, .nil⟩
  | cons next rest induction =>
      obtain ⟨held', step⟩ := kept system next held
      obtain ⟨later, ordered⟩ := induction held'
      have all : ∀ state ∈ committedAt violated client rest (turn violated system next),
          column system.committed.val ≤ column state :=
        fun state member => le_trans step (later state member)
      rw [committedAt]
      split
      · constructor
        · intro state member
          rcases List.mem_cons.mp member with rfl | after
          · exact le_refl _
          · exact all state after
        · exact List.pairwise_cons.mpr ⟨all, ordered⟩
      · exact ⟨all, ordered⟩

end System

end Relational
