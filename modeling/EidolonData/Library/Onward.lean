import EidolonData.Library.Frame
import EidolonData.Library.Interleaving

/-!
# Transactions from their first write on

A transaction holds the write lock from its first write on, and no other one
changes the store before it ends.  What is established from there on, whatever
its earlier queries were answered, is established in every schedule.
-/

namespace Relational

variable {σ ε α β γ ι : Type}

namespace Tx

/-- Whatever the queries before the first write are answered, the transaction
ends as described from the state it then finds. -/
def Onward (post : σ → α → σ → Prop) : Tx σ ε α → Prop
  | done value => ∀ state, post state value state
  | refuse _ => True
  | select _ next => ∀ answer, (next answer).Onward post
  | write change next => ∀ state, (write change next).Ensures state (post state)

theorem bind_assoc {δ : Type} (program : Tx σ ε α) (rest : α → Tx σ ε β)
    (last : β → Tx σ ε δ) :
    (program >>= rest) >>= last = program >>= (fun value => rest value >>= last) := by
  show (program.bind rest).bind last = program.bind _
  induction program with
  | done value => rfl
  | refuse error => rfl
  | select query next induction => exact congrArg (select query) (funext induction)
  | write change next induction => exact congrArg (write change) induction

section Rules

variable {post : σ → α → σ → Prop}

@[simp] theorem onward_done (value : α) :
    (done value : Tx σ ε α).Onward post ↔ ∀ state, post state value state := Iff.rfl

@[simp] theorem onward_refuse (error : ε) : (refuse error : Tx σ ε α).Onward post := trivial

@[simp] theorem onward_read_bind (query : σ → β) (rest : β → Tx σ ε α) :
    (read query >>= rest).Onward post ↔ ∀ answer, (rest answer).Onward post := Iff.rfl

@[simp] theorem onward_attempt_bind (change : σ → Except ε σ) (rest : Unit → Tx σ ε α) :
    (attempt change >>= rest).Onward post ↔
      ∀ state, (attempt change >>= rest).Ensures state (post state) := Iff.rfl

@[simp] theorem onward_modify_bind (change : σ → σ) (rest : Unit → Tx σ ε α) :
    (modify change >>= rest).Onward post ↔
      ∀ state, (modify change >>= rest).Ensures state (post state) := Iff.rfl

@[simp] theorem onward_refuseIf_bind (condition : Prop) [Decidable condition] (error : ε)
    (rest : Unit → Tx σ ε α) :
    (refuseIf condition error >>= rest).Onward post ↔ (¬ condition → (rest ()).Onward post) := by
  by_cases holds : condition
  · have refused : (refuseIf condition error : Tx σ ε Unit) = refuse error := if_pos holds
    rw [refused]
    exact ⟨fun _ denied => absurd holds denied, fun _ => trivial⟩
  · have passed : (refuseIf condition error : Tx σ ε Unit) = done () := if_neg holds
    rw [passed]
    exact ⟨fun onward _ => onward, fun onward => onward holds⟩

@[simp] theorem onward_require_bind (value : Option β) (error : ε) (rest : β → Tx σ ε α) :
    (require value error >>= rest).Onward post ↔
      ∀ found, value = some found → (rest found).Onward post := by
  cases value with
  | none =>
      constructor
      · rintro _ _ ⟨⟩
      · exact fun _ => trivial
  | some found =>
      constructor
      · rintro onward _ ⟨⟩
        exact onward
      · exact fun onward => onward found rfl

@[simp] theorem onward_lift_bind {δ : Type} (translate : δ → ε) (outcome : Except δ β)
    (rest : β → Tx σ ε α) :
    (lift translate outcome >>= rest).Onward post ↔
      ∀ value, outcome = .ok value → (rest value).Onward post := by
  cases outcome with
  | ok value =>
      constructor
      · rintro onward _ ⟨⟩
        exact onward
      · exact fun onward => onward value rfl
  | error failure =>
      constructor
      · rintro _ _ ⟨⟩
      · exact fun _ => trivial

end Rules

theorem Onward.mono {post post' : σ → α → σ → Prop} {program : Tx σ ε α}
    (onward : program.Onward post)
    (weaker : ∀ state value state', post state value state' → post' state value state') :
    program.Onward post' := by
  induction program with
  | done value => exact fun state => weaker state value state (onward state)
  | refuse error => trivial
  | select query next induction => exact fun answer => induction answer (onward answer)
  | write change next => exact fun state => (onward state).mono (weaker state)

/-- What no write touches is as it was. -/
theorem Spares.onward {part : σ → γ} {program : Tx σ ε α} (spares : program.Spares part) :
    program.Onward (fun state _ state' => part state' = part state) := by
  induction program with
  | done value => exact fun _ => rfl
  | refuse error => trivial
  | select query next induction => exact fun answer => induction answer ⟨spares.all answer⟩
  | write change next => exact fun state => spares.ensures state

theorem Onward.map {program : Tx σ ε α} {form : α → β} {post : σ → β → σ → Prop}
    (onward : program.Onward (fun state value state' => post state (form value) state')) :
    (program >>= fun value => done (form value)).Onward post := by
  induction program with
  | done value => exact onward
  | refuse error => trivial
  | select query next induction => exact fun answer => induction answer (onward answer)
  | write change next =>
      intro state
      refine (ensures_bind (write change next) (fun value => done (form value)) state _).mpr ?_
      refine (onward state).mono ?_
      intro value state' ended
      exact (ensures_done (form value) state' _).mpr ended

theorem Onward.runs {program : Tx σ ε α} {post : σ → α → σ → Prop} (onward : program.Onward post)
    (state : σ) : program.Ensures state (post state) := by
  induction program with
  | done value => exact (ensures_done value state _).mpr (onward state)
  | refuse error => exact ensures_refuse error state _
  | select query next induction => exact induction (query state) (onward (query state))
  | write change next => exact onward state

/-- A transaction that takes the lock, or ends, ends as described from there. -/
theorem Onward.ensures {post : σ → α → σ → Prop} {program : Tx σ ε α} {free : Prop} {state : σ}
    (onward : program.Onward post) (decides : program.Decides free state) :
    program.Ensures state (post state) := by
  cases program with
  | done value => exact (ensures_done value state _).mpr (onward state)
  | refuse error => cases decides
  | select query next =>
      obtain ⟨value, ends⟩ := decides
      have answered : (next (query state)).Onward post := onward (query state)
      intro result final ran
      rw [run, ends] at ran
      rw [ends] at answered
      cases ran
      exact answered state
  | write change next => exact onward state

end Tx

namespace System

variable {valid : σ → Prop} [DecidableEq ι] [DecidablePred valid] {violated : ε}
  {post : ι → σ → α → σ → Prop} {origin : {state : σ // valid state}}
  {system : System valid ε α ι}

/-- Every transaction ends as described: the ones that have written nothing,
from their first write on. -/
structure Guided (post : ι → σ → α → σ → Prop) (origin : {state : σ // valid state})
    (system : System valid ε α ι) : Prop where
  followed : Followed post origin system
  reading : ∀ client seen rest, system.clients client = .reading seen rest →
    rest.Onward (post client)

omit [DecidableEq ι] [DecidablePred valid] in
theorem Guided.described (guided : Guided post origin system) (next : Turn ι) :
    Described post system next := by
  intro client _ seen rest phase decides
  exact (guided.reading client seen rest phase).ensures decides

theorem Guided.turn (guided : Guided post origin system) (next : Turn ι) :
    Guided post origin (System.turn violated system next) := by
  refine { followed := guided.followed.turn (guided.described next), reading := ?_ }
  refine reading_turn (fun client _ rest => rest.Onward (post client)) guided.reading ?_ next
  intro client seen β query rest onward
  exact onward _

omit [DecidableEq ι] [DecidablePred valid] in
theorem guided_start {programs : ι → Tx σ ε α}
    (onward : ∀ client, (programs client).Onward (post client))
    (origin : {state : σ // valid state}) : Guided post origin (start programs origin) := by
  refine { followed := followed_start programs origin, reading := ?_ }
  rintro client _ _ ⟨⟩
  exact onward client

variable (violated) in
theorem Guided.turn_follows (guided : Guided post origin system) (next : Turn ι) :
    ∃ order, Follows post system.committed order (System.turn violated system next).committed ∧
      ∀ client value, (System.turn violated system next).clients client = .finished (.ok value) →
        system.clients client = .finished (.ok value) ∨ (client, value) ∈ order := by
  have described := guided.described next
  have effect := turn_effect violated system next
  generalize System.turn violated system next = system' at effect ⊢
  -- A client that moves on without succeeding adds nothing to the order.
  have quiet : ∀ {mover : ι} {phase : Client σ ε α}, (∀ value, phase ≠ .finished (.ok value)) →
      ∃ order, Follows post system.committed order (system.put mover phase).committed ∧
        ∀ client value, (system.put mover phase).clients client = .finished (.ok value) →
          system.clients client = .finished (.ok value) ∨ (client, value) ∈ order := by
    intro mover phase unfinished
    refine ⟨[], .start, ?_⟩
    intro client value finished
    by_cases same : client = mover
    · subst same
      rw [put_self] at finished
      exact absurd finished (unfinished value)
    · rw [put_other _ _ _ same] at finished
      exact Or.inl finished
  have successful : ∀ {mover : ι} {result : α} {state : {state : σ // valid state}},
      post mover system.committed.val result state.val →
      ∃ order, Follows post system.committed order state ∧
        ∀ client value,
          (({ system with committed := state } : System valid ε α ι).put mover
            (.finished (.ok result))).clients client = .finished (.ok value) →
          system.clients client = .finished (.ok value) ∨ (client, value) ∈ order := by
    intro mover result state made
    refine ⟨[(mover, result)], Follows.start.commit made, ?_⟩
    intro client value finished
    by_cases same : client = mover
    · subst same
      rw [put_self] at finished
      cases finished
      exact Or.inr (List.mem_singleton.mpr rfl)
    · rw [put_other _ _ _ same] at finished
      exact Or.inl finished
  cases effect with
  | idle => exact ⟨[], .start, fun _ _ finished => Or.inl finished⟩
  | @answered client seen value phase =>
      exact successful (described client rfl seen _ phase trivial value _ rfl)
  | @read client seen β query rest phase =>
      have decides := described client rfl seen _ phase
      cases settles : rest (query system.committed.val) with
      | done value =>
          exact successful (decides ⟨value, settles⟩ value system.committed.val
            (by simp only [Tx.run, settles]))
      | refuse error => exact quiet (by simp [Client.settled])
      | select query' rest' => exact quiet (by simp [Client.settled])
      | write change rest' => exact quiet (by simp [Client.settled])
  | locked => exact quiet (by simp)
  | advanced => exact quiet (by simp)
  | @committed client state value accepted phase =>
      exact successful ((guided.followed.lock client state _ phase).2 value state rfl)
  | ended unsuccessful =>
      apply quiet
      rintro value rfl
      rcases unsuccessful with gone | ⟨error, refused⟩
      · cases gone
      · cases refused

variable (violated) in
/-- A turn leaves the committed state alone, unless its client succeeds in it
as described. -/
theorem Guided.turn_cases (guided : Guided post origin system) (next : Turn ι) :
    (System.turn violated system next).committed = system.committed ∨
      ∃ client value, next = .step client ∧
        (System.turn violated system next).reply? client = some value ∧
        post client system.committed.val value
          (System.turn violated system next).committed.val := by
  have effect := turn_effect violated system next
  generalize System.turn violated system next = system' at effect ⊢
  cases effect with
  | @committed client state value accepted phase =>
      refine Or.inr ⟨client, value, rfl, reply?_eq_some_iff.mpr (put_self _ _ _), ?_⟩
      exact (guided.followed.lock client state _ phase).2 value state rfl
  | idle | answered | read | locked | advanced | ended => exact Or.inl rfl

theorem Guided.play (guided : Guided post origin system) (schedule : List (Turn ι)) :
    Guided post origin (System.play violated schedule system) ∧
      ∃ order, Follows post system.committed order
        (System.play violated schedule system).committed ∧
        ∀ client value, (System.play violated schedule system).reply? client = some value →
          system.reply? client = some value ∨ (client, value) ∈ order := by
  simp only [reply?_eq_some_iff]
  induction schedule generalizing system with
  | nil => exact ⟨guided, [], .start, fun _ _ finished => Or.inl finished⟩
  | cons next rest induction =>
      obtain ⟨reached, later, follows, finished⟩ := induction (guided.turn next)
      obtain ⟨order, first, ended⟩ := guided.turn_follows violated next
      refine ⟨reached, order ++ later, first.append follows, ?_⟩
      intro client value final
      rw [List.mem_append, ← or_assoc]
      rcases finished client value final with before | member
      · exact Or.inl (ended client value before)
      · exact Or.inr member

end System

end Relational
