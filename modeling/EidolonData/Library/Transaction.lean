import Mathlib.Data.List.Basic
import Mathlib.Logic.Basic

/-!
# Transactions as programs

A transaction is a program that reads a state, writes it, and either
finishes with a value or refuses with an error; a write may itself be refused
by the store.  Keeping the reads and writes apart lets one program be run in
two ways: atomically (`Tx.run`), and one operation at a time between other
transactions (the interleaving module).

`Tx.Ensures` is partial correctness of the atomic run.  Its rules are tagged
`simp`, so unfolding a transaction turns a postcondition into the conditions
its branches leave to prove.
-/

namespace Relational

inductive Tx (σ ε α : Type) : Type 1 where
  | done (value : α)
  | refuse (error : ε)
  | select {β : Type} (query : σ → β) (next : β → Tx σ ε α)
  | write (change : σ → Except ε σ) (next : Tx σ ε α)

namespace Tx

variable {σ ε α β : Type}

def bind : Tx σ ε α → (α → Tx σ ε β) → Tx σ ε β
  | done value, rest => rest value
  | refuse error, _ => refuse error
  | select query next, rest => select query (fun answer => (next answer).bind rest)
  | write change next, rest => write change (next.bind rest)

instance : Monad (Tx σ ε) where
  pure := done
  bind := bind

/-- Read something off the state. -/
def read (query : σ → β) : Tx σ ε β := select query done

/-- Change the state by a statement the store may refuse. -/
def attempt (change : σ → Except ε σ) : Tx σ ε Unit := write change (done ())

/-- Change the state. -/
def modify (change : σ → σ) : Tx σ ε Unit := attempt (fun state => .ok (change state))

/-- Stop with an error when a condition holds. -/
def refuseIf (condition : Prop) [Decidable condition] (error : ε) : Tx σ ε Unit :=
  if condition then refuse error else done ()

/-- The value of an option, or an error. -/
def require : Option α → ε → Tx σ ε α
  | some value, _ => done value
  | none, error => refuse error

/-- A chain of checks passes when each of them does. -/
theorem checks_bind_iff {δ : Type} (first : Except δ α) (rest : α → Except δ β) (result : β) :
    (first >>= rest) = .ok result ↔ ∃ value, first = .ok value ∧ rest value = .ok result := by
  cases first with
  | ok value =>
      constructor
      · intro passed
        exact ⟨value, rfl, passed⟩
      · rintro ⟨_, ⟨⟩, passed⟩
        exact passed
  | error failure =>
      constructor
      · intro passed
        cases passed
      · rintro ⟨_, ⟨⟩, -⟩

/-- What a chain of checks over a list answers, one of them answered. -/
theorem mem_of_mapM_ok {δ : Type} {form : α → Except δ β} {rows : List α} {values : List β}
    (passed : rows.mapM form = .ok values) {value : β} (member : value ∈ values) :
    ∃ row ∈ rows, form row = .ok value := by
  induction rows generalizing values with
  | nil =>
      cases passed
      cases member
  | cons row rows induction =>
      rw [List.mapM_cons, checks_bind_iff] at passed
      obtain ⟨head, formed, passed⟩ := passed
      obtain ⟨tail, rest, passed⟩ := (checks_bind_iff _ _ _).mp passed
      cases passed
      rcases List.mem_cons.mp member with rfl | later
      · exact ⟨row, List.mem_cons_self, formed⟩
      · obtain ⟨source, among, made⟩ := induction rest later
        exact ⟨source, List.mem_cons_of_mem _ among, made⟩

theorem ok_of_toOption {δ : Type} {outcome : Except δ α} {value : α}
    (found : outcome.toOption = some value) : outcome = .ok value := by
  cases outcome with
  | ok result =>
      cases found
      rfl
  | error failure => cases found

theorem error_of_toOption {δ : Type} {outcome : Except δ α}
    (none : outcome.toOption.isSome = false) : ∃ failure, outcome = .error failure := by
  cases outcome with
  | ok value => cases none
  | error failure => exact ⟨failure, rfl⟩

/-- The value of a computation outside the state, its failure translated. -/
def lift {δ : Type} (translate : δ → ε) : Except δ α → Tx σ ε α
  | .ok value => done value
  | .error failure => refuse (translate failure)

/-- The same program with its errors translated. -/
def mapError (translate : ε → ε) : Tx σ ε α → Tx σ ε α
  | done value => done value
  | refuse error => refuse (translate error)
  | select query next => select query (fun answer => (next answer).mapError translate)
  | write change next => write (fun state => (change state).mapError translate)
      (next.mapError translate)

/-- The atomic run: a refusal reports its error and has no state, so what the
program had written before it is lost. -/
def run : Tx σ ε α → σ → Except ε (α × σ)
  | done value, state => .ok (value, state)
  | refuse error, _ => .error error
  | select query next, state => (next (query state)).run state
  | write change next, state =>
      match change state with
      | .ok state' => next.run state'
      | .error error => .error error

@[simp] theorem pure_eq (value : α) : (pure value : Tx σ ε α) = done value := rfl

@[simp] theorem run_done (value : α) (state : σ) :
    (done value : Tx σ ε α).run state = .ok (value, state) := rfl

@[simp] theorem run_refuse (error : ε) (state : σ) :
    (refuse error : Tx σ ε α).run state = .error error := rfl

theorem run_bind (program : Tx σ ε α) (rest : α → Tx σ ε β) (state : σ) :
    (program >>= rest).run state =
      match program.run state with
      | .ok (value, state') => (rest value).run state'
      | .error error => .error error := by
  show (program.bind rest).run state = _
  induction program generalizing state with
  | done value => rfl
  | refuse error => rfl
  | select query next induction => exact induction (query state) state
  | write change next induction =>
      show (write change (next.bind rest)).run state = _
      cases changed : change state with
      | ok state' => simpa [run, changed] using induction state'
      | error error => simp [run, changed]

theorem run_bind_ok {program : Tx σ ε α} {state state' : σ} {value : α}
    (ran : program.run state = .ok (value, state')) (rest : α → Tx σ ε β) :
    (program >>= rest).run state = (rest value).run state' := by
  rw [run_bind, ran]

theorem run_bind_error {program : Tx σ ε α} {state : σ} {error : ε}
    (ran : program.run state = .error error) (rest : α → Tx σ ε β) :
    (program >>= rest).run state = .error error := by
  rw [run_bind, ran]

@[simp] theorem run_read (query : σ → β) (state : σ) :
    (read query : Tx σ ε β).run state = .ok (query state, state) := rfl

@[simp] theorem run_attempt (change : σ → Except ε σ) (state : σ) :
    (attempt change : Tx σ ε Unit).run state = (change state).map (fun state' => ((), state')) := by
  cases changed : change state with
  | ok state' => simp [attempt, run, changed, Except.map]
  | error error => simp [attempt, run, changed, Except.map]

@[simp] theorem run_modify (change : σ → σ) (state : σ) :
    (modify change : Tx σ ε Unit).run state = .ok ((), change state) := rfl

@[simp] theorem run_read_bind (query : σ → β) (rest : β → Tx σ ε α) (state : σ) :
    (read query >>= rest).run state = (rest (query state)).run state := rfl

@[simp] theorem run_modify_bind (change : σ → σ) (rest : Unit → Tx σ ε α)
    (state : σ) :
    (modify change >>= rest).run state = (rest ()).run (change state) := rfl

@[simp] theorem run_attempt_bind (change : σ → Except ε σ) (rest : Unit → Tx σ ε α)
    (state : σ) :
    (attempt change >>= rest).run state =
      match change state with
      | .ok state' => (rest ()).run state'
      | .error error => .error error := by
  rw [run_bind, run_attempt]
  cases change state <;> rfl

theorem run_refuseIf (condition : Prop) [Decidable condition] (error : ε) (state : σ) :
    (refuseIf condition error : Tx σ ε Unit).run state =
      if condition then .error error else .ok ((), state) := by
  unfold refuseIf
  split <;> rfl

@[simp] theorem run_refuseIf_bind (condition : Prop) [Decidable condition]
    (error : ε) (rest : Unit → Tx σ ε α) (state : σ) :
    (refuseIf condition error >>= rest).run state =
      if condition then .error error else (rest ()).run state := by
  rw [run_bind, run_refuseIf]
  split
  · next equation => split at equation <;> simp_all
  · next equation => split at equation <;> simp_all

@[simp] theorem run_require_some (value : α) (error : ε) (rest : α → Tx σ ε β)
    (state : σ) :
    (require (some value) error >>= rest).run state = (rest value).run state := rfl

@[simp] theorem run_require_none (error : ε) (rest : α → Tx σ ε β) (state : σ) :
    (require none error >>= rest).run state = .error error := rfl

@[simp] theorem run_done_bind (value : α) (rest : α → Tx σ ε β) (state : σ) :
    ((done value : Tx σ ε α) >>= rest).run state = (rest value).run state := rfl

@[simp] theorem run_refuse_bind (error : ε) (rest : α → Tx σ ε β) (state : σ) :
    ((refuse error : Tx σ ε α) >>= rest).run state = .error error := rfl

/-- Every atomic run that finishes does so in a state of the postcondition. -/
def Ensures (program : Tx σ ε α) (state : σ) (post : α → σ → Prop) : Prop :=
  ∀ value state', program.run state = .ok (value, state') → post value state'

theorem Ensures.mono {program : Tx σ ε α} {state : σ} {post post' : α → σ → Prop}
    (ensures : program.Ensures state post)
    (weaker : ∀ value state', post value state' → post' value state') :
    program.Ensures state post' :=
  fun value state' ran => weaker value state' (ensures value state' ran)

theorem Ensures.and {program : Tx σ ε α} {state : σ} {post post' : α → σ → Prop}
    (left : program.Ensures state post) (right : program.Ensures state post') :
    program.Ensures state (fun value state' => post value state' ∧ post' value state') :=
  fun value state' ran => ⟨left value state' ran, right value state' ran⟩

@[simp] theorem ensures_true (program : Tx σ ε α) (state : σ) :
    program.Ensures state (fun _ _ => True) :=
  fun _ _ _ => trivial

@[simp] theorem ensures_done (value : α) (state : σ) (post : α → σ → Prop) :
    (done value : Tx σ ε α).Ensures state post ↔ post value state := by
  constructor
  · intro ensures
    exact ensures value state rfl
  · rintro holds value' state' ⟨⟩
    exact holds

@[simp] theorem ensures_refuse (error : ε) (state : σ) (post : α → σ → Prop) :
    (refuse error : Tx σ ε α).Ensures state post := by
  rintro value state' ⟨⟩

@[simp] theorem ensures_bind (program : Tx σ ε α) (rest : α → Tx σ ε β) (state : σ)
    (post : β → σ → Prop) :
    (program >>= rest).Ensures state post ↔
      program.Ensures state (fun value state' => (rest value).Ensures state' post) := by
  constructor
  · intro ensures value state' ran result final ranRest
    exact ensures result final (by rw [run_bind, ran]; exact ranRest)
  · intro ensures result final ran
    rw [run_bind] at ran
    cases ranFirst : program.run state with
    | error error => simp [ranFirst] at ran
    | ok finished =>
        obtain ⟨value, state'⟩ := finished
        rw [ranFirst] at ran
        exact ensures value state' ranFirst result final ran

@[simp] theorem ensures_read (query : σ → β) (state : σ) (post : β → σ → Prop) :
    (read query : Tx σ ε β).Ensures state post ↔ post (query state) state :=
  ensures_done (query state) state post

@[simp] theorem ensures_attempt (change : σ → Except ε σ) (state : σ)
    (post : Unit → σ → Prop) :
    (attempt change : Tx σ ε Unit).Ensures state post ↔
      ∀ state', change state = .ok state' → post () state' := by
  unfold Ensures
  cases changed : change state with
  | ok state' =>
      simp only [run_attempt, changed, Except.map, Except.ok.injEq, Prod.mk.injEq,
        forall_eq']
      constructor
      · intro holds
        exact holds () state' ⟨trivial, rfl⟩
      · rintro holds value final ⟨-, rfl⟩
        exact holds
  | error error => simp [changed, Except.map]

@[simp] theorem ensures_modify (change : σ → σ) (state : σ) (post : Unit → σ → Prop) :
    (modify change : Tx σ ε Unit).Ensures state post ↔ post () (change state) :=
  ensures_done () (change state) post

@[simp] theorem ensures_refuseIf (condition : Prop) [Decidable condition] (error : ε)
    (state : σ) (post : Unit → σ → Prop) :
    (refuseIf condition error : Tx σ ε Unit).Ensures state post ↔
      (¬ condition → post () state) := by
  unfold refuseIf
  split
  · next holds => simp [holds]
  · next fails => simp [fails]

@[simp] theorem ensures_require (value : Option α) (error : ε) (state : σ)
    (post : α → σ → Prop) :
    (require value error : Tx σ ε α).Ensures state post ↔
      ∀ found, value = some found → post found state := by
  cases value with
  | none => simp [require]
  | some found => simp [require]

@[simp] theorem ensures_lift {δ : Type} (translate : δ → ε) (outcome : Except δ α)
    (state : σ) (post : α → σ → Prop) :
    (lift translate outcome : Tx σ ε α).Ensures state post ↔
      ∀ value, outcome = .ok value → post value state := by
  cases outcome with
  | ok value => simp [lift]
  | error failure => simp [lift]

@[simp] theorem ensures_mapError (translate : ε → ε) (program : Tx σ ε α) (state : σ)
    (post : α → σ → Prop) :
    (program.mapError translate).Ensures state post ↔ program.Ensures state post := by
  have same : ∀ value state', (program.mapError translate).run state = .ok (value, state') ↔
      program.run state = .ok (value, state') := by
    induction program generalizing state with
    | done value =>
        intro other state'
        rfl
    | refuse error =>
        intro value state'
        constructor
        · rintro ⟨⟩
        · rintro ⟨⟩
    | select query next induction => exact induction (query state) state
    | write change next induction =>
        intro value state'
        simp only [mapError, run]
        cases changed : change state with
        | ok written => exact induction written value state'
        | error error =>
            constructor
            · rintro ⟨⟩
            · rintro ⟨⟩
  constructor
  · intro ensures value state' ran
    exact ensures value state' ((same value state').mpr ran)
  · intro ensures value state' ran
    exact ensures value state' ((same value state').mp ran)

@[simp] theorem ensures_ite (condition : Prop) [Decidable condition]
    (left right : Tx σ ε α) (state : σ) (post : α → σ → Prop) :
    (if condition then left else right).Ensures state post ↔
      (condition → left.Ensures state post) ∧
        (¬ condition → right.Ensures state post) := by
  split
  · next holds => simp [holds]
  · next fails => simp [fails]

/-- Every atomic run that is refused is refused with an error of the
postcondition. -/
def Raises (program : Tx σ ε α) (state : σ) (post : ε → Prop) : Prop :=
  ∀ error, program.run state = .error error → post error

@[simp] theorem raises_done (value : α) (state : σ) (post : ε → Prop) :
    (done value : Tx σ ε α).Raises state post := by
  rintro error ⟨⟩

@[simp] theorem raises_refuse (error : ε) (state : σ) (post : ε → Prop) :
    (refuse error : Tx σ ε α).Raises state post ↔ post error := by
  constructor
  · intro raises
    exact raises error rfl
  · rintro holds other ⟨⟩
    exact holds

@[simp] theorem raises_bind (program : Tx σ ε α) (rest : α → Tx σ ε β) (state : σ)
    (post : ε → Prop) :
    (program >>= rest).Raises state post ↔
      program.Raises state post ∧
        program.Ensures state (fun value state' => (rest value).Raises state' post) := by
  constructor
  · intro raises
    refine ⟨?_, ?_⟩
    · intro error ran
      exact raises error (run_bind_error ran rest)
    · intro value state' ran error ranRest
      exact raises error (by rw [run_bind_ok ran]; exact ranRest)
  · rintro ⟨first, second⟩ error ran
    cases ranFirst : program.run state with
    | error failure =>
        rw [run_bind_error ranFirst] at ran
        cases ran
        exact first _ ranFirst
    | ok finished =>
        obtain ⟨value, state'⟩ := finished
        rw [run_bind_ok ranFirst] at ran
        exact second value state' ranFirst error ran

@[simp] theorem raises_read (query : σ → β) (state : σ) (post : ε → Prop) :
    (read query : Tx σ ε β).Raises state post :=
  raises_done (query state) state post

@[simp] theorem raises_attempt (change : σ → Except ε σ) (state : σ) (post : ε → Prop) :
    (attempt change : Tx σ ε Unit).Raises state post ↔
      ∀ error, change state = .error error → post error := by
  unfold Raises
  cases changed : change state with
  | ok state' => simp [changed, Except.map]
  | error error => simp [changed, Except.map]

@[simp] theorem raises_modify (change : σ → σ) (state : σ) (post : ε → Prop) :
    (modify change : Tx σ ε Unit).Raises state post :=
  raises_done () (change state) post

@[simp] theorem raises_refuseIf (condition : Prop) [Decidable condition] (error : ε)
    (state : σ) (post : ε → Prop) :
    (refuseIf condition error : Tx σ ε Unit).Raises state post ↔ (condition → post error) := by
  unfold refuseIf
  split
  · next holds => simp [holds]
  · next fails => simp [fails]

@[simp] theorem raises_require (value : Option α) (error : ε) (state : σ) (post : ε → Prop) :
    (require value error : Tx σ ε α).Raises state post ↔ (value = none → post error) := by
  cases value with
  | none => simp [require]
  | some found => simp [require]

@[simp] theorem raises_lift {δ : Type} (translate : δ → ε) (outcome : Except δ α)
    (state : σ) (post : ε → Prop) :
    (lift translate outcome : Tx σ ε α).Raises state post ↔
      ∀ failure, outcome = .error failure → post (translate failure) := by
  cases outcome with
  | ok value => simp [lift]
  | error failure => simp [lift]

@[simp] theorem raises_ite (condition : Prop) [Decidable condition]
    (left right : Tx σ ε α) (state : σ) (post : ε → Prop) :
    (if condition then left else right).Raises state post ↔
      (condition → left.Raises state post) ∧ (¬ condition → right.Raises state post) := by
  split
  · next holds => simp [holds]
  · next fails => simp [fails]

/-- A transaction on a state with a constraint, as a database commits it: the
state of a finished run is kept only when it satisfies the constraint. -/
def commit (valid : σ → Prop) [DecidablePred valid] (violated : ε)
    (program : Tx σ ε α) (state : σ) : Except ε (α × {state' : σ // valid state'}) :=
  match program.run state with
  | .ok (value, state') =>
      if accepted : valid state' then .ok (value, ⟨state', accepted⟩)
      else .error violated
  | .error error => .error error

theorem commit_ok_iff {valid : σ → Prop} [DecidablePred valid] {violated : ε}
    {program : Tx σ ε α} {state : σ} {value : α} {final : {state' : σ // valid state'}} :
    program.commit valid violated state = .ok (value, final) ↔
      program.run state = .ok (value, final.val) := by
  unfold commit
  cases ran : program.run state with
  | error error => simp
  | ok finished =>
      obtain ⟨value', state'⟩ := finished
      obtain ⟨final, finalValid⟩ := final
      by_cases accepted : valid state'
      · simp [accepted]
      · simp only [accepted, dite_false, reduceCtorEq, false_iff, Except.ok.injEq,
          Prod.mk.injEq, not_and]
        rintro - rfl
        exact accepted finalValid

end Tx

end Relational
