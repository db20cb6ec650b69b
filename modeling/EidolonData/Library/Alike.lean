import EidolonData.Library.Transaction

/-!
# Two runs side by side

Two programs are alike over a relation between states when, from related
states, they give the same value and leave related states, or refuse with the
same error.
-/

namespace Relational.Tx

variable {σ ε α β : Type} {R : σ → σ → Prop}

/-- The same value with related states, or the same error. -/
inductive Agree (R : σ → σ → Prop) : Except ε (α × σ) → Except ε (α × σ) → Prop where
  | ok {value : α} {state state' : σ} (related : R state state') :
      Agree R (.ok (value, state)) (.ok (value, state'))
  | error {failure : ε} : Agree R (.error failure) (.error failure)

def Alike (R : σ → σ → Prop) (left right : Tx σ ε α) : Prop :=
  ∀ state state', R state state' → Agree R (left.run state) (right.run state')

theorem alike_done (value : α) : Alike R (done value : Tx σ ε α) (done value) :=
  fun _ _ related => .ok related

theorem alike_refuse (error : ε) : Alike R (refuse error : Tx σ ε α) (refuse error) :=
  fun _ _ _ => .error

theorem Alike.bind {left right : Tx σ ε α} {rest rest' : α → Tx σ ε β} (first : Alike R left right)
    (after : ∀ value, Alike R (rest value) (rest' value)) :
    Alike R (left >>= rest) (right >>= rest') := by
  intro state state' related
  rw [run_bind, run_bind]
  have agreed := first state state' related
  generalize left.run state = outcome at agreed ⊢
  generalize right.run state' = outcome' at agreed ⊢
  cases agreed with
  | ok related => exact after _ _ _ related
  | error => exact .error

theorem alike_read {query query' : σ → α}
    (same : ∀ state state', R state state' → query state = query' state') :
    Alike R (read query : Tx σ ε α) (read query') := by
  intro state state' related
  rw [run_read, run_read, same state state' related]
  exact .ok related

theorem alike_modify {change change' : σ → σ}
    (kept : ∀ state state', R state state' → R (change state) (change' state')) :
    Alike R (modify change : Tx σ ε Unit) (modify change') :=
  fun state state' related => .ok (kept state state' related)

theorem alike_refuseIf (condition : Prop) [Decidable condition] (error : ε) :
    Alike R (refuseIf condition error : Tx σ ε Unit) (refuseIf condition error) := by
  unfold refuseIf
  split
  · exact alike_refuse error
  · exact alike_done ()

theorem alike_require (value : Option α) (error : ε) :
    Alike R (require value error : Tx σ ε α) (require value error) := by
  cases value with
  | none => exact alike_refuse error
  | some value => exact alike_done value

theorem alike_lift {δ : Type} (translate : δ → ε) (outcome : Except δ α) :
    Alike R (lift translate outcome : Tx σ ε α) (lift translate outcome) := by
  cases outcome with
  | ok value => exact alike_done value
  | error failure => exact alike_refuse (translate failure)

theorem Alike.ite (condition : Prop) [Decidable condition] {left left' right right' : Tx σ ε α}
    (yes : Alike R left left') (no : Alike R right right') :
    Alike R (if condition then left else right) (if condition then left' else right') := by
  split
  · exact yes
  · exact no

theorem Alike.ok {left right : Tx σ ε α} (alike : Alike R left right) {state state' after : σ}
    (related : R state state') {value : α} (ran : left.run state = .ok (value, after)) :
    ∃ after', right.run state' = .ok (value, after') ∧ R after after' := by
  have agreed := alike state state' related
  rw [ran] at agreed
  generalize right.run state' = outcome at agreed ⊢
  cases agreed with
  | ok related => exact ⟨_, rfl, related⟩

end Relational.Tx
