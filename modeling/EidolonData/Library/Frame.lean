import EidolonData.Library.Transaction

/-!
# What a transaction leaves alone

A part of the state that no write of a program touches, whatever its queries
are answered: a condition on the program text, which the rules below read off
construct by construct.
-/

namespace Relational

namespace Tx

variable {σ ε α β γ : Type} {part : σ → γ}

/-- Every write keeps the part, and the values the program can end with are
among the wanted ones. -/
def Keeps (part : σ → γ) : Tx σ ε α → (α → Prop) → Prop
  | done value, post => post value
  | refuse _, _ => True
  | select _ next, post => ∀ answer, (next answer).Keeps part post
  | write change next, post =>
      (∀ state state', change state = .ok state' → part state' = part state) ∧
        next.Keeps part post

@[simp] theorem keeps_done (value : α) (post : α → Prop) :
    (done value : Tx σ ε α).Keeps part post ↔ post value := Iff.rfl

@[simp] theorem keeps_refuse (error : ε) (post : α → Prop) :
    (refuse error : Tx σ ε α).Keeps part post := trivial

@[simp] theorem keeps_bind (program : Tx σ ε α) (rest : α → Tx σ ε β) (post : β → Prop) :
    (program >>= rest).Keeps part post ↔
      program.Keeps part (fun value => (rest value).Keeps part post) := by
  show (program.bind rest).Keeps part post ↔ _
  induction program with
  | done value => rfl
  | refuse error => rfl
  | select query next induction => exact forall_congr' induction
  | write change next induction => exact and_congr_right (fun _ => induction)

@[simp] theorem keeps_read (query : σ → β) (post : β → Prop) :
    (read query : Tx σ ε β).Keeps part post ↔ ∀ answer, post answer := Iff.rfl

theorem keeps_attempt (change : σ → Except ε σ) (post : Unit → Prop) :
    (attempt change).Keeps part post ↔
      (∀ state state', change state = .ok state' → part state' = part state) ∧ post () :=
  Iff.rfl

@[simp] theorem keeps_attempt_guarded {stops : σ → Prop} [DecidablePred stops] {error : σ → ε}
    {change : σ → σ} (post : Unit → Prop) :
    (attempt (fun state =>
        if stops state then .error (error state) else .ok (change state))).Keeps part post ↔
      (∀ state, ¬ stops state → part (change state) = part state) ∧ post () := by
  rw [keeps_attempt]
  refine and_congr_left (fun _ => forall_congr' fun state => ?_)
  by_cases stopped : stops state
  · simp [stopped]
  · simp [stopped]

/-- A statement its guard lets through. -/
@[simp] theorem keeps_attempt_allowed {allows : σ → Prop} [DecidablePred allows] {error : σ → ε}
    {change : σ → σ} (post : Unit → Prop) :
    (attempt (fun state =>
        if allows state then .ok (change state) else .error (error state))).Keeps part post ↔
      (∀ state, allows state → part (change state) = part state) ∧ post () := by
  rw [keeps_attempt]
  refine and_congr_left (fun _ => forall_congr' fun state => ?_)
  by_cases allowed : allows state
  · simp [allowed]
  · simp [allowed]

@[simp] theorem keeps_modify (change : σ → σ) (post : Unit → Prop) :
    (modify change : Tx σ ε Unit).Keeps part post ↔
      (∀ state, part (change state) = part state) ∧ post () := by
  simp [modify, keeps_attempt]

@[simp] theorem keeps_refuseIf (condition : Prop) [Decidable condition] (error : ε)
    (post : Unit → Prop) :
    (refuseIf condition error : Tx σ ε Unit).Keeps part post ↔ (¬ condition → post ()) := by
  unfold refuseIf
  split
  · next holds => simp [holds]
  · next fails => simp [fails]

@[simp] theorem keeps_require (value : Option α) (error : ε) (post : α → Prop) :
    (require value error : Tx σ ε α).Keeps part post ↔ ∀ found, value = some found →
    post found := by
  cases value with
  | none => simp [require]
  | some found => simp [require]

@[simp] theorem keeps_lift {δ : Type} (translate : δ → ε) (outcome : Except δ α)
    (post : α → Prop) :
    (lift translate outcome : Tx σ ε α).Keeps part post ↔
      ∀ value, outcome = .ok value → post value := by
  cases outcome with
  | ok value => simp [lift]
  | error failure => simp [lift]

@[simp] theorem keeps_mapError (translate : ε → ε) (program : Tx σ ε α) (post : α → Prop) :
    (program.mapError translate).Keeps part post ↔ program.Keeps part post := by
  induction program with
  | done value => rfl
  | refuse error => rfl
  | select query next induction => exact forall_congr' induction
  | write change next induction =>
      refine and_congr (forall_congr' fun state => forall_congr' fun state' => ?_) induction
      show ((change state).mapError translate = .ok state' → _) ↔ (change state = .ok state' → _)
      cases change state with
      | ok written => rfl
      | error error =>
          constructor
          · rintro _ ⟨⟩
          · rintro _ ⟨⟩

@[simp] theorem keeps_ite (condition : Prop) [Decidable condition] (left right : Tx σ ε α)
    (post : α → Prop) :
    (if condition then left else right).Keeps part post ↔
      (condition → left.Keeps part post) ∧ (¬ condition → right.Keeps part post) := by
  split
  · next holds => simp [holds]
  · next fails => simp [fails]

theorem Keeps.mono {program : Tx σ ε α} {post post' : α → Prop} (keeps : program.Keeps part post)
    (weaker : ∀ value, post value → post' value) : program.Keeps part post' := by
  induction program with
  | done value => exact weaker value keeps
  | refuse error => trivial
  | select query next induction => exact fun answer => induction answer (keeps answer)
  | write change next induction => exact ⟨keeps.1, induction keeps.2⟩

/-- What is kept of a part is kept of all that is read off it. -/
theorem Keeps.view {δ : Type} {program : Tx σ ε α} {post : α → Prop}
    (keeps : program.Keeps part post) (view : γ → δ) :
    program.Keeps (fun state => view (part state)) post := by
  induction program with
  | done value => exact keeps
  | refuse error => trivial
  | select query next induction => exact fun answer => induction answer (keeps answer)
  | write change next induction =>
      refine ⟨?_, induction keeps.2⟩
      intro state state' changed
      exact congrArg view (keeps.1 state state' changed)

/-- No write of the program touches the part. -/
structure Spares (part : σ → γ) (program : Tx σ ε α) : Prop where
  all : program.Keeps part (fun _ => True)

@[simp] theorem spares_iff {program : Tx σ ε α} :
    program.Spares part ↔ program.Keeps part (fun _ => True) :=
  ⟨fun spares => spares.all, fun all => ⟨all⟩⟩

theorem Spares.keeps {program : Tx σ ε α} {post : α → Prop} (spares : program.Spares part)
    (all : ∀ value, post value) : program.Keeps part post :=
  spares.all.mono (fun value _ => all value)

theorem spares_bind {program : Tx σ ε α} {rest : α → Tx σ ε β} (first : program.Spares part)
    (second : ∀ value, (rest value).Spares part) : (program >>= rest).Spares part :=
  ⟨(keeps_bind program rest _).mpr (first.keeps (fun value => (second value).all))⟩

theorem Keeps.ensures {program : Tx σ ε α} {post : α → Prop} (keeps : program.Keeps part post)
    (state : σ) : program.Ensures state
    (fun value state' => part state' = part state ∧ post value) := by
  induction program generalizing state with
  | done value =>
      rintro _ _ ⟨⟩
      exact ⟨rfl, keeps⟩
  | refuse error =>
      rintro _ _ ⟨⟩
  | select query next induction =>
      exact induction (query state) (keeps (query state)) state
  | write change next induction =>
      intro value final ran
      obtain ⟨kept, rest⟩ := keeps
      simp only [run] at ran
      cases changed : change state with
      | error error =>
          rw [changed] at ran
          cases ran
      | ok state' =>
          rw [changed] at ran
          obtain ⟨same, ends⟩ := induction rest state' value final ran
          exact ⟨same.trans (kept state state' changed), ends⟩

theorem Spares.ensures {program : Tx σ ε α} (spares : program.Spares part) (state : σ) :
    program.Ensures state (fun _ state' => part state' = part state) :=
  (spares.all.ensures state).mono (fun _ _ ended => ended.1)

end Tx

end Relational
