/-!
# Runs of a step function

What holds at every moment of a run, and what each of its steps does.
-/

namespace Relational

variable {σ ε : Type} {step : σ → ε → σ} {holds : σ → Prop} {related : σ → σ → Prop}

/-- A fact at every moment of a run: before, between and after its events. -/
def Throughout (step : σ → ε → σ) (holds : σ → Prop) : List ε → σ → Prop
  | [], state => holds state
  | event :: events, state => holds state ∧ Throughout step holds events (step state event)

/-- A relation between the states around every event of a run. -/
def Stepwise (step : σ → ε → σ) (related : σ → σ → Prop) : List ε → σ → Prop
  | [], _ => True
  | event :: events, state =>
      related state (step state event) ∧ Stepwise step related events (step state event)

namespace Throughout

theorem start {events : List ε} {state : σ} (lasts : Throughout step holds events state) :
    holds state := by
  cases events with
  | nil => exact lasts
  | cons event events => exact lasts.1

theorem final {events : List ε} {state : σ} (lasts : Throughout step holds events state) :
    holds (events.foldl step state) := by
  induction events generalizing state with
  | nil => exact lasts
  | cons event events induction => exact induction lasts.2

theorem snoc {events : List ε} {event : ε} {state : σ}
    (lasts : Throughout step holds events state)
    (last : holds (step (events.foldl step state) event)) :
    Throughout step holds (events ++ [event]) state := by
  induction events generalizing state with
  | nil => exact ⟨lasts, last⟩
  | cons first events induction => exact ⟨lasts.1, induction lasts.2 last⟩

/-- What every step preserves while a fact lasts, a run in which it lasts
preserves. -/
theorem carries {motive : σ → Prop}
    (preserved : ∀ state event, holds state → holds (step state event) → motive state →
      motive (step state event))
    {events : List ε} {state : σ} (lasts : Throughout step holds events state)
    (before : motive state) : motive (events.foldl step state) := by
  induction events generalizing state with
  | nil => exact before
  | cons event events induction =>
      obtain ⟨now, later⟩ := lasts
      exact induction later (preserved state event now later.start before)

end Throughout

/-- A fact that no step brings about has held all along. -/
theorem Stepwise.throughout {events : List ε} {state : σ}
    (steps : Stepwise step related events state)
    (back : ∀ {before after}, related before after → holds after → holds before)
    (final : holds (events.foldl step state)) : Throughout step holds events state := by
  induction events generalizing state with
  | nil => exact final
  | cons event events induction =>
      obtain ⟨first, rest⟩ := steps
      have later := induction rest final
      exact ⟨back first later.start, later⟩

theorem foldl_preserves {motive : σ → Prop}
    (preserved : ∀ state event, motive state → motive (step state event)) (events : List ε)
    {state : σ} (before : motive state) : motive (events.foldl step state) := by
  induction events generalizing state with
  | nil => exact before
  | cons event events induction => exact induction (preserved state event before)

end Relational
