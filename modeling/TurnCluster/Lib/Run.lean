import Mathlib.Logic.Basic

namespace TurnCluster

/-- A component that takes events one after another: which states it may start
in, which events its surroundings may present, and what it does with one. `none`
is a step the component does not survive. -/
structure Machine (σ ε ο : Type) where
  init : σ → Prop
  enabled : σ → ε → Prop
  next : σ → ε → Option (σ × ο)

namespace Machine

variable {σ ε ο : Type} {m : Machine σ ε ο} {guard : σ → ε → Prop}

/-- The states of all runs whose every step is enabled and meets `guard`. -/
inductive Reach (m : Machine σ ε ο) (guard : σ → ε → Prop) : σ → Prop
  | start {s : σ} : m.init s → Reach m guard s
  | next {s s' : σ} {e : ε} {o : ο} :
      Reach m guard s → m.enabled s e → guard s e → m.next s e = some (s', o) → Reach m guard s'

/-- What holds at the start and survives every guarded step holds in every state reached. -/
theorem Reach.invariant {P : σ → Prop} (base : ∀ {s}, m.init s → P s)
    (preserved : ∀ {s s' e o}, P s → m.enabled s e → guard s e → m.next s e = some (s', o) → P s')
    {s : σ} (reach : Reach m guard s) : P s := by
  induction reach with
  | start initial => exact base initial
  | next _ enabled guarded run ih => exact preserved ih enabled guarded run

/-- The state after a list of events, if each was enabled, met the guard and was survived. -/
def replay (m : Machine σ ε ο) (guard : σ → ε → Prop) [∀ s e, Decidable (m.enabled s e)]
    [∀ s e, Decidable (guard s e)] : σ → List ε → Option σ
  | s, [] => some s
  | s, e :: rest =>
    if m.enabled s e ∧ guard s e then
      match m.next s e with
      | none => none
      | some (s', _) => replay m guard s' rest
    else none

theorem Reach.of_replay [∀ s e, Decidable (m.enabled s e)] [∀ s e, Decidable (guard s e)]
    {s s' : σ} {events : List ε} (reach : Reach m guard s)
    (replayed : replay m guard s events = some s') : Reach m guard s' := by
  induction events generalizing s with
  | nil =>
    cases Option.some.inj replayed
    exact reach
  | cons e rest ih =>
    simp only [replay] at replayed
    split at replayed
    · rename_i allowed
      split at replayed
      · cases replayed
      · rename_i s₁ o run
        exact ih (.next reach allowed.1 allowed.2 run) replayed
    · cases replayed

/-- A replay whose end passes a test gives a reached state that passes it. -/
theorem Reach.exists_of_replay [∀ s e, Decidable (m.enabled s e)] [∀ s e, Decidable (guard s e)]
    (s : σ) (events : List ε) {test : σ → Bool} (initial : m.init s)
    (passed : (replay m guard s events).map test = some true) :
    ∃ s', Reach m guard s' ∧ test s' = true := by
  cases replayed : replay m guard s events with
  | none => simp [replayed] at passed
  | some s' =>
    rw [replayed] at passed
    exact ⟨s', .of_replay (.start initial) replayed, Option.some.inj passed⟩

end Machine
end TurnCluster
