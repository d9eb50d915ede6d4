import Mathlib.Algebra.Group.Defs
import Mathlib.Logic.Basic
import Mathlib.Tactic.ByContra

namespace TurnCluster

/-- A component that answers every call: its state after the call, and the answer. -/
abbrev Service (σ ε ο : Type) := σ → ε → σ × ο

namespace Service

variable {σ τ ε ο : Type} {step : Service σ ε ο} {spec : Service τ ε ο} {guard : σ → ε → Prop} {rel : σ → τ → Prop}

/-- The answers to a history of calls. -/
def trace (step : Service σ ε ο) : σ → List ε → List ο
  | _, [] => []
  | s, e :: rest => (step s e).2 :: trace step (step s e).1 rest

/-- The state after a history of calls. -/
def after (step : Service σ ε ο) : σ → List ε → σ
  | s, [] => s
  | s, e :: rest => after step (step s e).1 rest

/-- Every call of the history is made in a state in which it meets `guard`. -/
def Along (step : Service σ ε ο) (guard : σ → ε → Prop) : σ → List ε → Prop
  | _, [] => True
  | s, e :: rest => guard s e ∧ Along step guard (step s e).1 rest

/-- A call that is allowed and meets the guard keeps the two states related and gets the same answer from both. -/
structure Simulates (step : Service σ ε ο) (spec : Service τ ε ο) (allowed : ε → Prop) (guard : σ → ε → Prop)
    (rel : σ → τ → Prop) : Prop where
  call : ∀ {s t e}, rel s t → allowed e → guard s e →
    rel (step s e).1 (spec t e).1 ∧ (step s e).2 = (spec t e).2

namespace Simulates

variable {allowed : ε → Prop} {s : σ} {t : τ} {calls : List ε}

theorem run (sim : Simulates step spec allowed guard rel) (start : rel s t) (all : ∀ e ∈ calls, allowed e)
    (along : Along step guard s calls) :
    rel (after step s calls) (after spec t calls) ∧ trace step s calls = trace spec t calls := by
  induction calls generalizing s t with
  | nil => exact ⟨start, rfl⟩
  | cons e rest ih =>
    obtain ⟨here, later⟩ := along
    obtain ⟨related, same⟩ := sim.call start (all e List.mem_cons_self) here
    obtain ⟨ends, behind⟩ := ih related (fun e member => all e (List.mem_cons_of_mem _ member)) later
    exact ⟨ends, by simp only [trace, same, behind]⟩

/-- Where a call that does not meet the guard is answered differently, the answers to a history agree if and only if
all its calls meet the guard. -/
theorem trace_eq_iff (sim : Simulates step spec allowed guard rel)
    (differs : ∀ {s t e}, rel s t → allowed e → ¬ guard s e → (step s e).2 ≠ (spec t e).2) (start : rel s t)
    (all : ∀ e ∈ calls, allowed e) : trace step s calls = trace spec t calls ↔ Along step guard s calls := by
  refine ⟨?_, fun along => (sim.run start all along).2⟩
  induction calls generalizing s t with
  | nil => exact fun _ => trivial
  | cons e rest ih =>
    intro same
    obtain ⟨first, behind⟩ := List.cons.inj same
    have known := all e List.mem_cons_self
    have here : guard s e := by
      by_contra broken
      exact differs start known broken first
    exact ⟨here, ih (sim.call start known here).1 (fun e member => all e (List.mem_cons_of_mem _ member)) behind⟩

end Simulates

theorem along_true (s : σ) (calls : List ε) : Along step (fun _ _ => True) s calls := by
  induction calls generalizing s with
  | nil => trivial
  | cons e rest ih => exact ⟨trivial, ih _⟩

/-- What a run gives out and has left is what there was and what it took in. -/
theorem sum_trace {M : Type} [AddCommMonoid M] {held : σ → M} {gives : ο → M} {takes : ε → M}
    (balance : ∀ s e, gives (step s e).2 + held (step s e).1 = held s + takes e) (s : σ) (calls : List ε) :
    ((trace step s calls).map gives).sum + held (after step s calls) = held s + (calls.map takes).sum := by
  induction calls generalizing s with
  | nil => simp only [trace, after, List.map_nil, List.sum_nil, zero_add, add_zero]
  | cons e rest ih =>
    simp only [trace, after, List.map_cons, List.sum_cons]
    rw [add_assoc, ih, ← add_assoc, balance, add_assoc]

end Service
end TurnCluster
