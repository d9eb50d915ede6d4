import Mathlib.Data.List.Range
import TurnCluster.Lib.Service

namespace TurnCluster
namespace Rotation

variable {α ε ο : Type} {p : α → Bool}

/-- A look through a queue that tries at most `fuel` elements: each one tried goes to the end, and
the first that passes is served. -/
def turn (p : α → Bool) : Nat → List α → List α × Option α
  | 0, queue => (queue, none)
  | _ + 1, [] => ([], none)
  | fuel + 1, x :: rest => if p x then (rest ++ [x], some x) else turn p fuel (rest ++ [x])

theorem turn_append {before after : List α} {x : α} (skipped : ∀ y ∈ before, ¬ p y = true) (passes : p x = true)
    {fuel : Nat} (enough : before.length < fuel) :
    turn p fuel (before ++ x :: after) = (after ++ before ++ [x], some x) := by
  induction before generalizing after fuel with
  | nil =>
    obtain ⟨fuel, rfl⟩ := Nat.exists_eq_succ_of_ne_zero (Nat.ne_zero_of_lt enough)
    simp only [List.nil_append, turn, if_pos passes, List.append_nil]
  | cons y before ih =>
    obtain ⟨fuel, rfl⟩ := Nat.exists_eq_succ_of_ne_zero (Nat.ne_zero_of_lt enough)
    have here := skipped y List.mem_cons_self
    have later : turn p fuel (before ++ x :: (after ++ [y])) = (after ++ [y] ++ before ++ [x], some x) :=
      ih (fun z member => skipped z (List.mem_cons_of_mem _ member)) (Nat.lt_of_succ_lt_succ enough)
    simp only [List.cons_append, turn, if_neg here, List.append_assoc] at later ⊢
    rw [later]
    rfl

/-- The first that passes is served, and waits behind the others that pass. -/
theorem turn_filter {queue others : List α} {x : α} (first : queue.filter p = x :: others) :
    ∃ queue', turn p queue.length queue = (queue', some x) ∧ queue'.filter p = others ++ [x] := by
  obtain ⟨before, after, rfl, skipped, passes, rfl⟩ := List.filter_eq_cons_iff.mp first
  refine ⟨after ++ before ++ [x], turn_append skipped passes ?_, ?_⟩
  · simp only [List.length_append, List.length_cons]
    omega
  · have none : before.filter p = [] := List.filter_eq_nil_iff.mpr skipped
    rw [List.filter_append, List.filter_append, none, List.append_nil, List.filter_cons_of_pos passes, List.filter_nil]

/-- Calls that are answered with what a turn of the queue serves. -/
def service (p : α → Bool) (answer : ε → Option α → ο) : Service (List α) ε ο := fun queue e =>
  ((turn p queue.length queue).1, answer e (turn p queue.length queue).2)

theorem zipWith_append_left {β γ : Type} (f : ε → β → γ) {calls : List ε} {served : List β}
    (few : calls.length ≤ served.length) (more : List β) :
    List.zipWith f calls (served ++ more) = List.zipWith f calls served := by
  induction calls generalizing served with
  | nil => rfl
  | cons e rest ih =>
    cases served with
    | nil => exact absurd few (Nat.not_succ_le_zero _)
    | cons x served =>
      rw [List.cons_append, List.zipWith_cons_cons, List.zipWith_cons_cons, ih (Nat.le_of_succ_le_succ few)]

/-- As many calls as there are elements that pass serve each of them once, in the order of the queue. -/
theorem trace_service (answer : ε → Option α → ο) {queue : List α} {calls : List ε}
    (few : calls.length ≤ (queue.filter p).length) :
    Service.trace (service p answer) queue calls =
      List.zipWith (fun e x => answer e (some x)) calls (queue.filter p) := by
  induction calls generalizing queue with
  | nil => rfl
  | cons e rest ih =>
    cases passing : queue.filter p with
    | nil =>
      rw [passing] at few
      exact absurd few (Nat.not_succ_le_zero _)
    | cons x others =>
      rw [passing] at few
      have room := Nat.le_of_succ_le_succ few
      obtain ⟨queue', turned, behind⟩ := turn_filter passing
      have enough : rest.length ≤ (queue'.filter p).length := by
        rw [behind, List.length_append]
        exact Nat.le_add_right_of_le room
      have later := ih enough
      rw [behind, zipWith_append_left _ room] at later
      simp only [Service.trace, service, turned, List.zipWith_cons_cons] at later ⊢
      rw [later]

/-- The numbers below `n`, from `c` on and then from the start. -/
def order (n c : Nat) : List Nat := if n ≤ c then List.range n else List.range' c (n - c) ++ List.range c

theorem order_perm (n c : Nat) : (order n c).Perm (List.range n) := by
  unfold order
  split
  · exact .refl _
  · rename_i below
    have whole : List.range c ++ List.range' c (n - c) = List.range n := by
      have joined : List.range' 0 c ++ List.range' (0 + 1 * c) (n - c) = List.range' 0 (c + (n - c)) :=
        List.range'_append
      rwa [Nat.zero_add, Nat.one_mul, Nat.add_sub_of_le (by omega), ← List.range_eq_range',
        ← List.range_eq_range'] at joined
    exact whole ▸ List.perm_append_comm

theorem length_order (n c : Nat) : (order n c).length = n := by
  rw [(order_perm n c).length_eq, List.length_range]

/-- Moving on by one takes the first number to the end. -/
theorem order_next {n c : Nat} (below : c < n) :
    ∃ rest, order n c = c :: rest ∧ order n (c + 1) = rest ++ [c] := by
  refine ⟨List.range' (c + 1) (n - (c + 1)) ++ List.range c, ?_, ?_⟩
  · have steps : n - c = n - (c + 1) + 1 := by omega
    rw [order, if_neg (by omega), steps, List.range'_succ, List.cons_append]
  · unfold order
    split
    · have last : n = c + 1 := by omega
      rw [last, Nat.sub_self, List.range'_zero, List.nil_append, List.range_succ]
    · rw [List.range_succ, List.append_assoc]

theorem order_of_le {n c : Nat} (above : n ≤ c) : order n c = order n 0 := by
  unfold order
  rw [if_pos above]
  split
  · rfl
  · rw [Nat.sub_zero, List.range_zero, List.append_nil, List.range_eq_range']

end Rotation
end TurnCluster
