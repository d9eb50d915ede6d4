import Mathlib.Data.Nat.Digits.Defs
import Mathlib.Tactic.Ring

namespace TurnCluster

/-- How many digits a number has; the number 0 has one. -/
def digitCount (n : Nat) : Nat := (Nat.toDigits 10 n).length

theorem digitCount_pos (n : Nat) : 0 < digitCount n := Nat.length_toDigits_pos

theorem lt_pow_digitCount (n : Nat) : n < 10 ^ digitCount n :=
  (Nat.length_toDigits_le_iff (by decide) (digitCount_pos n)).mp (Nat.le_refl _)

variable {a n p a' k p' : Nat} {start : List Char}

theorem pow_le_of_lt_digitCount (positive : 0 < k) (long : k < digitCount n) : 10 ^ k ≤ n := by
  by_contra small
  have short := (Nat.length_toDigits_le_iff (by decide) positive).mpr (Nat.not_le.mp small)
  exact absurd long (Nat.not_lt.mpr short)

/-- The digits of one number behind those of another are those of a third. Induction on the digits behind. -/
theorem toDigits_append_toDigits (positive : 0 < n) (m : Nat) :
    Nat.toDigits 10 n ++ Nat.toDigits 10 m = Nat.toDigits 10 (n * 10 ^ digitCount m + m) := by
  induction m using Nat.strong_induction_on with
  | _ m ih =>
    by_cases single : m < 10
    · have one : digitCount m = 1 := by rw [digitCount, Nat.toDigits_of_lt_base single, List.length_singleton]
      rw [one, Nat.toDigits_append_toDigits (by decide) positive single]
      congr 1
      omega
    · have last : m % 10 < 10 := Nat.mod_lt m (by decide)
      have whole : 10 * (m / 10) + m % 10 = m := Nat.div_add_mod m 10
      have split : Nat.toDigits 10 m = Nat.toDigits 10 (m / 10) ++ Nat.toDigits 10 (m % 10) := by
        rw [Nat.toDigits_append_toDigits (by decide) (by omega) last, whole]
      have count : digitCount m = digitCount (m / 10) + 1 := by
        rw [digitCount, split, List.length_append, Nat.toDigits_of_lt_base last, List.length_singleton, digitCount]
      rw [split, ← List.append_assoc, ih (m / 10) (by omega),
        Nat.toDigits_append_toDigits (by decide) (by positivity) last, count]
      congr 1
      calc 10 * (n * 10 ^ digitCount (m / 10) + m / 10) + m % 10
          = n * 10 ^ (digitCount (m / 10) + 1) + (10 * (m / 10) + m % 10) := by ring
        _ = n * 10 ^ (digitCount (m / 10) + 1) + m := by rw [whole]

/-- The value of a number whose digits start with those of another. -/
theorem eq_of_toDigits_append {rest : List Char} (digits : Nat.toDigits 10 k = Nat.toDigits 10 n ++ rest) :
    k = n * 10 ^ rest.length + Nat.ofDigitChars 10 rest 0 := by
  have value := congrArg (fun text => Nat.ofDigitChars 10 text 0) digits
  simp only [Nat.ofDigitChars_append, Nat.ofDigitChars_ten_toDigits] at value
  rw [value, Nat.ofDigitChars_eq_ofDigitChars_zero, Nat.mul_comm]

theorem eq_of_append_toDigits (digits : Nat.toDigits 10 k = start ++ Nat.toDigits 10 n) :
    k = Nat.ofDigitChars 10 start 0 * 10 ^ digitCount n + n := by
  have value := congrArg (fun text => Nat.ofDigitChars 10 text 0) digits
  simp only [Nat.ofDigitChars_append, Nat.ofDigitChars_ten_toDigits] at value
  rw [value, Nat.ofDigitChars_eq_ofDigitChars_zero, Nat.ofDigitChars_ten_toDigits, Nat.mul_comm, digitCount]

theorem toDigits_inj (same : Nat.toDigits 10 n = Nat.toDigits 10 k) : n = k := by
  have value := congrArg (fun text => Nat.ofDigitChars 10 text 0) same
  simpa only [Nat.ofDigitChars_ten_toDigits] using value

/-- The first digits of `p` can be read as the last ones of `a'`, which else is `a`: what remains of `p` is `p'`. -/
def Spills (a p a' p' : Nat) : Prop :=
  0 < a ∧ ∃ v, 0 < v ∧ a' = a * 10 ^ digitCount v + v ∧ p = v * 10 ^ digitCount p' + p'

theorem Spills.same_digits (spills : Spills a p a' p') :
    Nat.toDigits 10 a ++ Nat.toDigits 10 p = Nat.toDigits 10 a' ++ Nat.toDigits 10 p' := by
  obtain ⟨positive, v, some', front, back⟩ := spills
  rw [front, back, ← toDigits_append_toDigits some' p', ← toDigits_append_toDigits positive v, List.append_assoc]

theorem digitCount_eq (positive : 0 < k) (low : 10 ^ (k - 1) ≤ n) (high : n < 10 ^ k) : digitCount n = k := by
  have upper : digitCount n ≤ k := (Nat.length_toDigits_le_iff (by decide) positive).mpr high
  have lower : k ≤ digitCount n := by
    by_contra short
    have some' := digitCount_pos n
    have small := (Nat.length_toDigits_le_iff (by decide) (show 0 < k - 1 by omega)).mp
      (show digitCount n ≤ k - 1 by omega)
    omega
  omega

/-- A number that starts with some digits more than another has: these are the digits of a number too, since
they do not start with a zero. -/
theorem digitCount_of_append (some' : start ≠ []) (digits : Nat.toDigits 10 p = start ++ Nat.toDigits 10 p') :
    digitCount (Nat.ofDigitChars 10 start 0) = start.length ∧ 0 < Nat.ofDigitChars 10 start 0 := by
  have value := eq_of_append_toDigits digits
  have positive : 0 < start.length := List.length_pos_iff.mpr some'
  have count : digitCount p = start.length + digitCount p' := by rw [digitCount, digits, List.length_append, digitCount]
  have below := lt_pow_digitCount p
  have below' := lt_pow_digitCount p'
  have behind := digitCount_pos p'
  have above : 10 ^ (start.length - 1 + digitCount p') ≤ p := pow_le_of_lt_digitCount (by omega) (by omega)
  rw [count, Nat.pow_add] at below
  rw [Nat.pow_add] at above
  generalize Nat.ofDigitChars 10 start 0 = v at value ⊢
  have high : v < 10 ^ start.length := by
    apply Nat.lt_of_mul_lt_mul_right (a := 10 ^ digitCount p')
    omega
  have low : 10 ^ (start.length - 1) ≤ v := by
    apply Nat.le_of_lt_succ
    apply Nat.lt_of_mul_lt_mul_right (a := 10 ^ digitCount p')
    rw [Nat.succ_mul]
    omega
  exact ⟨digitCount_eq positive low high, Nat.lt_of_lt_of_le (Nat.pow_pos (by decide)) low⟩

theorem spills_of_append {shared : List Char} (some' : shared ≠ [])
    (front : Nat.toDigits 10 a' = Nat.toDigits 10 a ++ shared)
    (back : Nat.toDigits 10 p = shared ++ Nat.toDigits 10 p') : Spills a p a' p' := by
  obtain ⟨count, positive⟩ := digitCount_of_append some' back
  have value := eq_of_toDigits_append front
  rw [← count] at value
  refine ⟨?_, Nat.ofDigitChars 10 shared 0, positive, value, eq_of_append_toDigits back⟩
  by_contra zero
  have longer : digitCount a' = digitCount a + shared.length := by rw [digitCount, front, List.length_append, digitCount]
  have first := digitCount_pos a
  rw [Nat.eq_zero_of_not_pos zero, Nat.zero_mul, Nat.zero_add] at value
  rw [value, count] at longer
  omega

/-- Two numbers written one behind the other can be told apart, unless digits spill over from one to the other. -/
theorem append_digits_inj_iff (a p a' p' : Nat) :
    (Nat.toDigits 10 a ++ Nat.toDigits 10 p = Nat.toDigits 10 a' ++ Nat.toDigits 10 p' → a = a' ∧ p = p') ↔
      ¬ Spills a p a' p' ∧ ¬ Spills a' p' a p := by
  have differ {a p a' p' : Nat} (spills : Spills a p a' p') : a ≠ a' := by
    obtain ⟨_, v, positive, front, _⟩ := spills
    have grown := Nat.le_mul_of_pos_right a (Nat.pow_pos (show 0 < 10 by decide) (n := digitCount v))
    omega
  constructor
  · intro inj
    exact ⟨fun spills => differ spills (inj spills.same_digits).1,
      fun spills => differ spills (inj spills.same_digits.symm).1.symm⟩
  · rintro ⟨none, none'⟩ same
    rcases List.append_eq_append_iff.mp same with ⟨shared, front, back⟩ | ⟨shared, front, back⟩
    · by_cases empty : shared = []
      · rw [empty] at front back
        exact ⟨(toDigits_inj (by simpa using front)).symm, toDigits_inj (by simpa using back)⟩
      · exact absurd (spills_of_append empty front back) none
    · by_cases empty : shared = []
      · rw [empty] at front back
        exact ⟨toDigits_inj (by simpa using front), (toDigits_inj (by simpa using back)).symm⟩
      · exact absurd (spills_of_append empty front back) none'

/-- Text up to a separator that does not occur in it. -/
theorem append_cons_inj {α : Type} {P : α → Prop} {sep : α} (other : ¬ P sep) {xs ys rest rest' : List α}
    (first : ∀ x ∈ xs, P x) (second : ∀ y ∈ ys, P y) (same : xs ++ sep :: rest = ys ++ sep :: rest') :
    xs = ys ∧ rest = rest' := by
  induction xs generalizing ys with
  | nil =>
    cases ys with
    | nil => exact ⟨rfl, (List.cons.inj same).2⟩
    | cons y ys =>
      obtain ⟨head, _⟩ := List.cons.inj same
      exact absurd (head ▸ second y (.head _)) other
  | cons x xs ih =>
    cases ys with
    | nil =>
      obtain ⟨head, _⟩ := List.cons.inj same
      exact absurd (head ▸ first x (.head _)) other
    | cons y ys =>
      obtain ⟨head, tail⟩ := List.cons.inj same
      obtain ⟨rfl, behind⟩ := ih (fun x member => first x (.tail _ member)) (fun y member => second y (.tail _ member)) tail
      exact ⟨by rw [head], behind⟩

end TurnCluster
