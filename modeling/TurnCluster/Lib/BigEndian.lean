import Mathlib.Algebra.Group.Nat.Defs
import Mathlib.Data.List.Forall2
import Mathlib.Tactic.Tauto

namespace TurnCluster

/-- The number that bytes spell, the most significant one first. -/
def number : List UInt8 → Nat
  | [] => 0
  | b :: rest => b.toNat * 256 ^ rest.length + number rest

theorem number_lt (bytes : List UInt8) : number bytes < 256 ^ bytes.length := by
  induction bytes with
  | nil => simp [number]
  | cons b rest ih =>
    have byte := b.toNat_lt
    have step := Nat.mul_le_mul_right (256 ^ rest.length) (Nat.succ_le_of_lt byte)
    rw [Nat.succ_mul] at step
    rw [number, List.length_cons, Nat.pow_succ]
    omega

variable {x y z : UInt8} {low xs high a ys : List UInt8}

/-- The order of numbers is decided by the first byte that differs. -/
theorem number_cons_le (same : xs.length = ys.length) :
    number (x :: xs) ≤ number (y :: ys) ↔ x < y ∨ x = y ∧ number xs ≤ number ys := by
  have below := number_lt xs
  have below' := number_lt ys
  have power : 0 < 256 ^ ys.length := Nat.pow_pos (by decide)
  rw [number, number, same, UInt8.lt_iff_toNat_lt, ← UInt8.toNat_inj]
  rw [same] at below
  rcases Nat.lt_trichotomy x.toNat y.toNat with less | equal | greater
  · have step := Nat.mul_le_mul_right (256 ^ ys.length) (Nat.succ_le_of_lt less)
    rw [Nat.succ_mul] at step
    omega
  · rw [equal]
    omega
  · have step := Nat.mul_le_mul_right (256 ^ ys.length) (Nat.succ_le_of_lt greater)
    rw [Nat.succ_mul] at step
    omega

theorem number_zeros (zeros : ∀ b ∈ xs, b = 0) : number xs = 0 := by
  induction xs with
  | nil => rfl
  | cons x xs ih =>
    rw [number, zeros x (.head _), ih (fun b member => zeros b (.tail _ member))]
    simp

theorem number_ones {xs : List UInt8} (ones : ∀ b ∈ xs, b = 255) : number xs + 1 = 256 ^ xs.length := by
  induction xs with
  | nil => rfl
  | cons x xs ih =>
    have later := ih (fun b member => ones b (.tail _ member))
    have head : x.toNat = 255 := by
      rw [ones x (.head _)]
      rfl
    rw [number, List.length_cons, Nat.pow_succ, head]
    omega

/-- `a` lies between `low` and `high` in every byte. -/
def InBox (low high a : List UInt8) : Prop := List.Forall₂ (· ≤ ·) low a ∧ List.Forall₂ (· ≤ ·) a high

/-- `a` lies between `low` and `high` as a number. -/
def InInterval (low high a : List UInt8) : Prop := number low ≤ number a ∧ number a ≤ number high

/-- Behind the first byte in which the bounds differ, the lower one has only the least bytes and the upper
one only the greatest; or the bounds are in the wrong order. -/
def Aligned : List UInt8 → List UInt8 → Prop
  | x :: xs, y :: ys => if x = y then Aligned xs ys else x < y → (∀ b ∈ xs, b = 0) ∧ ∀ b ∈ ys, b = 255
  | _, _ => True

theorem inBox_cons : InBox (x :: low) (y :: high) (z :: a) ↔ (x ≤ z ∧ z ≤ y) ∧ InBox low high a := by
  unfold InBox
  rw [List.forall₂_cons, List.forall₂_cons]
  tauto

theorem inInterval_cons (lower : low.length = a.length) (upper : a.length = high.length) :
    InInterval (x :: low) (y :: high) (z :: a) ↔
      (x < z ∨ x = z ∧ number low ≤ number a) ∧ (z < y ∨ z = y ∧ number a ≤ number high) := by
  unfold InInterval
  rw [number_cons_le lower, number_cons_le upper]

theorem forall₂_le_zeros (zeros : ∀ b ∈ xs, b = 0) (same : xs.length = ys.length) : List.Forall₂ (· ≤ ·) xs ys := by
  refine List.forall₂_iff_get.mpr ⟨same, ?_⟩
  intro i inside _
  rw [zeros _ (List.get_mem xs ⟨i, inside⟩)]
  exact UInt8.zero_le

theorem forall₂_le_ones (ones : ∀ b ∈ ys, b = 255) (same : xs.length = ys.length) : List.Forall₂ (· ≤ ·) xs ys := by
  refine List.forall₂_iff_get.mpr ⟨same, ?_⟩
  intro i _ inside
  rw [ones _ (List.get_mem ys ⟨i, inside⟩), UInt8.le_iff_toNat_le]
  exact Nat.le_of_lt_succ (UInt8.toNat_lt _)

/-- Only zeros are below zeros in every byte. -/
theorem zeros_of_forall₂_le (below : List.Forall₂ (· ≤ ·) xs (List.replicate xs.length 0)) : ∀ b ∈ xs, b = 0 := by
  intro b member
  obtain ⟨i, inside, rfl⟩ := List.mem_iff_getElem.mp member
  have order := (List.forall₂_iff_get.mp below).2 i inside (by simpa using inside)
  simpa using order

theorem ones_of_forall₂_le (below : List.Forall₂ (· ≤ ·) (List.replicate ys.length 255) ys) : ∀ b ∈ ys, b = 255 := by
  intro b member
  obtain ⟨i, inside, rfl⟩ := List.mem_iff_getElem.mp member
  have order := (List.forall₂_iff_get.mp below).2 i (by simpa using inside) inside
  have small := ys[i].toNat_lt
  simp only [List.get_eq_getElem, List.getElem_replicate, UInt8.le_iff_toNat_le] at order
  apply UInt8.toNat_inj.mp
  show ys[i].toNat = 255
  have bound : 255 ≤ ys[i].toNat := order
  omega

/-- Bounds that share their first byte. -/
theorem inBox_iff_cons_same (same : low.length = high.length) :
    (∀ a, a.length = (x :: low).length → (InBox (x :: low) (x :: high) a ↔ InInterval (x :: low) (x :: high) a)) ↔
      ∀ a, a.length = low.length → (InBox low high a ↔ InInterval low high a) := by
  constructor
  · intro agree a long
    have whole := agree (x :: a) (by simp [long])
    rw [inBox_cons, inInterval_cons long.symm (long.trans same)] at whole
    simpa [InInterval] using whole
  · intro agree a long
    obtain ⟨z, a, rfl⟩ := List.exists_cons_of_length_eq_add_one long
    have rest : a.length = low.length := by simpa using long
    rw [inBox_cons, inInterval_cons rest.symm (rest.trans same), agree a rest]
    simp only [InInterval, UInt8.le_iff_toNat_le, UInt8.lt_iff_toNat_lt, ← UInt8.toNat_inj]
    omega

/-- Bounds that differ in their first byte: the second bytes and so on must not bind. -/
theorem inBox_iff_cons_less (same : low.length = high.length) (less : x < y) :
    (∀ a, a.length = (x :: low).length → (InBox (x :: low) (y :: high) a ↔ InInterval (x :: low) (y :: high) a)) ↔
      (∀ b ∈ low, b = 0) ∧ ∀ b ∈ high, b = 255 := by
  have order := UInt8.lt_iff_toNat_lt.mp less
  constructor
  · intro agree
    constructor
    · -- the first address with the greater first byte
      have zeros : number (List.replicate low.length 0) = 0 := number_zeros (by simp)
      have inside : InInterval (x :: low) (y :: high) (y :: List.replicate low.length 0) := by
        rw [inInterval_cons (by simp) (by simp [same]), zeros]
        exact ⟨Or.inl less, Or.inr ⟨rfl, Nat.zero_le _⟩⟩
      have box := (agree _ (by simp)).mpr inside
      exact zeros_of_forall₂_le (inBox_cons.mp box).2.1
    · -- the last address with the smaller first byte
      have ones : number (List.replicate high.length 255) + 1 = 256 ^ high.length := by
        simpa using @number_ones (List.replicate high.length 255) (by simp)
      have below := number_lt low
      rw [same] at below
      have inside : InInterval (x :: low) (y :: high) (x :: List.replicate high.length 255) := by
        rw [inInterval_cons (by simp [same]) (by simp)]
        exact ⟨Or.inr ⟨rfl, by omega⟩, Or.inl less⟩
      have box := (agree _ (by simp [same])).mpr inside
      exact ones_of_forall₂_le (inBox_cons.mp box).2.2
  · rintro ⟨zeros, ones⟩ a long
    obtain ⟨z, a, rfl⟩ := List.exists_cons_of_length_eq_add_one long
    have rest : a.length = low.length := by simpa using long
    have box : InBox low high a := ⟨forall₂_le_zeros zeros rest.symm, forall₂_le_ones ones (rest.trans same)⟩
    have least := number_zeros zeros
    have most := number_ones ones
    have below := number_lt a
    rw [rest, same] at below
    rw [inBox_cons, inInterval_cons rest.symm (rest.trans same), and_iff_left box]
    simp only [UInt8.le_iff_toNat_le, UInt8.lt_iff_toNat_lt, ← UInt8.toNat_inj]
    omega

/-- For which bounds the order of the bytes is the order of the numbers. Induction on the common start. -/
theorem inBox_iff_inInterval (same : low.length = high.length) :
    (∀ a, a.length = low.length → (InBox low high a ↔ InInterval low high a)) ↔ Aligned low high := by
  induction low generalizing high with
  | nil =>
    cases high with
    | cons => simp at same
    | nil =>
      refine ⟨fun _ => trivial, fun _ a long => ?_⟩
      cases List.length_eq_zero_iff.mp long
      exact ⟨fun _ => ⟨Nat.le_refl _, Nat.le_refl _⟩, fun _ => ⟨.nil, .nil⟩⟩
  | cons x low ih =>
    cases high with
    | nil => simp at same
    | cons y high =>
      have rest : low.length = high.length := by simpa using same
      unfold Aligned
      by_cases equal : x = y
      · rw [if_pos equal, ← equal, inBox_iff_cons_same rest]
        exact ih rest
      · rw [if_neg equal]
        by_cases less : x < y
        · rw [inBox_iff_cons_less rest less]
          exact ⟨fun ends _ => ends, fun ends => ends less⟩
        · refine ⟨fun _ greater => absurd greater less, fun _ a long => ?_⟩
          obtain ⟨z, a, rfl⟩ := List.exists_cons_of_length_eq_add_one long
          have short : a.length = low.length := by simpa using long
          rw [inBox_cons, inInterval_cons short.symm (short.trans rest)]
          simp only [UInt8.le_iff_toNat_le, UInt8.lt_iff_toNat_lt, ← UInt8.toNat_inj] at equal less ⊢
          omega

end TurnCluster
