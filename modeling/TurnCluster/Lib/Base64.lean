import Mathlib.Algebra.Group.Nat.Defs
import Mathlib.Data.List.Basic

namespace TurnCluster
namespace Base64

/-- Three bytes as one number. -/
def triple (a b c : UInt8) : Nat := a.toNat * 65536 + b.toNat * 256 + c.toNat

/-- A figure of the number to base 64. -/
def sextet (number k : Nat) : Nat := number / 64 ^ k % 64

variable (digit : Nat → UInt8) (pad : UInt8)

/-- The four digits of three bytes. -/
def quad (a b c : UInt8) : List UInt8 :=
  [digit (sextet (triple a b c) 3), digit (sextet (triple a b c) 2), digit (sextet (triple a b c) 1),
    digit (sextet (triple a b c) 0)]

/-- The digits of all bytes, the last three being filled up with zeros. -/
def filled : List UInt8 → List UInt8
  | [] => []
  | [a] => quad digit a 0 0
  | [a, b] => quad digit a b 0
  | a :: b :: c :: rest => quad digit a b c ++ filled rest

/-- The text: digits that stand for no byte are replaced. -/
def text : List UInt8 → List UInt8
  | [] => []
  | [a] => (quad digit a 0 0).take 2 ++ [pad, pad]
  | [a, b] => (quad digit a b 0).take 3 ++ [pad]
  | a :: b :: c :: rest => quad digit a b c ++ text rest

/-- How many digits are replaced. -/
def padding (length : Nat) : Nat := (3 - length % 3) % 3

variable (a b : UInt8) (bytes : List UInt8) (c : UInt8)

@[simp] theorem length_quad : (quad digit a b c).length = 4 := rfl

theorem length_filled : (filled digit bytes).length = 4 * ((bytes.length + 2) / 3) := by
  fun_induction filled digit bytes with
  | case1 => rfl
  | case2 a => simp only [length_quad, List.length_singleton, Nat.reduceAdd, Nat.reduceDiv, Nat.reduceMul]
  | case3 a b => simp only [length_quad, List.length_cons, List.length_nil, Nat.reduceAdd, Nat.reduceDiv, Nat.reduceMul]
  | case4 a b c rest ih =>
    rw [List.length_append, length_quad, ih]
    simp only [List.length_cons]
    omega

theorem text_eq :
    text digit pad bytes = (filled digit bytes).take ((filled digit bytes).length - padding bytes.length) ++
      List.replicate (padding bytes.length) pad := by
  fun_induction text digit pad bytes with
  | case1 => rfl
  | case2 a => rfl
  | case3 a b => rfl
  | case4 a b c rest ih =>
    have same : padding (rest.length + 3) = padding rest.length := by
      simp only [padding, Nat.add_mod_right]
    have short : padding rest.length ≤ (filled digit rest).length := by
      rw [length_filled, padding]
      omega
    have taken : (filled digit (a :: b :: c :: rest)).length - padding rest.length =
        (quad digit a b c).length + ((filled digit rest).length - padding rest.length) := by
      rw [filled, List.length_append]
      omega
    rw [ih, show (a :: b :: c :: rest).length = rest.length + 3 from rfl, same, taken, filled,
      List.take_length_add_append, List.append_assoc]

theorem length_text : (text digit pad bytes).length = 4 * ((bytes.length + 2) / 3) := by
  have short : padding bytes.length ≤ (filled digit bytes).length := by
    rw [length_filled, padding]
    omega
  rw [text_eq, List.length_append, List.length_take, List.length_replicate, Nat.min_eq_left (Nat.sub_le _ _),
    Nat.sub_add_cancel short, length_filled]

theorem sextet_lt (number k : Nat) : sextet number k < 64 := Nat.mod_lt _ (by decide)

/-- All characters of a text are digits or the padding. -/
theorem text_forall {P : UInt8 → Prop} (digits : ∀ n < 64, P (digit n)) (padded : P pad) (bytes : List UInt8) :
    ∀ c ∈ text digit pad bytes, P c := by
  have quads (a b c : UInt8) : ∀ d ∈ quad digit a b c, P d := by
    simp only [quad, List.forall_mem_cons, digits _ (sextet_lt _ _), true_and]
    exact fun d member => absurd member List.not_mem_nil
  fun_induction text digit pad bytes with
  | case1 => exact fun c member => absurd member List.not_mem_nil
  | case2 a =>
    refine List.forall_mem_append.mpr ⟨fun d member => quads a 0 0 d (List.mem_of_mem_take member), ?_⟩
    exact List.forall_mem_cons.mpr ⟨padded, List.forall_mem_singleton.mpr padded⟩
  | case3 a b =>
    refine List.forall_mem_append.mpr ⟨fun d member => quads a b 0 d (List.mem_of_mem_take member), ?_⟩
    exact List.forall_mem_singleton.mpr padded
  | case4 a b c rest ih => exact List.forall_mem_append.mpr ⟨quads a b c, ih⟩

/-- The text of several bytes ends as that of its last one to three. -/
theorem text_end (nonempty : bytes ≠ []) :
    ∃ front a b c, text digit pad bytes = front ++
      (if bytes.length % 3 = 1 then (quad digit a 0 0).take 2 ++ [pad, pad]
      else if bytes.length % 3 = 2 then (quad digit a b 0).take 3 ++ [pad]
      else quad digit a b c) := by
  fun_induction text digit pad bytes with
  | case1 => exact absurd rfl nonempty
  | case2 a => exact ⟨[], a, 0, 0, rfl⟩
  | case3 a b => exact ⟨[], a, b, 0, rfl⟩
  | case4 a b c rest ih =>
    by_cases last : rest = []
    · subst last
      exact ⟨[], a, b, c, by simp [text]⟩
    · obtain ⟨front, a', b', c', ends⟩ := ih last
      refine ⟨quad digit a b c ++ front, a', b', c', ?_⟩
      rw [ends, show (a :: b :: c :: rest).length = rest.length + 3 from rfl, Nat.add_mod_right, List.append_assoc]

theorem triple_lt : triple a b c < 2 ^ 24 := by
  have ha := a.toNat_lt
  have hb := b.toNat_lt
  have hc := c.toNat_lt
  unfold triple
  omega

/-- A number of 24 bits is made of its figures. -/
theorem sextets_join {number : Nat} (small : number < 2 ^ 24) :
    sextet number 3 * 262144 + sextet number 2 * 4096 + sextet number 1 * 64 + sextet number 0 = number := by
  simp only [sextet, Nat.reducePow]
  omega

theorem triple_bytes :
    triple a b c / 65536 % 256 = a.toNat ∧ triple a b c / 256 % 256 = b.toNat ∧ triple a b c % 256 = c.toNat := by
  have ha := a.toNat_lt
  have hb := b.toNat_lt
  have hc := c.toNat_lt
  unfold triple
  omega

/-- The figures that are replaced are zero. -/
theorem sextet_of_zeros : sextet (triple a b 0) 0 = 0 ∧ sextet (triple a 0 0) 1 = 0 ∧ sextet (triple a 0 0) 0 = 0 := by
  simp only [sextet, triple, UInt8.toNat_zero, Nat.reducePow]
  omega

end Base64
end TurnCluster
