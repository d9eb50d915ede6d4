import Mathlib.Logic.Function.Iterate

namespace TurnCluster
namespace Crc

variable {w : Nat}

/-- One bit of a reflected register: it moves down, and the polynomial is added if a one falls out. -/
def shiftBit (poly crc : BitVec w) : BitVec w :=
  if crc.getLsbD 0 then (crc >>> 1) ^^^ poly else crc >>> 1

def shiftByte (poly crc : BitVec w) : BitVec w := (shiftBit poly)^[8] crc

/-- The register after a string of bytes, which go in with their low bits first. -/
def remainder (poly crc : BitVec w) (bytes : List UInt8) : BitVec w :=
  bytes.foldl (fun crc byte => shiftByte poly (crc ^^^ byte.toBitVec.setWidth w)) crc

/-- What the bit that falls out adds. -/
def feedback (poly : BitVec w) (bit : Bool) : BitVec w := if bit then poly else 0#w

theorem feedback_xor (poly : BitVec w) (a b : Bool) : feedback poly (a ^^ b) = feedback poly a ^^^ feedback poly b := by
  cases a <;> cases b <;> simp [feedback]

theorem shiftBit_eq (poly crc : BitVec w) : shiftBit poly crc = (crc >>> 1) ^^^ feedback poly (crc.getLsbD 0) := by
  unfold shiftBit feedback
  split
  · rfl
  · rw [BitVec.xor_zero]

/-- The register is linear. -/
theorem shiftBit_xor (poly a b : BitVec w) : shiftBit poly (a ^^^ b) = shiftBit poly a ^^^ shiftBit poly b := by
  rw [shiftBit_eq, shiftBit_eq, shiftBit_eq, BitVec.getLsbD_xor, BitVec.ushiftRight_xor_distrib, feedback_xor]
  ac_rfl

theorem iterate_xor (poly : BitVec w) (n : Nat) (a b : BitVec w) :
    (shiftBit poly)^[n] (a ^^^ b) = (shiftBit poly)^[n] a ^^^ (shiftBit poly)^[n] b := by
  induction n generalizing a b with
  | zero => rfl
  | succ n ih => rw [Function.iterate_succ_apply, shiftBit_xor, ih, ← Function.iterate_succ_apply,
      ← Function.iterate_succ_apply]

/-- Zeros fall out without feedback. -/
theorem iterate_of_clear (poly : BitVec w) {x : BitVec w} {n : Nat} (clear : ∀ i < n, x.getLsbD i = false) :
    (shiftBit poly)^[n] x = x >>> n := by
  induction n with
  | zero => rfl
  | succ n ih =>
    have low : (x >>> n).getLsbD 0 = false := by
      rw [BitVec.getLsbD_ushiftRight, Nat.add_zero]
      exact clear n (Nat.lt_succ_self n)
    rw [Function.iterate_succ_apply', ih (fun i below => clear i (Nat.lt_succ_of_lt below)), shiftBit, low,
      if_neg Bool.false_ne_true, BitVec.shiftRight_add]

/-- The low byte of a register as a register. -/
def lowByte (x : BitVec w) : BitVec w := (x.setWidth 8).setWidth w

theorem getLsbD_lowByte (x : BitVec w) (i : Nat) : (lowByte x).getLsbD i = (decide (i < 8) && x.getLsbD i) := by
  rw [lowByte, BitVec.getLsbD_setWidth, BitVec.getLsbD_setWidth]
  by_cases inside : i < w
  · rw [decide_eq_true inside, Bool.true_and]
  · rw [BitVec.getLsbD_of_ge x i (Nat.le_of_not_lt inside), Bool.and_false, Bool.and_false]

/-- A byte of zeros for the rest of the register, and the low byte on its own. -/
theorem shiftByte_split (poly x : BitVec w) : shiftByte poly x = shiftByte poly (lowByte x) ^^^ (x >>> 8) := by
  have whole : x = lowByte x ^^^ (lowByte x ^^^ x) := by
    rw [← BitVec.xor_assoc, BitVec.xor_self, BitVec.zero_xor]
  have clear : ∀ i < 8, (lowByte x ^^^ x).getLsbD i = false := by
    intro i below
    rw [BitVec.getLsbD_xor, getLsbD_lowByte, decide_eq_true below, Bool.true_and, Bool.xor_self]
  have above : (lowByte x ^^^ x) >>> 8 = x >>> 8 := by
    refine BitVec.eq_of_getLsbD_eq fun i _ => ?_
    rw [BitVec.getLsbD_ushiftRight, BitVec.getLsbD_ushiftRight, BitVec.getLsbD_xor, getLsbD_lowByte,
      decide_eq_false (by omega), Bool.false_and, Bool.false_xor]
  calc shiftByte poly x
      = shiftByte poly (lowByte x ^^^ (lowByte x ^^^ x)) := by rw [← whole]
    _ = shiftByte poly (lowByte x) ^^^ shiftByte poly (lowByte x ^^^ x) := iterate_xor poly 8 _ _
    _ = shiftByte poly (lowByte x) ^^^ (x >>> 8) := by rw [shiftByte, shiftByte, iterate_of_clear poly clear, above]

/-- A byte that goes in reaches the rest of the register only through the low byte. -/
theorem shiftByte_xor_byte (poly crc : BitVec w) (byte : UInt8) :
    shiftByte poly (crc ^^^ byte.toBitVec.setWidth w) =
      shiftByte poly ((crc.setWidth 8 ^^^ byte.toBitVec).setWidth w) ^^^ (crc >>> 8) := by
  have gone : (byte.toBitVec.setWidth w) >>> 8 = 0#w := by
    refine BitVec.eq_of_getLsbD_eq fun i _ => ?_
    rw [BitVec.getLsbD_ushiftRight, BitVec.getLsbD_setWidth, BitVec.getLsbD_of_ge byte.toBitVec (8 + i) (by omega),
      Bool.and_false, BitVec.getLsbD_zero]
  have low : lowByte (crc ^^^ byte.toBitVec.setWidth w) = (crc.setWidth 8 ^^^ byte.toBitVec).setWidth w := by
    refine BitVec.eq_of_getLsbD_eq fun i inside => ?_
    rw [getLsbD_lowByte, BitVec.getLsbD_xor, BitVec.getLsbD_setWidth, BitVec.getLsbD_setWidth, BitVec.getLsbD_xor,
      BitVec.getLsbD_setWidth, decide_eq_true inside, Bool.true_and, Bool.true_and]
    by_cases small : i < 8
    · rw [decide_eq_true small, Bool.true_and, Bool.true_and]
    · rw [decide_eq_false small, Bool.false_and, Bool.false_and, BitVec.getLsbD_of_ge byte.toBitVec i (by omega),
        Bool.xor_false]
  rw [shiftByte_split, low, BitVec.ushiftRight_xor_distrib, gone, BitVec.xor_zero]

end Crc
end TurnCluster
