import TurnCluster.Lib.Bytes

namespace TurnCluster

/-- Memory in which every byte also says at which place of a chosen input it
came in, if it is a byte of that input. -/
structure Traced where
  byte : Memory
  origin : Nat → Option Nat

namespace Traced

/-- Fresh memory, all bytes zero. -/
def zero : Traced := ⟨fun _ => 0, fun _ => none⟩

/-- Memory whose bytes are all of the input, `base` being the place of its first byte. -/
def input (received : Memory) (base : Nat) : Traced where
  byte i := received (i - base)
  origin i := if base ≤ i then some (i - base) else none

/-- `memmove` between two memories, or within one. -/
def copy (dst : Traced) (dpos : Nat) (src : Traced) (spos len : Nat) : Traced where
  byte i := if dpos ≤ i ∧ i < dpos + len then src.byte (spos + (i - dpos)) else dst.byte i
  origin i := if dpos ≤ i ∧ i < dpos + len then src.origin (spos + (i - dpos)) else dst.origin i

def write (dst : Traced) (pos : Nat) (bytes : List UInt8) : Traced where
  byte i := if pos ≤ i ∧ i < pos + bytes.length then bytes.getD (i - pos) 0 else dst.byte i
  origin i := if pos ≤ i ∧ i < pos + bytes.length then none else dst.origin i

/-- The origins recorded are right: a traced byte is the byte of the input. -/
def Sound (received : Memory) (t : Traced) : Prop :=
  ∀ i place, t.origin i = some place → t.byte i = received place

variable {dst src : Traced} {dpos spos len i : Nat}

theorem copy_origin_inside {j : Nat} (inside : j < len) :
    (dst.copy dpos src spos len).origin (dpos + j) = src.origin (spos + j) := by
  simp [copy, inside]

theorem copy_byte_outside (outside : i < dpos ∨ dpos + len ≤ i) : (dst.copy dpos src spos len).byte i = dst.byte i := by
  have not : ¬ (dpos ≤ i ∧ i < dpos + len) := by omega
  simp only [copy, not, if_false]

theorem copy_origin_outside (outside : i < dpos ∨ dpos + len ≤ i) :
    (dst.copy dpos src spos len).origin i = dst.origin i := by
  have not : ¬ (dpos ≤ i ∧ i < dpos + len) := by omega
  simp only [copy, not, if_false]

theorem write_origin_outside {pos : Nat} {bytes : List UInt8} (outside : i < pos ∨ pos + bytes.length ≤ i) :
    (dst.write pos bytes).origin i = dst.origin i := by
  have not : ¬ (pos ≤ i ∧ i < pos + bytes.length) := by omega
  simp only [write, not, if_false]

theorem Sound.zero (received : Memory) : Sound received zero := by
  intro i place traced
  cases traced

theorem Sound.input (received : Memory) (base : Nat) : Sound received (input received base) := by
  intro i place traced
  simp only [Traced.input] at traced ⊢
  split at traced
  · cases Option.some.inj traced
    rfl
  · cases traced

theorem Sound.copy {received : Memory} (toSound : Sound received dst) (fromSound : Sound received src)
    (dpos spos len : Nat) : Sound received (dst.copy dpos src spos len) := by
  intro i place traced
  simp only [Traced.copy] at traced ⊢
  split at traced
  · rename_i inside
    rw [if_pos inside]
    exact fromSound _ place traced
  · rename_i outside
    rw [if_neg outside]
    exact toSound i place traced

theorem Sound.write {received : Memory} (sound : Sound received dst) (pos : Nat) (bytes : List UInt8) :
    Sound received (dst.write pos bytes) := by
  intro i place traced
  simp only [Traced.write] at traced ⊢
  split at traced
  · cases traced
  · rename_i outside
    rw [if_neg outside]
    exact sound i place traced

end Traced
end TurnCluster
