import TurnCluster.Lib.Bytes

namespace TurnCluster

/-- The first `count` bytes of a number, the least significant one first. -/
def leBytes : Nat → Nat → List UInt8
  | 0, _ => []
  | count + 1, value => UInt8.ofNat value :: leBytes count (value / 256)

/-- The number that bytes spell, the least significant one first. -/
def leNumber : List UInt8 → Nat
  | [] => 0
  | b :: rest => b.toNat + 256 * leNumber rest

@[simp] theorem length_leBytes (count value : Nat) : (leBytes count value).length = count := by
  induction count generalizing value with
  | zero => rfl
  | succ count ih => rw [leBytes, List.length_cons, ih]

variable {m : Memory} (bytes : List UInt8) (x : UInt64) {i : Nat}

theorem leNumber_lt : leNumber bytes < 256 ^ bytes.length := by
  induction bytes with
  | nil => simp [leNumber]
  | cons b rest ih =>
    have byte := b.toNat_lt
    rw [leNumber, List.length_cons, Nat.pow_succ]
    omega

theorem leNumber_leBytes {count value : Nat} (fits : value < 256 ^ count) : leNumber (leBytes count value) = value := by
  induction count generalizing value with
  | zero =>
    rw [Nat.pow_zero] at fits
    rw [leBytes, leNumber]
    omega
  | succ count ih =>
    rw [Nat.pow_succ] at fits
    rw [leBytes, leNumber, ih (by omega), UInt8.toNat_ofNat']
    omega

theorem leBytes_leNumber : leBytes bytes.length (leNumber bytes) = bytes := by
  induction bytes with
  | nil => rfl
  | cons b rest ih =>
    have byte := b.toNat_lt
    have head : UInt8.ofNat (b.toNat + 256 * leNumber rest) = b := by
      apply UInt8.toNat_inj.mp
      rw [UInt8.toNat_ofNat']
      omega
    have tail : (b.toNat + 256 * leNumber rest) / 256 = leNumber rest := by omega
    rw [List.length_cons, leNumber, leBytes, head, tail, ih]

/-- The bytes of a 64-bit word as a little-endian host stores it. -/
def bytes64 (x : UInt64) : List UInt8 := leBytes 8 x.toNat

/-- A 64-bit load on a little-endian host. -/
def le64 (m : Memory) (i : Nat) : UInt64 := UInt64.ofNat (leNumber (m.slice i 8))

/-- Byte swap of a 64-bit word: `_ioa_ntoh64` on a little-endian host. -/
def nswap64 (x : UInt64) : UInt64 := UInt64.ofNat (leNumber (bytes64 x).reverse)

/-- A 64-bit field in network order, read as a number. -/
def net64 (m : Memory) (i : Nat) : UInt64 := nswap64 (le64 m i)

theorem toNat_ofNat_leNumber {bytes : List UInt8} (eight : bytes.length = 8) :
    (UInt64.ofNat (leNumber bytes)).toNat = leNumber bytes := by
  have bound := leNumber_lt bytes
  rw [eight] at bound
  exact UInt64.toNat_ofNat_of_lt' bound

theorem ofNat_leNumber_bytes64 : UInt64.ofNat (leNumber (bytes64 x)) = x := by
  rw [bytes64, leNumber_leBytes x.toNat_lt, UInt64.ofNat_toNat]

theorem bytes64_ofNat_leNumber {bytes : List UInt8} (eight : bytes.length = 8) :
    bytes64 (UInt64.ofNat (leNumber bytes)) = bytes := by
  rw [bytes64, toNat_ofNat_leNumber eight, ← eight, leBytes_leNumber]

@[simp] theorem length_bytes64 : (bytes64 x).length = 8 := length_leBytes 8 _

@[simp] theorem nswap64_nswap64 : nswap64 (nswap64 x) = x := by
  rw [nswap64, nswap64, bytes64_ofNat_leNumber (by simp), List.reverse_reverse, ofNat_leNumber_bytes64]

theorem net16_of_slice {x : UInt16} (stored : m.slice i 2 = bytes16 (nswap16 x)) : net16 m i = x := by
  rw [net16, le16_of_slice stored, nswap16_nswap16]

theorem net32_of_slice {x : UInt32} (stored : m.slice i 4 = bytes32 (nswap32 x)) : net32 m i = x := by
  rw [net32, le32_of_slice stored, nswap32_nswap32]

theorem net64_of_slice {x : UInt64} (stored : m.slice i 8 = bytes64 (nswap64 x)) : net64 m i = x := by
  rw [net64, le64, stored, ofNat_leNumber_bytes64, nswap64_nswap64]

theorem Memory.slice_write (m : Memory) (pos : Nat) (bytes : List UInt8) :
    (m.write pos bytes).slice pos bytes.length = bytes := by
  apply List.ext_getElem
  · simp
  · intro i before inside
    simp [Memory.slice, Memory.write, inside]

theorem Memory.slice_write_before (m : Memory) {pos len start : Nat} (bytes : List UInt8) (before : start + len ≤ pos) :
    (m.write pos bytes).slice start len = m.slice start len :=
  Memory.slice_congr fun _ _ => Memory.write_outside (by omega)

/-- A field that is filled from the front, and how much of it is. -/
structure Writer where
  field : Memory
  len : Nat

namespace Writer

/-- A zeroed field. -/
def empty : Writer := ⟨fun _ => 0, 0⟩

/-- The bytes are stored at the offset, which moves behind them. -/
def put (w : Writer) (bytes : List UInt8) : Writer := ⟨w.field.write w.len bytes, w.len + bytes.length⟩

def written (w : Writer) : List UInt8 := w.field.slice 0 w.len

@[simp] theorem written_put (w : Writer) (bytes : List UInt8) : (w.put bytes).written = w.written ++ bytes := by
  have kept := Memory.slice_write_before w.field bytes (Nat.le_of_eq (Nat.zero_add w.len))
  have added := Memory.slice_write w.field w.len bytes
  rw [written, put, Memory.slice_append, kept, Nat.zero_add, added]
  rfl

theorem length_written (w : Writer) : w.written.length = w.len := Memory.length_slice _ _ _

end Writer

end TurnCluster
