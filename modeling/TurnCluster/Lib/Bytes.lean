import Mathlib.Data.Nat.Bits
import Mathlib.Tactic.Ring

namespace TurnCluster

/-- Byte-addressed memory seen from one pointer. Reads are total: what lies
behind the bytes a caller wrote is whatever the function says it is. -/
abbrev Memory := Nat → UInt8

namespace Memory

/-- Pointer arithmetic: the same memory seen from `k` bytes further on. -/
def shift (m : Memory) (k : Nat) : Memory := fun i => m (k + i)

/-- The memory of a buffer that starts with `bytes` and is zero behind them. -/
def ofList (bytes : List UInt8) : Memory := fun i => bytes.getD i 0

/-- The `len` bytes that start at `pos`. -/
def slice (m : Memory) (pos len : Nat) : List UInt8 := (List.range len).map (fun i => m (pos + i))

/-- The memory with `bytes` stored from `pos` on. -/
def write (m : Memory) (pos : Nat) (bytes : List UInt8) : Memory :=
  fun i => if pos ≤ i ∧ i < pos + bytes.length then bytes.getD (i - pos) 0 else m i

@[simp] theorem shift_apply (m : Memory) (k i : Nat) : m.shift k i = m (k + i) := rfl

@[simp] theorem length_slice (m : Memory) (pos len : Nat) : (m.slice pos len).length = len := by
  simp [slice]

theorem slice_congr {m m' : Memory} {pos pos' len : Nat}
    (same : ∀ i < len, m (pos + i) = m' (pos' + i)) : m.slice pos len = m'.slice pos' len := by
  unfold slice
  apply List.map_congr_left
  intro i member
  exact same i (List.mem_range.mp member)

theorem write_inside {m : Memory} {pos i : Nat} {bytes : List UInt8} (inside : i < bytes.length) :
    m.write pos bytes (pos + i) = bytes.getD i 0 := by
  simp [write, inside]

theorem write_outside {m : Memory} {pos i : Nat} {bytes : List UInt8} (outside : i < pos ∨ pos + bytes.length ≤ i) :
    m.write pos bytes i = m i := by
  have not : ¬ (pos ≤ i ∧ i < pos + bytes.length) := by omega
  simp only [write, not, if_false]

theorem write_write {m : Memory} {pos : Nat} {old bytes : List UInt8} (same : old.length = bytes.length) :
    (m.write pos old).write pos bytes = m.write pos bytes := by
  funext i
  simp only [write, same]
  split <;> rfl

/-- To store what is there already changes nothing. -/
theorem write_slice (m : Memory) (pos len : Nat) : m.write pos (m.slice pos len) = m := by
  funext i
  by_cases inside : pos ≤ i ∧ i < pos + len
  · obtain ⟨j, rfl⟩ : ∃ j, i = pos + j := ⟨i - pos, by omega⟩
    have short : j < len := by omega
    rw [write_inside (by simpa using short)]
    simp [slice, short]
  · exact write_outside (by simp; omega)

end Memory

/-- A 16-bit load on a little-endian host. -/
def le16 (m : Memory) (i : Nat) : UInt16 :=
  UInt16.ofNat ((m i).toNat + 256 * (m (i + 1)).toNat)

/-- A 32-bit load on a little-endian host. -/
def le32 (m : Memory) (i : Nat) : UInt32 :=
  UInt32.ofNat ((m i).toNat + 256 * (m (i + 1)).toNat + 65536 * (m (i + 2)).toNat +
    16777216 * (m (i + 3)).toNat)

/-- The bytes of a 16-bit word as a little-endian host stores it. -/
def bytes16 (x : UInt16) : List UInt8 := [UInt8.ofNat x.toNat, UInt8.ofNat (x.toNat / 256)]

/-- The bytes of a 32-bit word as a little-endian host stores it. -/
def bytes32 (x : UInt32) : List UInt8 :=
  [UInt8.ofNat x.toNat, UInt8.ofNat (x.toNat / 256), UInt8.ofNat (x.toNat / 65536),
    UInt8.ofNat (x.toNat / 16777216)]

/-- Byte swap of a 16-bit word: `htons` and `ntohs` on a little-endian host. -/
def nswap16 (x : UInt16) : UInt16 :=
  UInt16.ofNat (x.toNat % 256 * 256 + x.toNat / 256)

/-- Byte swap of a 32-bit word: `htonl` and `ntohl` on a little-endian host. -/
def nswap32 (x : UInt32) : UInt32 :=
  UInt32.ofNat (x.toNat % 256 * 16777216 + x.toNat / 256 % 256 * 65536 +
    x.toNat / 65536 % 256 * 256 + x.toNat / 16777216)

/-- A 16-bit field in network order, read as a number. -/
def net16 (m : Memory) (i : Nat) : UInt16 := nswap16 (le16 m i)

/-- A 32-bit field in network order, read as a number. -/
def net32 (m : Memory) (i : Nat) : UInt32 := nswap32 (le32 m i)

variable {m m' : Memory} {i : Nat} {x : UInt32}

theorem le16_congr (first : m i = m' i) (second : m (i + 1) = m' (i + 1)) : le16 m i = le16 m' i := by
  unfold le16
  rw [first, second]

theorem net16_congr (first : m i = m' i) (second : m (i + 1) = m' (i + 1)) : net16 m i = net16 m' i := by
  unfold net16
  rw [le16_congr first second]

theorem nswap16_toNat (x : UInt16) : (nswap16 x).toNat = x.toNat % 256 * 256 + x.toNat / 256 := by
  have bound := x.toNat_lt
  rw [nswap16, UInt16.toNat_ofNat', Nat.mod_eq_of_lt]
  omega

theorem nswap32_toNat (x : UInt32) :
    (nswap32 x).toNat = x.toNat % 256 * 16777216 + x.toNat / 256 % 256 * 65536 +
      x.toNat / 65536 % 256 * 256 + x.toNat / 16777216 := by
  have bound := x.toNat_lt
  rw [nswap32, UInt32.toNat_ofNat', Nat.mod_eq_of_lt]
  omega

@[simp] theorem nswap16_nswap16 (x : UInt16) : nswap16 (nswap16 x) = x := by
  apply UInt16.toNat_inj.mp
  have bound := x.toNat_lt
  rw [nswap16_toNat, nswap16_toNat]
  omega

/-- Every 32-bit word is made of four bytes, and the swap writes them in the opposite order. -/
theorem nswap32_bytes {a b c d : Nat} (ha : a < 256) (hb : b < 256) (hc : c < 256)
    (word : x.toNat = a + 256 * b + 65536 * c + 16777216 * d) :
    (nswap32 x).toNat = d + 256 * c + 65536 * b + 16777216 * a := by
  rw [nswap32_toNat, word]
  omega

@[simp] theorem nswap32_nswap32 (x : UInt32) : nswap32 (nswap32 x) = x := by
  apply UInt32.toNat_inj.mp
  have bound := x.toNat_lt
  obtain ⟨a, b, c, d, ha, hb, hc, hd, word⟩ : ∃ a b c d, a < 256 ∧ b < 256 ∧ c < 256 ∧ d < 256 ∧
      x.toNat = a + 256 * b + 65536 * c + 16777216 * d :=
    ⟨x.toNat % 256, x.toNat / 256 % 256, x.toNat / 65536 % 256, x.toNat / 16777216,
      by omega, by omega, by omega, by omega, by omega⟩
  rw [nswap32_bytes hd hc hb (nswap32_bytes ha hb hc word), word]

theorem le16_toNat (m : Memory) (i : Nat) :
    (le16 m i).toNat = (m i).toNat + 256 * (m (i + 1)).toNat := by
  have low := (m i).toNat_lt
  have high := (m (i + 1)).toNat_lt
  rw [le16, UInt16.toNat_ofNat', Nat.mod_eq_of_lt]
  omega

theorem net16_toNat (m : Memory) (i : Nat) :
    (net16 m i).toNat = 256 * (m i).toNat + (m (i + 1)).toNat := by
  have low := (m i).toNat_lt
  have high := (m (i + 1)).toNat_lt
  rw [net16, nswap16_toNat, le16_toNat]
  omega

/-- A field in network order is stored as it was read. -/
theorem bytes16_net16 (m : Memory) (i : Nat) : bytes16 (nswap16 (net16 m i)) = m.slice i 2 := by
  have low := (m i).toNat_lt
  have high := (m (i + 1)).toNat_lt
  have first : UInt8.ofNat (le16 m i).toNat = m i := by
    apply UInt8.toNat_inj.mp
    rw [le16_toNat, UInt8.toNat_ofNat']
    omega
  have second : UInt8.ofNat ((le16 m i).toNat / 256) = m (i + 1) := by
    apply UInt8.toNat_inj.mp
    rw [le16_toNat, UInt8.toNat_ofNat']
    omega
  rw [net16, nswap16_nswap16, bytes16, first, second]
  rfl

theorem Memory.apply_of_slice {m : Memory} {pos len : Nat} {bytes : List UInt8} (same : m.slice pos len = bytes)
    {i : Nat} (inside : i < len) : m (pos + i) = bytes.getD i 0 := by
  rw [← same]
  simp [Memory.slice, inside]

theorem Memory.apply_of_slice_eq {m m' : Memory} {pos pos' len : Nat} (same : m'.slice pos' len = m.slice pos len)
    {i : Nat} (inside : i < len) : m' (pos' + i) = m (pos + i) :=
  (Memory.apply_of_slice same inside).trans (Memory.apply_of_slice rfl inside).symm

theorem Memory.slice_ofList (bytes : List UInt8) : (Memory.ofList bytes).slice 0 bytes.length = bytes := by
  apply List.ext_getElem
  · simp [Memory.slice]
  · intro i before inside
    simp [Memory.slice, Memory.ofList, inside]

/-- Reading back a word from the two bytes that were stored for it. -/
theorem le16_of_bytes {x : UInt16} (low : m i = UInt8.ofNat x.toNat) (high : m (i + 1) = UInt8.ofNat (x.toNat / 256)) :
    le16 m i = x := by
  have bound := x.toNat_lt
  apply UInt16.toNat_inj.mp
  rw [le16_toNat, low, high, UInt8.toNat_ofNat', UInt8.toNat_ofNat']
  omega

theorem le32_of_bytes (b0 : m i = UInt8.ofNat x.toNat) (b1 : m (i + 1) = UInt8.ofNat (x.toNat / 256))
    (b2 : m (i + 2) = UInt8.ofNat (x.toNat / 65536)) (b3 : m (i + 3) = UInt8.ofNat (x.toNat / 16777216)) :
    le32 m i = x := by
  have bound := x.toNat_lt
  apply UInt32.toNat_inj.mp
  rw [le32, UInt32.toNat_ofNat', b0, b1, b2, b3, UInt8.toNat_ofNat', UInt8.toNat_ofNat', UInt8.toNat_ofNat',
    UInt8.toNat_ofNat']
  omega

theorem le16_of_slice {x : UInt16} (stored : m.slice i 2 = bytes16 x) : le16 m i = x :=
  le16_of_bytes (Memory.apply_of_slice stored (show 0 < 2 by omega)) (Memory.apply_of_slice stored (show 1 < 2 by omega))

theorem le32_of_slice (stored : m.slice i 4 = bytes32 x) : le32 m i = x :=
  le32_of_bytes (Memory.apply_of_slice stored (show 0 < 4 by omega)) (Memory.apply_of_slice stored (show 1 < 4 by omega))
    (Memory.apply_of_slice stored (show 2 < 4 by omega)) (Memory.apply_of_slice stored (show 3 < 4 by omega))

theorem Memory.slice_append (m : Memory) (pos a b : Nat) :
    m.slice pos (a + b) = m.slice pos a ++ m.slice (pos + a) b := by
  unfold Memory.slice
  rw [List.range_add, List.map_append, List.map_map]
  congr 1
  apply List.map_congr_left
  intro i _
  show m (pos + (a + i)) = m (pos + a + i)
  rw [Nat.add_assoc]

/-- Both parts of what is stored can be read on their own. -/
theorem Memory.slice_parts {pos len : Nat} {front back : List UInt8} (stored : m.slice pos len = front ++ back) :
    m.slice pos front.length = front ∧ m.slice (pos + front.length) back.length = back := by
  have size : len = front.length + back.length := by
    rw [← List.length_append, ← stored, Memory.length_slice]
  rw [size, Memory.slice_append] at stored
  exact List.append_inj stored (by simp)

theorem Memory.take_slice (m : Memory) (pos len k : Nat) : (m.slice pos len).take k = m.slice pos (min k len) := by
  unfold Memory.slice
  rw [← List.map_take, List.take_range]

theorem le32_congr (same : ∀ j, j < 4 → m (i + j) = m' (i + j)) : le32 m i = le32 m' i := by
  have b0 : m i = m' i := same 0 (by omega)
  have b1 : m (i + 1) = m' (i + 1) := same 1 (by omega)
  have b2 : m (i + 2) = m' (i + 2) := same 2 (by omega)
  have b3 : m (i + 3) = m' (i + 3) := same 3 (by omega)
  unfold le32
  rw [b0, b1, b2, b3]

theorem net32_congr (same : ∀ j, j < 4 → m (i + j) = m' (i + j)) : net32 m i = net32 m' i := by
  rw [net32, net32, le32_congr same]

/-- Subtraction of two `size_t` values, which wraps modulo 2^64. -/
def sizeSub (a b : Nat) : Nat := (a + 2 ^ 64 - b) % 2 ^ 64

theorem sizeSub_of_le {a b : Nat} (within : b ≤ a) (bound : a < 2 ^ 64) : sizeSub a b = a - b := by
  unfold sizeSub
  omega

/-- Conversion of a `size_t` value to `int`. -/
def intOfSize (x : Nat) : Int :=
  if x % 2 ^ 32 < 2 ^ 31 then (x % 2 ^ 32 : Nat) else ((x % 2 ^ 32 : Nat) : Int) - 2 ^ 32

theorem intOfSize_of_small {n : Nat} (small : n < 2 ^ 31) : intOfSize n = n := by
  have same : n % 2 ^ 32 = n := Nat.mod_eq_of_lt (by omega)
  rw [intOfSize, same, if_pos small]

end TurnCluster
