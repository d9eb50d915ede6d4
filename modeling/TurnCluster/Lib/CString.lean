import TurnCluster.Lib.Serial

namespace TurnCluster

/-- The string of a pointer into memory: bytes that are not zero, and a zero behind them. -/
def StringAt (m : Memory) : Nat → List UInt8 → Prop
  | pos, [] => m pos = 0
  | pos, c :: rest => m pos = c ∧ c ≠ 0 ∧ StringAt m (pos + 1) rest

namespace StringAt

variable {m m' : Memory} {pos : Nat} {bytes : List UInt8}

theorem congr (string : StringAt m pos bytes) (same : ∀ i, pos ≤ i → m' i = m i) : StringAt m' pos bytes := by
  induction bytes generalizing pos with
  | nil => exact (same pos le_rfl).trans string
  | cons c rest ih =>
    obtain ⟨first, nonzero, behind⟩ := string
    exact ⟨(same pos le_rfl).trans first, nonzero, ih behind (fun i after => same i (by omega))⟩

theorem of_slice (stored : m.slice pos bytes.length = bytes) (nonzero : ∀ c ∈ bytes, c ≠ 0)
    (closed : m (pos + bytes.length) = 0) : StringAt m pos bytes := by
  induction bytes generalizing pos with
  | nil => exact closed
  | cons c rest ih =>
    have parts : m.slice pos (c :: rest).length = [c] ++ rest := stored
    obtain ⟨first, behind⟩ := Memory.slice_parts parts
    refine ⟨List.head_eq_of_cons_eq first, nonzero c List.mem_cons_self, ih behind ?_ ?_⟩
    · exact fun c member => nonzero c (List.mem_cons_of_mem _ member)
    · rw [List.length_cons, Nat.add_comm rest.length, ← Nat.add_assoc] at closed
      exact closed

theorem slice (string : StringAt m pos bytes) : m.slice pos bytes.length = bytes := by
  induction bytes generalizing pos with
  | nil => rfl
  | cons c rest ih =>
    obtain ⟨first, _, behind⟩ := string
    rw [List.length_cons, Nat.add_comm, Memory.slice_append, ih behind]
    exact congrArg (· :: rest) first

/-- Bytes that a zero is put behind. -/
theorem closed (written : m.slice 0 pos = bytes) (nonzero : ∀ c ∈ bytes, c ≠ 0) :
    StringAt (m.write pos [0]) 0 bytes := by
  have length : bytes.length = pos := by rw [← written, Memory.length_slice]
  refine .of_slice ?_ nonzero ?_
  · rw [length, Memory.slice_write_before m [0] (by omega), written]
  · have zero : m.write pos [0] (pos + 0) = 0 := Memory.write_inside Nat.one_pos
    rwa [length, Nat.zero_add]

theorem nonzero (string : StringAt m pos bytes) : ∀ c ∈ bytes, c ≠ 0 := by
  induction bytes generalizing pos with
  | nil => exact fun c member => absurd member List.not_mem_nil
  | cons c rest ih =>
    obtain ⟨_, nonzero, behind⟩ := string
    exact List.forall_mem_cons.mpr ⟨nonzero, ih behind⟩

end StringAt

/-- `strlen` from a place on, with at most `fuel` bytes read. -/
def strlen (m : Memory) : Nat → Nat → Option Nat
  | 0, _ => none
  | fuel + 1, pos => if m pos = 0 then some 0 else (strlen m fuel (pos + 1)).map (· + 1)

theorem StringAt.strlen {m : Memory} {pos fuel : Nat} {bytes : List UInt8} (string : StringAt m pos bytes)
    (enough : bytes.length < fuel) : strlen m fuel pos = some bytes.length := by
  induction bytes generalizing pos fuel with
  | nil =>
    obtain ⟨fuel, rfl⟩ := Nat.exists_eq_succ_of_ne_zero (Nat.ne_zero_of_lt enough)
    exact if_pos string
  | cons c rest ih =>
    obtain ⟨fuel, rfl⟩ := Nat.exists_eq_succ_of_ne_zero (Nat.ne_zero_of_lt enough)
    obtain ⟨here, nonzero, behind⟩ := string
    simp only [TurnCluster.strlen, here, if_neg nonzero, ih behind (Nat.lt_of_succ_lt_succ enough), Option.map_some,
      List.length_cons]

/-- A byte is stored behind what is there. -/
theorem Memory.slice_write_next {m : Memory} {pos : Nat} {done : List UInt8} (written : m.slice 0 pos = done)
    (byte : UInt8) : (m.write pos [byte]).slice 0 (pos + 1) = done ++ [byte] := by
  have stored := Memory.slice_write m pos [byte]
  rw [List.length_singleton] at stored
  rw [Memory.slice_append, Memory.slice_write_before m [byte] (by omega), written, Nat.zero_add, stored]

end TurnCluster
