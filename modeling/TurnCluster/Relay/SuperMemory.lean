import Mathlib.Data.List.GetD
import Mathlib.Data.Set.Lattice
import Mathlib.Order.CompletePartialOrder
import TurnCluster.Lib.Bytes
import TurnCluster.Lib.Run

namespace TurnCluster

def turnSmSize : Nat := 1024 <<< 11

/-- `struct _super_memory`: how much of each chunk is allocated. There is one entry for each of the
`sm_chunk + 1` chunks, which have `TURN_SM_SIZE` bytes each. -/
structure SuperMemory where
  smAllocated : List Nat
  smTotalSz : Nat
  deriving DecidableEq, Repr

/-- `init_super_memory_region`. -/
def initSuperMemoryRegion : SuperMemory := ⟨[0], turnSmSize⟩

namespace SuperMemory

/-- A piece of a chunk. -/
structure Region where
  chunk : Nat
  offset : Nat
  size : Nat
  deriving DecidableEq, Repr

/-- The places of the bytes of a region. -/
def Region.footprint (region : Region) : Set (Nat × Nat) :=
  {place | place.1 = region.chunk ∧ region.offset ≤ place.2 ∧ place.2 < region.offset + region.size}

/-- The size in whole pointers, computed in 64 bits. -/
def pointerSize (size : Nat) : Nat := (size + 8) % 2 ^ 64 / 8 * 8 % 2 ^ 64

/-- The chunk that the loop stops at. -/
def findChunk (r : SuperMemory) (size : Nat) : Option Nat :=
  r.smAllocated.findIdx? fun allocated => !decide (sizeSub r.smTotalSz allocated < (size + 8) % 2 ^ 64)

/-- `allocate_super_memory_region_func`; `none` if the memory comes from `malloc`. -/
def allocateSuperMemoryRegion (r : SuperMemory) (size : Nat) : SuperMemory × Option Region :=
  let size := pointerSize size
  if turnSmSize ≤ size then (r, none)
  else
    let (smAllocated, i) := match r.findChunk size with
      | some i => (r.smAllocated, i)
      | none => (r.smAllocated ++ [0], r.smAllocated.length)
    let rsz := smAllocated.getD i 0
    ({ r with smAllocated := smAllocated.set i ((rsz + size) % 2 ^ 64) }, some ⟨i, rsz, size⟩)

/-- How much of a chunk is allocated; nothing of those that are not there yet. -/
def mark (r : SuperMemory) (i : Nat) : Nat := r.smAllocated.getD i 0

/-- The total size stays that of one chunk, and no chunk has more of it allocated. -/
structure Within (r : SuperMemory) : Prop where
  total : r.smTotalSz = turnSmSize
  mark : ∀ i, r.mark i ≤ turnSmSize

/-- What serving a region does: it starts where its chunk is free and ends in the chunk. -/
structure Served (r : SuperMemory) (size : Nat) (r' : SuperMemory) (region : Region) : Prop where
  total : r'.smTotalSz = r.smTotalSz
  enough : size ≤ region.size
  chunk : region.chunk < r'.smAllocated.length
  start : region.offset = r.mark region.chunk
  inside : region.offset + region.size ≤ turnSmSize
  taken : r'.mark region.chunk = region.offset + region.size
  others : ∀ i, i ≠ region.chunk → r'.mark i = r.mark i

variable {r : SuperMemory} {size : Nat}

/-- A region of `pointers` bytes is served from chunk `i` of the list that is there or was extended. -/
theorem Served.place {marks : List Nat} {pointers i : Nat} (same : ∀ j, marks.getD j 0 = r.mark j)
    (here : i < marks.length) (enough : size ≤ pointers) (room : r.mark i + pointers ≤ turnSmSize) :
    Served r size { r with smAllocated := marks.set i ((marks.getD i 0 + pointers) % 2 ^ 64) }
      ⟨i, marks.getD i 0, pointers⟩ where
  total := rfl
  enough := enough
  chunk := by
    rw [List.length_set]
    exact here
  start := same i
  inside := (same i).symm ▸ room
  taken := by
    have chunk : turnSmSize = 2097152 := rfl
    rw [mark, List.getD_eq_getElem?_getD, List.getElem?_set_self here, Option.getD_some, same i]
    exact Nat.mod_eq_of_lt (by omega)
  others := by
    intro j other
    rw [mark, List.getD_eq_getElem?_getD, List.getElem?_set_ne (Ne.symm other), ← List.getD_eq_getElem?_getD, same j]

theorem getD_append_zero (marks : List Nat) (i : Nat) : (marks ++ [0]).getD i 0 = marks.getD i 0 := by
  by_cases inside : i < marks.length
  · exact List.getD_append _ _ _ _ inside
  · rw [List.getD_append_right _ _ _ _ (Nat.le_of_not_lt inside), List.getD_eq_default _ _ (Nat.le_of_not_lt inside)]
    cases i - marks.length <;> rfl

theorem Within.findChunk_room (within : r.Within) {i : Nat} (small : size < turnSmSize)
    (found : r.findChunk size = some i) : i < r.smAllocated.length ∧ r.mark i + size ≤ turnSmSize := by
  obtain ⟨inside, fits, _⟩ := List.findIdx?_eq_some_iff_getElem.mp found
  have value : r.smAllocated[i] = r.mark i := (List.getD_eq_getElem _ _ inside).symm
  have bound := within.mark i
  have chunk : turnSmSize = 2097152 := rfl
  rw [value, within.total, sizeSub_of_le bound (by omega), Nat.mod_eq_of_lt (by omega)] at fits
  simp only [Bool.not_eq_true', decide_eq_false_iff_not] at fits
  exact ⟨inside, by omega⟩

theorem pointerSize_of_small (small : size < 2 ^ 63) : size ≤ pointerSize size := by
  unfold pointerSize
  omega

/-- A request that is not left to `malloc` is served. -/
theorem Within.allocate_served (within : r.Within) (small : size < 2 ^ 63) {region : Region}
    (served : (r.allocateSuperMemoryRegion size).2 = some region) :
    Served r size (r.allocateSuperMemoryRegion size).1 region := by
  have enough := pointerSize_of_small small
  unfold allocateSuperMemoryRegion at served ⊢
  dsimp only at served ⊢
  by_cases large : turnSmSize ≤ pointerSize size
  · rw [if_pos large] at served
    cases served
  · have less := Nat.lt_of_not_le large
    rw [if_neg large] at served ⊢
    cases found : r.findChunk (pointerSize size) with
    | some i =>
      rw [found] at served
      cases served
      obtain ⟨inside, room⟩ := within.findChunk_room less found
      exact .place (fun _ => rfl) inside enough room
    | none =>
      rw [found] at served
      cases served
      have empty : r.mark r.smAllocated.length = 0 := List.getD_eq_default _ _ le_rfl
      refine .place (fun j => getD_append_zero r.smAllocated j) ?_ enough ?_
      · rw [List.length_append]
        exact Nat.lt_succ_self _
      · show r.mark r.smAllocated.length + pointerSize size ≤ turnSmSize
        omega

theorem allocate_malloc (malloc : (r.allocateSuperMemoryRegion size).2 = none) :
    (r.allocateSuperMemoryRegion size).1 = r := by
  unfold allocateSuperMemoryRegion at malloc ⊢
  dsimp only at malloc ⊢
  split at malloc
  · rename_i large
    rw [if_pos large]
  · cases malloc

/-- The chunks with all the regions that were served from them. -/
structure History where
  memory : SuperMemory
  served : List Region

def History.request (s : History) (size : Nat) : History × Option Region :=
  let (memory, region) := s.memory.allocateSuperMemoryRegion size
  (⟨memory, region.toList ++ s.served⟩, region)

def machine : Machine History Nat (Option Region) where
  init s := s = ⟨initSuperMemoryRegion, []⟩
  enabled _ size := size < 2 ^ 63
  next s size := some (s.request size)

/-- Every region that was served lies below the mark of its chunk. -/
structure History.Sound (s : History) : Prop where
  within : s.memory.Within
  below : ∀ region ∈ s.served, region.offset + region.size ≤ s.memory.mark region.chunk

namespace History.Sound

theorem request {s : History} (sound : s.Sound) {size : Nat} (small : size < 2 ^ 63) : (s.request size).1.Sound := by
  unfold History.request
  cases answer : (s.memory.allocateSuperMemoryRegion size).2 with
  | none =>
    have same := allocate_malloc answer
    simp only [answer, same]
    exact sound
  | some region =>
    have served := sound.within.allocate_served small answer
    simp only [answer]
    refine ⟨⟨served.total.trans sound.within.total, fun i => ?_⟩, ?_⟩
    · by_cases here : i = region.chunk
      · rw [here, served.taken]
        exact served.inside
      · rw [served.others i here]
        exact sound.within.mark i
    · refine List.forall_mem_cons.mpr ⟨Nat.le_of_eq served.taken.symm, fun old member => ?_⟩
      have below := sound.below old member
      by_cases same : old.chunk = region.chunk
      · rw [same, ← served.start] at below
        rw [same, served.taken]
        omega
      · rw [served.others old.chunk same]
        exact below

theorem of_reach {s : History} (reach : machine.Reach (fun _ _ => True) s) : s.Sound := by
  refine reach.invariant (P := History.Sound) ?_ ?_
  · rintro s rfl
    refine ⟨⟨rfl, fun i => ?_⟩, fun region member => absurd member List.not_mem_nil⟩
    have empty : SuperMemory.mark initSuperMemoryRegion i = 0 := getD_append_zero [] i
    exact empty ▸ Nat.zero_le _
  · intro s s' size o sound small _ run
    have after : (s.request size).1 = s' := congrArg Prod.fst (Option.some.inj run)
    exact after ▸ sound.request small

end History.Sound

theorem Region.footprint_disjoint {region old : Region}
    (apart : old.chunk = region.chunk → old.offset + old.size ≤ region.offset) :
    Disjoint region.footprint old.footprint := by
  refine Set.disjoint_left.mpr ?_
  rintro place ⟨chunk, above, _⟩ ⟨chunk', _, below⟩
  have := apart (chunk'.symm.trans chunk)
  omega

/-- Whatever was requested before: no chunk has more allocated than it holds, and a region that is
served next is large enough, lies in its chunk and shares no byte with one served before. -/
theorem allocate_regions_disjoint {s : History} (reach : machine.Reach (fun _ _ => True) s) :
    (∀ allocated ∈ s.memory.smAllocated, allocated ≤ turnSmSize) ∧
      ∀ size region, size < 2 ^ 63 → (s.memory.allocateSuperMemoryRegion size).2 = some region →
        size ≤ region.size ∧ region.chunk < (s.memory.allocateSuperMemoryRegion size).1.smAllocated.length ∧
          region.offset + region.size ≤ turnSmSize ∧
          ∀ old ∈ s.served, Disjoint region.footprint old.footprint := by
  have sound := History.Sound.of_reach reach
  refine ⟨fun allocated member => ?_, fun size region small answer => ?_⟩
  · obtain ⟨i, inside, rfl⟩ := List.getElem_of_mem member
    exact List.getD_eq_getElem _ 0 inside ▸ sound.within.mark i
  · have served := sound.within.allocate_served small answer
    refine ⟨served.enough, served.chunk, served.inside, fun old member => Region.footprint_disjoint fun same => ?_⟩
    rw [served.start, ← same]
    exact sound.below old member

instance (s : History) (size : Nat) : Decidable (machine.enabled s size) := inferInstanceAs (Decidable (size < 2 ^ 63))

/-- The third request opens a second chunk, and the next one still fits the first. -/
theorem allocate_regions_disjoint_chunks : ∃ s, machine.Reach (fun _ _ => True) s ∧
    s.served = [⟨1, 0, 200008⟩, ⟨0, 104, 2000008⟩, ⟨0, 0, 104⟩] ∧
      ∀ old ∈ s.served, Disjoint (Region.footprint ⟨0, 2000112, 56⟩) old.footprint := by
  have initial : machine.init ⟨initSuperMemoryRegion, []⟩ := rfl
  have reached : ∃ s, machine.Reach (fun _ _ => True) s ∧
      decide (s.served = [⟨1, 0, 200008⟩, ⟨0, 104, 2000008⟩, ⟨0, 0, 104⟩] ∧
        (s.memory.allocateSuperMemoryRegion 50).2 = some ⟨0, 2000112, 56⟩) = true :=
    Machine.Reach.exists_of_replay _ [100, 2000000, 200000] initial (by decide +kernel)
  obtain ⟨s, reach, passed⟩ := reached
  obtain ⟨served, answer⟩ := of_decide_eq_true passed
  exact ⟨s, reach, served, ((allocate_regions_disjoint reach).2 50 _ (by decide) answer).2.2.2⟩

end SuperMemory
end TurnCluster
