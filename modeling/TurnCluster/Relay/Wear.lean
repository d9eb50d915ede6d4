import Mathlib.Logic.Function.Iterate
import TurnCluster.Relay.Ring

namespace TurnCluster
namespace Ports

/-- One round: a port is allocated and given back. A failed allocation gives nothing to release. -/
def allocateAndRelease (tp : Turnports) : Turnports :=
  match turnportsAllocate tp with
  | (some port, tp') => turnportsRelease tp' port
  | (none, tp') => tp'

/-- More steps than the ring is long change nothing, so the loop of the source ends for every
value of the counters. -/
theorem allocateLoop_fuel (fuel : Nat) (tp : Turnports) (enough : tp.high.toNat - tp.low.toNat < fuel) (more : Nat) :
    allocateLoop (fuel + more) tp = allocateLoop fuel tp := by
  induction fuel generalizing tp with
  | zero => omega
  | succ fuel ih =>
    rw [Nat.add_right_comm]
    unfold allocateLoop
    dsimp only
    by_cases empty : tp.high ≤ tp.low
    · rw [if_pos empty, if_pos empty]
    · have below : tp.low < tp.high := UInt32.not_le.mp empty
      have advanced : tp.high.toNat - (tp.low + 1).toNat < fuel := by
        have order := UInt32.lt_iff_toNat_lt.mp below
        rw [low_add_one_toNat below]
        omega
      rw [ih { tp with low := tp.low + 1 } advanced]

/-- The allocator after `rounds` rounds: the ring holds each port once, at the position that is its status. -/
structure Rolling (start stop : UInt16) (rounds : Nat) (tp : Turnports) : Prop where
  rangeStart : tp.rangeStart = start
  rangeStop : tp.rangeStop = stop
  low : tp.low.toNat = start.toNat + rounds
  high : tp.high.toNat = stop.toNat + 1 + rounds
  ring : RingInRange tp
  stamped : ∀ q : UInt32, tp.low ≤ q → q < tp.high → tp.status (tp.ports q.toUInt16) = q

variable {start stop : UInt16} {rounds : Nat} {tp : Turnports}

theorem Matched.rolling (matched : Matched start stop tp) : Rolling start stop 0 tp := by
  have shuffled := matched.shuffled
  refine ⟨shuffled.rangeStart, shuffled.rangeStop, ?_, ?_, shuffled.ringInRange, ?_⟩
  · rw [shuffled.low, UInt16.toNat_toUInt32, Nat.add_zero]
  · rw [shuffled.high, toUInt32_add_one_toNat, Nat.add_zero]
  · intro q above below
    rw [shuffled.low, UInt32.le_iff_toNat_le, UInt16.toNat_toUInt32] at above
    rw [shuffled.high, UInt32.lt_iff_toNat_lt, toUInt32_add_one_toNat] at below
    have bound := stop.toNat_lt
    have position : q.toUInt16.toNat = q.toNat := by
      rw [UInt32.toNat_toUInt16, Nat.mod_eq_of_lt (by omega)]
    have above' : start ≤ q.toUInt16 := by rw [UInt16.le_iff_toNat_le, position]; exact above
    have below' : q.toUInt16 ≤ stop := by rw [UInt16.le_iff_toNat_le, position]; omega
    exact UInt32.toNat_inj.mp ((matched.stamped above' below').trans position)

theorem isTaken_of_marker {status : UInt32} (reserved : tpsTakenOdd ≤ status) (below : status < tpsOutOfRange) :
    isTaken status = true := by
  have reserved := UInt32.le_iff_toNat_le.mp reserved
  have below := UInt32.lt_iff_toNat_lt.mp below
  change 0xFFFFFFFC ≤ status.toNat at reserved
  change status.toNat < 0xFFFFFFFF at below
  have cases : status = tpsTakenOdd ∨ status = tpsTakenEven ∨ status = tpsTakenSingle := by
    have cases : status.toNat = 0xFFFFFFFC ∨ status.toNat = 0xFFFFFFFD ∨ status.toNat = 0xFFFFFFFE := by omega
    rcases cases with odd | even | single
    · exact Or.inl (UInt32.toNat_inj.mp odd)
    · exact Or.inr (Or.inl (UInt32.toNat_inj.mp even))
    · exact Or.inr (Or.inr (UInt32.toNat_inj.mp single))
  rcases cases with rfl | rfl | rfl <;> decide

theorem Rolling.below (order : start ≤ stop) (rolling : Rolling start stop rounds tp) : tp.low < tp.high := by
  have order := UInt16.le_iff_toNat_le.mp order
  rw [UInt32.lt_iff_toNat_lt, rolling.low, rolling.high]
  omega

theorem Rolling.live_low (order : start ≤ stop) (rolling : Rolling start stop rounds tp)
    (unreserved : start.toNat + rounds < tpsTakenOdd.toNat) : LiveAt tp tp.low := by
  have below := rolling.below order
  have stamped := rolling.stamped tp.low (UInt32.le_refl _) below
  refine ⟨UInt32.le_refl _, below, ?_, stamped⟩
  rw [stamped]
  apply isTaken_of_lt
  rw [UInt32.lt_iff_toNat_lt, rolling.low]
  exact unreserved

theorem Rolling.no_live (rolling : Rolling start stop rounds tp) (reserved : tpsTakenOdd.toNat ≤ start.toNat + rounds) :
    ¬ HasLive tp := by
  rintro ⟨q, above, below, free, same⟩
  rw [same] at free
  have low := UInt32.le_iff_toNat_le.mp above
  have high := UInt32.lt_iff_toNat_lt.mp below
  have bound := tp.high.toNat_lt
  rw [rolling.low] at low
  have taken : isTaken q = true := by
    refine isTaken_of_marker (UInt32.le_iff_toNat_le.mpr (reserved.trans low)) ?_
    rw [UInt32.lt_iff_toNat_lt]
    show q.toNat < 0xFFFFFFFF
    omega
  rw [taken] at free
  cases free

/-- While `low` is no marker, its entry is the port that is allocated. -/
theorem Rolling.allocate (order : start ≤ stop) (rolling : Rolling start stop rounds tp)
    (unreserved : start.toNat + rounds < tpsTakenOdd.toNat) :
    ∃ tp', turnportsAllocate tp = (some (tp.ports tp.low.toUInt16), tp') ∧
      Allocated tp tp' (some (tp.ports tp.low.toUInt16)) ∧ tp'.low.toNat = tp.low.toNat + 1 := by
  have live := rolling.live_low order unreserved
  have allocated := turnportsAllocate_allocated tp
  have advanced := turnportsAllocate_advanced tp
  generalize turnportsAllocate tp = step at allocated advanced ⊢
  obtain ⟨result, tp'⟩ := step
  cases result with
  | none => exact absurd ⟨tp.low, live⟩ ((allocated.failed rfl).2 rolling.ring)
  | some port =>
    obtain ⟨found, entry, low, first⟩ := advanced.found port rfl
    have same : tp.status port = tp.low := by
      by_contra different
      refine first tp.low (UInt32.le_refl _) ?_ live
      have above := UInt32.le_iff_toNat_le.mp found.1
      have apart : (tp.status port).toNat ≠ tp.low.toNat := fun equal => different (UInt32.toNat_inj.mp equal)
      rw [UInt32.lt_iff_toNat_lt]
      omega
    rw [same] at entry low
    rw [entry]
    exact ⟨tp', rfl, allocated, low⟩

/-- What a round does while `low` is no marker: the port at `low` moves to the end of the ring. -/
theorem Rolling.round (order : start ≤ stop) (rolling : Rolling start stop rounds tp)
    (unreserved : start.toNat + rounds < tpsTakenOdd.toNat) :
    ∃ tp', Allocated tp tp' (some (tp.ports tp.low.toUInt16)) ∧ tp'.low.toNat = tp.low.toNat + 1 ∧
      allocateAndRelease tp =
        { tp' with
          status := Function.update tp'.status (tp.ports tp.low.toUInt16) tp.high
          ports := Function.update tp.ports tp.high.toUInt16 (tp.ports tp.low.toUInt16)
          high := tp.high + 1 } := by
  obtain ⟨tp', run, allocated, low⟩ := rolling.allocate order unreserved
  refine ⟨tp', allocated, low, ?_⟩
  unfold allocateAndRelease
  rw [run]
  dsimp only
  rw [turnportsRelease_taken allocated.inRange allocated.taken, allocated.ports, allocated.high]

theorem Rolling.step (order : start ≤ stop) (rolling : Rolling start stop rounds tp)
    (unreserved : start.toNat + rounds < tpsTakenOdd.toNat) (fits : stop.toNat + 1 + (rounds + 1) < 2 ^ 32) :
    Rolling start stop (rounds + 1) (allocateAndRelease tp) := by
  obtain ⟨tp', allocated, low, moved⟩ := rolling.round order unreserved
  have below := rolling.below order
  have status := (allocated.fresh _ rfl).2.2.1
  have bound := stop.toNat_lt
  have lowBefore := rolling.low
  have highBefore := rolling.high
  have high : (tp.high + 1).toNat = tp.high.toNat + 1 := by
    rw [UInt32.toNat_add, UInt32.toNat_one, Nat.mod_eq_of_lt (by omega)]
  have inRange {port : UInt16} : InRange tp' port ↔ InRange tp port :=
    InRange.of_same allocated.rangeStart allocated.rangeStop
  rw [moved]
  refine ⟨allocated.rangeStart.trans rolling.rangeStart, allocated.rangeStop.trans rolling.rangeStop, ?_, ?_, ?_, ?_⟩
  · show tp'.low.toNat = _
    omega
  · show (tp.high + 1).toNat = _
    omega
  · intro q above inside
    show InRange tp' (Function.update tp.ports tp.high.toUInt16 (tp.ports tp.low.toUInt16) q.toUInt16)
    by_cases here : q.toUInt16 = tp.high.toUInt16
    · rw [here, Function.update_self]
      exact inRange.mpr (rolling.ring tp.low (UInt32.le_refl _) below)
    · rw [Function.update_of_ne here]
      refine inRange.mpr (rolling.ring q (UInt32.le_trans allocated.low above) ?_)
      exact lt_of_lt_add_one inside (fun same => here (by rw [same]))
  · intro q above inside
    show Function.update tp'.status (tp.ports tp.low.toUInt16) tp.high
      (Function.update tp.ports tp.high.toUInt16 (tp.ports tp.low.toUInt16) q.toUInt16) = q
    change tp'.low ≤ q at above
    change q < tp.high + 1 at inside
    by_cases last : q = tp.high
    · rw [last, Function.update_self, Function.update_self]
    · have inside := lt_of_lt_add_one inside last
      have stamped := rolling.stamped q (UInt32.le_trans allocated.low above) inside
      have above := UInt32.le_iff_toNat_le.mp above
      have inside := UInt32.lt_iff_toNat_lt.mp inside
      have apart : q.toUInt16 ≠ tp.high.toUInt16 := by
        intro same
        have same := congrArg UInt16.toNat same
        rw [UInt32.toNat_toUInt16, UInt32.toNat_toUInt16] at same
        omega
      have other : tp.ports q.toUInt16 ≠ tp.ports tp.low.toUInt16 := by
        intro same
        rw [same, rolling.stamped tp.low (UInt32.le_refl _) below] at stamped
        rw [← stamped] at above
        omega
      rw [Function.update_of_ne apart, Function.update_of_ne other, status, Function.update_of_ne other]
      exact stamped

/-- The ring looks empty, for good: an allocation does nothing and nothing can be released. -/
def Exhausted (tp : Turnports) : Prop := tp.high ≤ tp.low

theorem Exhausted.allocate (exhausted : Exhausted tp) : turnportsAllocate tp = (none, tp) := by
  unfold turnportsAllocate allocateLoop
  exact if_pos exhausted

theorem Exhausted.round (exhausted : Exhausted tp) : allocateAndRelease tp = tp := by
  unfold allocateAndRelease
  rw [exhausted.allocate]

/-- The release that moves `high` from its last value to 0 ends it. -/
theorem Rolling.wraps (order : start ≤ stop) (rolling : Rolling start stop rounds tp)
    (unreserved : start.toNat + rounds < tpsTakenOdd.toNat) (last : ¬ stop.toNat + 1 + (rounds + 1) < 2 ^ 32) :
    Exhausted (allocateAndRelease tp) := by
  obtain ⟨tp', _, _, moved⟩ := rolling.round order unreserved
  have highBefore := rolling.high
  have bound := tp.high.toNat_lt
  have high : (tp.high + 1).toNat = 0 := by
    rw [UInt32.toNat_add, UInt32.toNat_one]
    omega
  rw [moved]
  show tp.high + 1 ≤ tp'.low
  rw [UInt32.le_iff_toNat_le, high]
  exact Nat.zero_le _

theorem Rolling.fails (rolling : Rolling start stop rounds tp) (reserved : tpsTakenOdd.toNat ≤ start.toNat + rounds) :
    (turnportsAllocate tp).1 = none := by
  have allocated := turnportsAllocate_allocated tp
  cases result : (turnportsAllocate tp).1 with
  | none => rfl
  | some port =>
    rw [result] at allocated
    exact absurd (allocated.fresh port rfl).2.2.2.2 (rolling.no_live reserved)

/-- Once `low` is a marker, all entries that are left are skipped. -/
theorem Rolling.exhausts (order : start ≤ stop) (rolling : Rolling start stop rounds tp)
    (reserved : tpsTakenOdd.toNat ≤ start.toNat + rounds) : Exhausted (allocateAndRelease tp) := by
  have failed := rolling.fails reserved
  have allocated := turnportsAllocate_allocated tp
  have advanced := turnportsAllocate_advanced tp
  unfold allocateAndRelease
  generalize turnportsAllocate tp = step at failed allocated advanced ⊢
  obtain ⟨result, tp'⟩ := step
  cases failed
  have low := advanced.exhausted rfl rolling.ring (UInt32.le_of_lt (rolling.below order))
  show tp'.high ≤ tp'.low
  rw [low, allocated.high]
  exact UInt32.le_refl _

/-- The rounds after which the allocator still works. -/
def Lasts (start stop : UInt16) (rounds : Nat) : Prop :=
  start.toNat + rounds < tpsTakenOdd.toNat ∧ stop.toNat + 1 + rounds < 2 ^ 32

theorem rolling_or_exhausted (order : start ≤ stop) (fresh : Rolling start stop 0 tp) (rounds : Nat) :
    Rolling start stop rounds (allocateAndRelease^[rounds] tp) ∨
      Exhausted (allocateAndRelease^[rounds] tp) ∧ ¬ Lasts start stop rounds := by
  unfold Lasts
  induction rounds with
  | zero => exact Or.inl fresh
  | succ rounds ih =>
    rw [Function.iterate_succ_apply']
    rcases ih with rolling | ⟨exhausted, past⟩
    · by_cases unreserved : start.toNat + rounds < tpsTakenOdd.toNat
      · by_cases fits : stop.toNat + 1 + (rounds + 1) < 2 ^ 32
        · exact Or.inl (rolling.step order unreserved fits)
        · exact Or.inr ⟨rolling.wraps order unreserved fits, fun lasts => fits lasts.2⟩
      · exact Or.inr ⟨rolling.exhausts order (Nat.le_of_not_lt unreserved), by omega⟩
    · rw [exhausted.round]
      exact Or.inr ⟨exhausted, by omega⟩

theorem worn_out_fails (order : start ≤ stop) (random : Nat → Nat) (past : ¬ Lasts start stop rounds) :
    (turnportsAllocate (allocateAndRelease^[rounds] (turnportsInit start stop random))).1 = none := by
  rcases rolling_or_exhausted order (Matched.init order random).rolling rounds with rolling | ⟨exhausted, _⟩
  · have bound := UInt32.toNat_lt (allocateAndRelease^[rounds] (turnportsInit start stop random)).high
    rw [rolling.high] at bound
    refine rolling.fails (Nat.le_of_not_lt ?_)
    intro unreserved
    exact past ⟨unreserved, bound⟩
  · rw [exhausted.allocate]

/-- After `rounds` rounds of allocating a port and giving it back, an allocation finds a port
exactly as long as `low` has not come to the markers and `high` has not wrapped. -/
theorem allocator_lasts_iff {start stop : UInt16} (order : start ≤ stop) (random : Nat → Nat) (rounds : Nat) :
    (∃ port, (turnportsAllocate (allocateAndRelease^[rounds] (turnportsInit start stop random))).1 = some port ∧
      start ≤ port ∧ port ≤ stop) ↔ Lasts start stop rounds := by
  constructor
  · rintro ⟨port, found, _⟩
    by_contra past
    rw [worn_out_fails order random past] at found
    cases found
  · intro lasts
    rcases rolling_or_exhausted order (Matched.init order random).rolling rounds with rolling | ⟨_, past⟩
    · obtain ⟨tp', run, allocated, _⟩ := rolling.allocate order lasts.1
      obtain ⟨first, last⟩ := (allocated.fresh _ rfl).1
      rw [rolling.rangeStart] at first
      rw [rolling.rangeStop] at last
      exact ⟨_, by rw [run], first, last⟩
    · exact absurd lasts past

theorem lasts_million : Lasts 49152 65535 1000000 := by
  unfold Lasts
  decide

theorem allocator_lasts_iff_million : ∃ port, (turnportsAllocate
    (allocateAndRelease^[1000000] (turnportsInit 49152 65535 (fun _ => 0)))).1 = some port ∧ 49152 ≤ port ∧ port ≤ 65535 :=
  (allocator_lasts_iff (by decide) (fun _ => 0) 1000000).mpr lasts_million

/-- The allocator for the ports 4 and 5 after 4294967288 rounds: `low` is the marker of a taken odd port. -/
theorem small_range_wears_out : ¬ ∀ (start stop : UInt16), start ≤ stop → ∀ (random : Nat → Nat) (rounds : Nat),
    ∃ port, (turnportsAllocate (allocateAndRelease^[rounds] (turnportsInit start stop random))).1 = some port ∧
      start ≤ port ∧ port ≤ stop := by
  intro claimed
  have order : (4 : UInt16) ≤ 5 := by decide
  obtain ⟨rounds, past⟩ : ∃ rounds, ¬ Lasts 4 5 rounds := by
    refine ⟨4294967288, ?_⟩
    unfold Lasts
    decide
  obtain ⟨port, found, _⟩ := claimed 4 5 order (fun _ => 0) rounds
  rw [worn_out_fails order (fun _ => 0) past] at found
  cases found

end Ports
end TurnCluster
