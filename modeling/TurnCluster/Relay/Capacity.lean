import TurnCluster.Relay.Availability

namespace TurnCluster
namespace Ports

/-- The most entries the ring of a range can hold: one for each port, and one for each odd port
that can be taken together with the even port before it. -/
def windowBound (start stop : UInt16) : Nat :=
  stop.toNat + 1 - start.toNat + ((stop.toNat + 1) / 2 - (start.toNat + 1) / 2)

def rangePorts (start stop : UInt16) : Finset UInt16 :=
  (Finset.Ico start.toNat (stop.toNat + 1)).image UInt16.ofNat

def rangeMates (start stop : UInt16) : Finset UInt16 :=
  (Finset.Ico ((start.toNat + 1) / 2) ((stop.toNat + 1) / 2)).image (fun half => UInt16.ofNat (2 * half + 1))

variable {start stop : UInt16} {tp : Turnports}

theorem mem_rangePorts {port : UInt16} (above : start ≤ port) (below : port ≤ stop) : port ∈ rangePorts start stop := by
  have above := UInt16.le_iff_toNat_le.mp above
  have below := UInt16.le_iff_toNat_le.mp below
  exact Finset.mem_image.mpr ⟨port.toNat, Finset.mem_Ico.mpr ⟨above, by omega⟩, UInt16.ofNat_toNat⟩

theorem Mate.mem_rangeMates {x y : UInt16} (isMate : Mate start stop x y) : y ∈ rangeMates start stop := by
  obtain ⟨even, next, above, below⟩ := isMate
  have above := UInt16.le_iff_toNat_le.mp above
  have below := UInt16.le_iff_toNat_le.mp below
  refine Finset.mem_image.mpr ⟨x.toNat / 2, Finset.mem_Ico.mpr ⟨by omega, by omega⟩, ?_⟩
  have odd : 2 * (x.toNat / 2) + 1 = y.toNat := by omega
  rw [odd]
  exact UInt16.ofNat_toNat

theorem Orderly.window_le (orderly : Orderly start stop tp) :
    tp.high.toNat - tp.low.toNat ≤ windowBound start stop := by
  have inItems (q : Nat) (inside : tp.ring.Window q) : tp.ring.entry q ∈ rangePorts start stop := by
    obtain ⟨q, rfl⟩ := exists_toNat_of_lt inside.2
    obtain ⟨above, below⟩ := inside
    obtain ⟨first, last⟩ := orderly.ring q (UInt32.le_iff_toNat_le.mpr above) (UInt32.lt_iff_toNat_lt.mpr below)
    rw [orderly.rangeStart] at first
    rw [orderly.rangeStop] at last
    rw [ring_entry]
    exact mem_rangePorts first last
  have ports : (rangePorts start stop).card ≤ stop.toNat + 1 - start.toNat :=
    Finset.card_image_le.trans (Nat.card_Ico _ _).le
  have mates : (rangeMates start stop).card ≤ (stop.toNat + 1) / 2 - (start.toNat + 1) / 2 :=
    Finset.card_image_le.trans (Nat.card_Ico _ _).le
  have size := orderly.paired.size_le inItems (fun _ _ isMate => isMate.mem_rangeMates)
  exact size.trans (Nat.add_le_add ports mates)

/-- The counter `high` is below the markers all through the call. -/
def Unreserved (s : Pool) (c : Call) : Prop := ∀ tp ∈ s.tp.during c, tp.high < tpsTakenOdd

/-- The allocator of one configured range. -/
def rangeMachine (start stop : UInt16) : Machine Pool Call (List UInt16) :=
  { machine with init := fun s => ∃ random, s = ⟨turnportsInit start stop random, []⟩ }

/-- The ring is not longer than its array, `turnports_size` tells its length, and a release
leaves the entries of the free ports alone. -/
structure Fitting (tp : Turnports) : Prop where
  window : (tp.high - tp.low).toNat ≤ 65535
  size : (turnportsSize tp).toNat = (tp.high - tp.low).toNat
  entries : ∀ port other, Free tp other →
    (turnportsRelease tp port).ports (tp.status other).toUInt16 = tp.ports (tp.status other).toUInt16

theorem Orderly.room (orderly : Orderly start stop tp) (fits : windowBound start stop ≤ 65535)
    (unreserved : tp.high < tpsTakenOdd) : Room tp := by
  have window := orderly.window_le
  exact ⟨unreserved, by omega⟩

theorem Orderly.fitting (orderly : Orderly start stop tp) (fits : windowBound start stop ≤ 65535)
    (unreserved : tp.high < tpsTakenOdd) : Fitting tp := by
  have bound := orderly.window_le
  have window : (tp.high - tp.low).toNat ≤ 65535 := by
    rw [window_toNat orderly]
    omega
  have room := orderly.room fits unreserved
  refine ⟨window, ?_, ?_⟩
  · unfold turnportsSize
    rw [UInt32.toNat_toUInt16, Nat.mod_eq_of_lt (by omega)]
  · intro port other free
    obtain ⟨⟨above, below⟩, _⟩ := orderly.paired.kept.stamped free.stamp
    have apart := room.position_ne above below
    rw [ofNat_toNat] at apart
    unfold turnportsRelease
    split
    · exact Function.update_of_ne apart ..
    · rfl

theorem orderly_of_range (order : start ≤ stop) (fits : windowBound start stop ≤ 65535) {s : Pool}
    (reach : (rangeMachine start stop).Reach Unreserved s) : Orderly start stop s.tp := by
  refine Machine.Reach.invariant (P := fun s => Orderly start stop s.tp) ?_ ?_ reach
  · rintro _ ⟨random, rfl⟩
    exact (Matched.init order random).orderly order
  · intro s s' c ports orderly _ unreserved run
    have same : s' = (s.call c).1 := (congrArg Prod.fst (Option.some.inj run)).symm
    rw [same]
    exact (orderly.call (fun t member after => after.room fits (unreserved t member))).1

/-- The ring of a range that leaves room for its pairs never overflows, through every call of
every history whose counter `high` stays below the markers. -/
theorem ring_never_overflows {start stop : UInt16} (order : start ≤ stop) (fits : windowBound start stop ≤ 65535)
    {s : Pool} {c : Call} (reach : (rangeMachine start stop).Reach Unreserved s) (unreserved : Unreserved s c) :
    ∀ tp ∈ s.tp.during c, Fitting tp := by
  have orderly := orderly_of_range order fits reach
  have states := (orderly.call (fun t member after => after.room fits (unreserved t member))).2
  intro tp member
  exact (states tp member).fitting fits (unreserved tp member)

theorem fresh_unreserved (order : start ≤ stop) (random : Nat → Nat) :
    Unreserved ⟨turnportsInit start stop random, []⟩ .allocate := by
  have fresh : (turnportsInit start stop random).high < tpsTakenOdd := by
    have bound := stop.toNat_lt
    have markers : 65536 < tpsTakenOdd.toNat := by decide
    rw [(Shuffled.init order random).high, UInt32.lt_iff_toNat_lt, toUInt32_add_one_toNat]
    omega
  have allocated := turnportsAllocate_allocated (turnportsInit start stop random)
  intro tp member
  rcases List.mem_cons.mp member with rfl | last
  · exact fresh
  · rw [List.mem_singleton.mp last, allocated.high]
    exact fresh

def defaultPool : Pool := ⟨turnportsInit 49152 65535 (fun _ => 0), []⟩

/-- The ports 49152 to 65535 leave room enough. -/
theorem ring_never_overflows_default : windowBound 49152 65535 = 24576 ∧ Fitting defaultPool.tp := by
  have bound : windowBound 49152 65535 = 24576 := by rfl
  have order : (49152 : UInt16) ≤ 65535 := by decide
  have reach : (rangeMachine 49152 65535).Reach Unreserved defaultPool := .start ⟨_, rfl⟩
  have unreserved : Unreserved defaultPool .allocate := fresh_unreserved order _
  have fits : windowBound 49152 65535 ≤ 65535 := by
    rw [bound]
    omega
  exact ⟨bound, ring_never_overflows order fits reach unreserved defaultPool.tp (.head _)⟩

/-- A fresh ring of all the 65536 ports is longer than 65535. -/
theorem full_range_overflows : ¬ ∀ (start stop : UInt16), start ≤ stop → ∀ (s : Pool) (c : Call),
    (rangeMachine start stop).Reach Unreserved s → s.allows c → Unreserved s c →
      ∀ tp ∈ s.tp.during c, Fitting tp := by
  intro claimed
  have order : (0 : UInt16) ≤ 65535 := by decide
  have shuffled := Shuffled.init order (fun _ => 0)
  have fitting := claimed 0 65535 order ⟨turnportsInit 0 65535 (fun _ => 0), []⟩ .allocate (.start ⟨_, rfl⟩) trivial
    (fresh_unreserved order _) _ (.head _)
  have window := fitting.window
  rw [shuffled.high, shuffled.low] at window
  revert window
  decide

end Ports
end TurnCluster
