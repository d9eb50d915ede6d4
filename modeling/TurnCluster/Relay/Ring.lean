import Mathlib.Data.Set.Function
import TurnCluster.Lib.Ring
import TurnCluster.Relay.Exclusion

namespace TurnCluster
namespace Ports

/-- Where an allocation stops: behind the first live position, or where none is left. -/
structure Advanced (tp tp' : Turnports) (result : Option UInt16) : Prop where
  found : ∀ port, result = some port → LiveAt tp (tp.status port) ∧
    tp.ports (tp.status port).toUInt16 = port ∧ tp'.low.toNat = (tp.status port).toNat + 1 ∧
    ∀ q : UInt32, tp.low ≤ q → q < tp.status port → ¬ LiveAt tp q
  exhausted : result = none → RingInRange tp → tp.low ≤ tp.high → tp'.low = tp.high

variable {start stop : UInt16} {tp tp' : Turnports} {port p : UInt16} {q : Nat} {result : Option UInt16}

theorem LiveAt.reduce {q : UInt32} (live : LiveAt { tp with low := tp.low + 1 } q) (below : tp.low < tp.high) :
    LiveAt tp q :=
  live.of_later rfl rfl rfl (low_le_add_one below)

theorem Advanced.skip (below : tp.low < tp.high) (dead : ¬ LiveAt tp tp.low)
    (rest : Advanced { tp with low := tp.low + 1 } tp' result) :
    Advanced tp tp' result where
  found := by
    intro port same
    obtain ⟨live, entry, low, first⟩ := rest.found port same
    refine ⟨live.reduce below, entry, low, ?_⟩
    intro q above before isLive
    by_cases here : q = tp.low
    · exact dead (here ▸ isLive)
    · have advanced := isLive.advance here below
      exact first q advanced.1 before advanced
  exhausted := by
    intro none ring _
    have order : tp.low + 1 ≤ tp.high := by
      rw [UInt32.le_iff_toNat_le, low_add_one_toNat below]
      exact UInt32.lt_iff_toNat_lt.mp below
    exact rest.exhausted none (ring.advance below) order

theorem Advanced.refused (empty : RingInRange tp → tp.low ≤ tp.high → tp.low = tp.high) :
    Advanced tp tp none where
  found := by
    intro port same
    cases same
  exhausted := fun _ => empty

theorem Advanced.of_low (below : tp.low < tp.high) (live : LiveAt tp tp.low) (next : tp'.low = tp.low + 1) :
    Advanced tp tp' (some (tp.ports tp.low.toUInt16)) := by
  have here : tp.status (tp.ports tp.low.toUInt16) = tp.low := live.2.2.2
  refine ⟨?_, fun same => nomatch same⟩
  intro port same
  cases Option.some.inj same
  rw [here, next]
  refine ⟨live, rfl, low_add_one_toNat below, ?_⟩
  intro q above before
  exact absurd before (UInt32.not_lt.mpr above)

theorem allocateLoop_advanced (fuel : Nat) (tp : Turnports) (enough : tp.high.toNat - tp.low.toNat < fuel) :
    Advanced tp (allocateLoop fuel tp).2 (allocateLoop fuel tp).1 := by
  refine allocateLoop_rule ?_ ?_ Advanced.skip (fun _ below _ live => .of_low below live rfl) fuel tp enough
  · intro tp empty
    exact .refused fun _ order => UInt32.le_antisymm order empty
  · intro tp below astray
    exact .refused fun ring _ => absurd (ring tp.low (UInt32.le_refl _) below) astray

theorem turnportsAllocate_advanced (tp : Turnports) :
    Advanced tp (turnportsAllocate tp).2 (turnportsAllocate tp).1 :=
  allocateLoop_advanced _ tp (Nat.lt_succ_self _)

instance (tp : Turnports) (port : UInt16) : Decidable (InRange tp port) :=
  inferInstanceAs (Decidable (_ ∧ _))

/-- The allocator as a queue of ports: a port of the range that is not taken has its status as stamp. -/
def Turnports.ring (tp : Turnports) : Ring UInt16 where
  entry q := tp.ports (UInt16.ofNat q)
  stamp port := if InRange tp port ∧ isTaken (tp.status port) = false then some (tp.status port).toNat else none
  low := tp.low.toNat
  high := tp.high.toNat

theorem ofNat_toNat (q : UInt32) : UInt16.ofNat q.toNat = q.toUInt16 := by
  apply UInt16.toNat_inj.mp
  rw [UInt16.toNat_ofNat', UInt32.toNat_toUInt16]

theorem ring_entry (tp : Turnports) (q : UInt32) : tp.ring.entry q.toNat = tp.ports q.toUInt16 := by
  show tp.ports (UInt16.ofNat q.toNat) = _
  rw [ofNat_toNat]

theorem ring_stamp_some :
    tp.ring.stamp port = some q ↔ InRange tp port ∧ isTaken (tp.status port) = false ∧ (tp.status port).toNat = q := by
  show (if _ then _ else _) = _ ↔ _
  split
  · rename_i free
    simp only [Option.some.injEq, free, true_and]
  · rename_i taken
    simp only [reduceCtorEq, false_iff]
    rintro ⟨range, free, _⟩
    exact taken ⟨range, free⟩

theorem ring_stamp_none (taken : isTaken (tp.status port) = true) : tp.ring.stamp port = none := by
  show (if _ then _ else _) = _
  rw [if_neg]
  rintro ⟨_, free⟩
  rw [taken] at free
  cases free

theorem LiveAt.of_live {q : UInt32} (live : tp.ring.Live q.toNat) : LiveAt tp q := by
  obtain ⟨⟨above, below⟩, stamp⟩ := live
  rw [ring_entry, ring_stamp_some] at stamp
  obtain ⟨_, free, same⟩ := stamp
  exact ⟨UInt32.le_iff_toNat_le.mpr above, UInt32.lt_iff_toNat_lt.mpr below, free, UInt32.toNat_inj.mp same⟩

theorem exists_toNat_of_lt {bound : UInt32} (below : q < bound.toNat) : ∃ c : UInt32, c.toNat = q := by
  have small := bound.toNat_lt
  exact ⟨UInt32.ofNat q, by rw [UInt32.toNat_ofNat', Nat.mod_eq_of_lt (by omega)]⟩

theorem InRange.of_same (start : tp'.rangeStart = tp.rangeStart) (stop : tp'.rangeStop = tp.rangeStop) :
    InRange tp' port ↔ InRange tp port := by
  unfold InRange
  rw [start, stop]

theorem ring_stamp_congr (start : tp'.rangeStart = tp.rangeStart) (stop : tp'.rangeStop = tp.rangeStop)
    (status : tp'.status port = tp.status port) : tp'.ring.stamp port = tp.ring.stamp port := by
  show (if _ then _ else _) = (if _ then _ else _)
  rw [status, if_congr (and_congr_left' (InRange.of_same start stop)) rfl rfl]

theorem ring_stamp_update {tp tp' : Turnports} {port : UInt16} {status : UInt32}
    (start : tp'.rangeStart = tp.rangeStart) (stop : tp'.rangeStop = tp.rangeStop)
    (updated : tp'.status = Function.update tp.status port status) :
    tp'.ring.stamp = Function.update tp.ring.stamp port (tp'.ring.stamp port) := by
  funext other
  by_cases same : other = port
  · rw [same, Function.update_self]
  · rw [Function.update_of_ne same]
    exact ring_stamp_congr start stop (by rw [updated, Function.update_of_ne same])

theorem ring_pop (allocated : Allocated tp tp' (some port)) (advanced : Advanced tp tp' (some port)) :
    tp.ring.Pop tp'.ring port (tp.status port).toNat := by
  obtain ⟨range, free, status, _, _⟩ := allocated.fresh port rfl
  obtain ⟨live, _, low, first⟩ := advanced.found port rfl
  refine ⟨ring_stamp_some.mpr ⟨range, free, rfl⟩, ?_, low, congrArg UInt32.toNat allocated.high, ?_, ?_⟩
  · intro q above before isLive
    obtain ⟨q, rfl⟩ := exists_toNat_of_lt before
    exact first q (UInt32.le_iff_toNat_le.mpr above) (UInt32.lt_iff_toNat_lt.mpr before) (.of_live isLive)
  · show (fun q => tp'.ports (UInt16.ofNat q)) = fun q => tp.ports (UInt16.ofNat q)
    rw [allocated.ports]
  · rw [ring_stamp_update allocated.rangeStart allocated.rangeStop status, ring_stamp_none allocated.taken]

theorem ring_skip (ring : RingInRange tp) (order : tp.low ≤ tp.high) (allocated : Allocated tp tp' none)
    (advanced : Advanced tp tp' none) : tp.ring.Skip tp'.ring := by
  obtain ⟨status, noLive⟩ := allocated.failed rfl
  have low := advanced.exhausted rfl ring order
  have bounds := UInt32.le_iff_toNat_le.mp order
  have last : tp'.ring.low = tp.ring.high := congrArg UInt32.toNat low
  have high : tp'.ring.high = tp.ring.high := congrArg UInt32.toNat allocated.high
  refine ⟨?_, by rw [last]; exact bounds, by rw [last, high], high, ?_, ?_⟩
  · intro q above before isLive
    obtain ⟨q, rfl⟩ := exists_toNat_of_lt before
    exact noLive ring ⟨q, .of_live isLive⟩
  · show (fun q => tp'.ports (UInt16.ofNat q)) = fun q => tp.ports (UInt16.ofNat q)
    rw [allocated.ports]
  · funext port
    exact ring_stamp_congr allocated.rangeStart allocated.rangeStop (by rw [status])

/-- The counter `high` is no marker and the ring has room for one more entry. -/
structure Room (tp : Turnports) : Prop where
  unreserved : tp.high < tpsTakenOdd
  window : tp.high.toNat < tp.low.toNat + 65536

theorem Room.high_add_one (room : Room tp) : (tp.high + 1).toNat = tp.high.toNat + 1 :=
  low_add_one_toNat room.unreserved

theorem Room.position_ne (room : Room tp) (above : tp.low.toNat ≤ q) (below : q < tp.high.toNat) :
    UInt16.ofNat q ≠ tp.high.toUInt16 := by
  intro same
  have window := room.window
  have same := congrArg UInt16.toNat same
  rw [UInt16.toNat_ofNat', UInt32.toNat_toUInt16] at same
  omega

theorem ring_put (room : Room tp) (range : InRange tp port) (taken : isTaken (tp.status port) = true) :
    tp.ring.Put (turnportsRelease tp port).ring port := by
  have stamps := @ring_stamp_update tp (turnportsRelease tp port) port tp.high
  rw [turnportsRelease_taken range taken] at stamps ⊢
  refine ⟨ring_stamp_none taken, rfl, room.high_add_one, ?_, ?_, ?_⟩
  · show Function.update tp.ports tp.high.toUInt16 port (UInt16.ofNat tp.high.toNat) = port
    rw [ofNat_toNat, Function.update_self]
  · rintro q ⟨above, below⟩
    exact Function.update_of_ne (room.position_ne above below) ..
  · rw [stamps rfl rfl rfl]
    refine congrArg (Function.update _ port) (ring_stamp_some.mpr ⟨range, ?_, ?_⟩)
    · show isTaken (Function.update tp.status port tp.high port) = false
      rw [Function.update_self]
      exact isTaken_of_lt room.unreserved
    · show (Function.update tp.status port tp.high port).toNat = tp.high.toNat
      rw [Function.update_self]

/-- Marking the pair takes the odd port from the middle; the even one is taken already. -/
theorem ring_void {odd : UInt16} (taken : isTaken (tp.status port) = true) :
    tp.ring.Void
      { tp with
        status := Function.update (Function.update tp.status port tpsTakenEven) odd tpsTakenOdd }.ring odd := by
  refine ⟨rfl, rfl, rfl, ?_⟩
  funext other
  by_cases isOdd : other = odd
  · rw [isOdd, Function.update_self]
    refine ring_stamp_none ?_
    show isTaken (Function.update (Function.update tp.status port tpsTakenEven) odd tpsTakenOdd odd) = true
    rw [Function.update_self]
    decide
  · rw [Function.update_of_ne isOdd]
    by_cases isPort : other = port
    · rw [isPort] at isOdd ⊢
      rw [ring_stamp_none taken]
      refine ring_stamp_none ?_
      show isTaken (Function.update (Function.update tp.status port tpsTakenEven) odd tpsTakenOdd port) = true
      rw [Function.update_of_ne isOdd, Function.update_self]
      decide
    · refine ring_stamp_congr rfl rfl ?_
      show Function.update (Function.update tp.status port tpsTakenEven) odd tpsTakenOdd other = _
      rw [Function.update_of_ne isOdd, Function.update_of_ne isPort]

/-- An even port and the next one, both of the range. -/
def Mate (start stop x y : UInt16) : Prop :=
  x.toNat % 2 = 0 ∧ y.toNat = x.toNat + 1 ∧ start ≤ x ∧ y ≤ stop

theorem Mate.unique {x x' y : UInt16} (first : Mate start stop x y) (second : Mate start stop x' y) : x' = x := by
  obtain ⟨_, next, _⟩ := first
  obtain ⟨_, next', _⟩ := second
  exact UInt16.toNat_inj.mp (by omega)

/-- In a fresh allocator the two tables are inverse to each other on the range. -/
structure Matched (start stop : UInt16) (tp : Turnports) : Prop where
  shuffled : Shuffled start stop tp
  small : ∀ p, start ≤ p → p ≤ stop → (tp.status p).toNat < 65536
  there : ∀ p, start ≤ p → p ≤ stop → tp.ports (tp.status p).toUInt16 = p
  back : ∀ q, start ≤ q → q ≤ stop → (tp.status (tp.ports q)).toUInt16 = q

theorem Matched.table (start stop : UInt16) : Matched start stop (turnportsTable start stop) := by
  have same {p : UInt16} (above : start ≤ p) (below : p ≤ stop) :
      (turnportsTable start stop).status p = p.toUInt32 := if_pos ⟨above, below⟩
  refine ⟨.table start stop, ?_, ?_, ?_⟩
  · intro p above below
    rw [same above below, UInt16.toNat_toUInt32]
    exact p.toNat_lt
  · intro p above below
    rw [same above below, UInt16.toUInt16_toUInt32]
    rfl
  · intro q above below
    show ((turnportsTable start stop).status q).toUInt16 = q
    rw [same above below, UInt16.toUInt16_toUInt32]

theorem Matched.step (matched : Matched start stop tp) (order : start ≤ stop) {size : UInt32}
    (width : size.toNat = stop.toNat + 1 - start.toNat) (random1 random2 : Nat) :
    Matched start stop (randomizeStep tp size random1 random2) := by
  have shuffled := matched.shuffled.step order width random1 random2
  obtain ⟨above1, below1⟩ := matched.shuffled.choice order width random1
  obtain ⟨above2, below2⟩ := matched.shuffled.choice order width random2
  unfold randomizeStep at shuffled ⊢
  dsimp only at shuffled ⊢
  generalize tp.low.toUInt16 + UInt16.ofNat (random1 % size.toNat) = port1 at *
  generalize tp.low.toUInt16 + UInt16.ofNat (random2 % size.toNat) = port2 at *
  by_cases same : port1 = port2
  · rw [if_pos same]
    exact matched
  · rw [if_neg same] at shuffled ⊢
    have there1 := matched.there port1 above1 below1
    have there2 := matched.there port2 above2 below2
    have positions : (tp.status port1).toUInt16 ≠ (tp.status port2).toUInt16 := by
      intro equal
      rw [equal, there2] at there1
      exact same there1.symm
    refine ⟨shuffled, ?_, ?_, ?_⟩
    · intro p above below
      dsimp only
      rw [Function.update_apply, Function.update_apply]
      split
      · exact matched.small port1 above1 below1
      · split
        · exact matched.small port2 above2 below2
        · exact matched.small p above below
    · intro p above below
      dsimp only
      by_cases is2 : p = port2
      · rw [is2, Function.update_self, Function.update_of_ne positions, Function.update_self]
        exact there2
      · rw [Function.update_of_ne is2]
        by_cases is1 : p = port1
        · rw [is1, Function.update_self, Function.update_self]
          exact there1
        · have there := matched.there p above below
          have not1 : (tp.status p).toUInt16 ≠ (tp.status port1).toUInt16 := by
            intro equal
            rw [equal, there1] at there
            exact is1 there.symm
          have not2 : (tp.status p).toUInt16 ≠ (tp.status port2).toUInt16 := by
            intro equal
            rw [equal, there2] at there
            exact is2 there.symm
          rw [Function.update_of_ne is1, Function.update_of_ne not2, Function.update_of_ne not1]
          exact there
    · intro q above below
      dsimp only
      have back := matched.back q above below
      by_cases at2 : q = (tp.status port2).toUInt16
      · rw [at2, Function.update_self, there1, Function.update_of_ne same, Function.update_self]
      · rw [Function.update_of_ne at2]
        by_cases at1 : q = (tp.status port1).toUInt16
        · rw [at1, Function.update_self, there2, Function.update_self]
        · have not1 : tp.ports q ≠ port1 := fun equal => at1 (by rw [← equal, back])
          have not2 : tp.ports q ≠ port2 := fun equal => at2 (by rw [← equal, back])
          rw [Function.update_of_ne at1, Function.update_of_ne not2, Function.update_of_ne not1]
          exact back

theorem Matched.init (order : start ≤ stop) (random : Nat → Nat) :
    Matched start stop (turnportsInit start stop random) :=
  turnportsInit_rule order (.table start stop)
    (fun _ _ random1 random2 width matched => matched.step order width random1 random2) random

theorem Shuffled.step_status_outside (shuffled : Shuffled start stop tp) (order : start ≤ stop) {size : UInt32}
    (width : size.toNat = stop.toNat + 1 - start.toNat) (random1 random2 : Nat) (outside : ¬ (start ≤ p ∧ p ≤ stop)) :
    (randomizeStep tp size random1 random2).status p = tp.status p := by
  have choice1 := shuffled.choice order width random1
  have choice2 := shuffled.choice order width random2
  unfold randomizeStep
  dsimp only
  split
  · rfl
  · have not1 : p ≠ tp.low.toUInt16 + UInt16.ofNat (random1 % size.toNat) :=
      fun equal => outside (equal ▸ choice1)
    have not2 : p ≠ tp.low.toUInt16 + UInt16.ofNat (random2 % size.toNat) :=
      fun equal => outside (equal ▸ choice2)
    dsimp only
    rw [Function.update_of_ne not2, Function.update_of_ne not1]

theorem turnportsInit_status_outside (order : start ≤ stop) (random : Nat → Nat) (outside : ¬ (start ≤ p ∧ p ≤ stop)) :
    (turnportsInit start stop random).status p = tpsOutOfRange := by
  have both : Shuffled start stop (turnportsInit start stop random) ∧
      (turnportsInit start stop random).status p = tpsOutOfRange := by
    refine turnportsInit_rule (P := fun tp => Shuffled start stop tp ∧ tp.status p = tpsOutOfRange) order
      ⟨.table start stop, if_neg outside⟩ ?_ random
    intro tp size random1 random2 width before
    refine ⟨before.1.step order width random1 random2, ?_⟩
    rw [before.1.step_status_outside order width random1 random2 outside, before.2]
  exact both.2

theorem Matched.bijOn (matched : Matched start stop tp) :
    Set.BijOn tp.ports {q | start ≤ q ∧ q ≤ stop} {p | start ≤ p ∧ p ≤ stop} := by
  refine ⟨?_, ?_, ?_⟩
  · rintro q ⟨above, below⟩
    exact matched.shuffled.ports q above below
  · rintro q ⟨above, below⟩ q' ⟨above', below'⟩ same
    rw [← matched.back q above below, same, matched.back q' above' below']
  · rintro p ⟨above, below⟩
    exact ⟨_, matched.shuffled.status p above below, matched.there p above below⟩

/-- A new allocator holds each port of its range once, the two tables are inverse to each other
there, and the ports outside are marked as such. -/
theorem turnportsInit_inverse (start stop : UInt16) (order : start ≤ stop) (random : Nat → Nat) :
    let tp := turnportsInit start stop random
    Set.BijOn tp.ports {q | start ≤ q ∧ q ≤ stop} {p | start ≤ p ∧ p ≤ stop} ∧
      (∀ p, start ≤ p → p ≤ stop →
        start.toNat ≤ (tp.status p).toNat ∧ (tp.status p).toNat ≤ stop.toNat ∧
          tp.ports (tp.status p).toUInt16 = p) ∧
      (∀ p, ¬ (start ≤ p ∧ p ≤ stop) → tp.status p = tpsOutOfRange) := by
  have matched := Matched.init order random
  refine ⟨matched.bijOn, ?_, fun p outside => turnportsInit_status_outside order random outside⟩
  intro p above below
  have inside := matched.shuffled.status p above below
  rw [UInt16.le_iff_toNat_le, UInt16.le_iff_toNat_le, UInt32.toNat_toUInt16,
    Nat.mod_eq_of_lt (matched.small p above below)] at inside
  exact ⟨inside.1, inside.2, matched.there p above below⟩

/-- The whole number space is a range. -/
theorem turnportsInit_inverse_full : (0 : UInt16) ≤ 65535 ∧
    (turnportsInit 0 65535 (fun i => 7 * i)).ports
      ((turnportsInit 0 65535 (fun i => 7 * i)).status 443).toUInt16 = 443 :=
  ⟨by decide, ((turnportsInit_inverse 0 65535 (by decide) (fun i => 7 * i)).2.1 443 (by decide) (by decide)).2.2⟩

/-- What every history keeps: the ring holds ports of the range, one live entry for each free port
and no stale entries but those of pairs. -/
structure Orderly (start stop : UInt16) (tp : Turnports) : Prop where
  rangeStart : tp.rangeStart = start
  rangeStop : tp.rangeStop = stop
  ring : RingInRange tp
  paired : tp.ring.Paired (Mate start stop)

theorem Matched.status_toNat (matched : Matched start stop tp) (above : start ≤ p) (below : p ≤ stop) :
    (tp.status p).toUInt16.toNat = (tp.status p).toNat := by
  rw [UInt32.toNat_toUInt16, Nat.mod_eq_of_lt (matched.small p above below)]

theorem Matched.stamped (matched : Matched start stop tp) {position : UInt16} (above : start ≤ position)
    (below : position ≤ stop) : (tp.status (tp.ports position)).toNat = position.toNat := by
  obtain ⟨first, last⟩ := matched.shuffled.ports position above below
  rw [← matched.status_toNat first last, matched.back position above below]

theorem Matched.orderly (order : start ≤ stop) (matched : Matched start stop tp) : Orderly start stop tp := by
  have shuffled := matched.shuffled
  have low : tp.ring.low = start.toNat := by
    show tp.low.toNat = _
    rw [shuffled.low, UInt16.toNat_toUInt32]
  have high : tp.ring.high = stop.toNat + 1 := by
    show tp.high.toNat = _
    rw [shuffled.high, toUInt32_add_one_toNat]
  have range {p : UInt16} : InRange tp p ↔ start ≤ p ∧ p ≤ stop := by
    unfold InRange
    rw [shuffled.rangeStart, shuffled.rangeStop]
  have kept : tp.ring.Kept := by
    refine ⟨?_, ?_⟩
    · have order := UInt16.le_iff_toNat_le.mp order
      rw [low, high]
      omega
    · intro p q stamp
      obtain ⟨inRange, _, rfl⟩ := ring_stamp_some.mp stamp
      obtain ⟨above, below⟩ := range.mp inRange
      obtain ⟨start', stop'⟩ := shuffled.status p above below
      rw [UInt16.le_iff_toNat_le, matched.status_toNat above below] at start' stop'
      refine ⟨⟨by rw [low]; exact start', by rw [high]; omega⟩, ?_⟩
      rw [ring_entry]
      exact matched.there p above below
  have noStale {q : Nat} : ¬ tp.ring.Stale q := by
    rintro ⟨⟨above, below⟩, stale⟩
    rw [low] at above
    rw [high] at below
    have bound := stop.toNat_lt
    have position : (UInt16.ofNat q).toNat = q := by
      rw [UInt16.toNat_ofNat', Nat.mod_eq_of_lt (by omega)]
    have above' : start ≤ UInt16.ofNat q := by rw [UInt16.le_iff_toNat_le, position]; exact above
    have below' : UInt16.ofNat q ≤ stop := by rw [UInt16.le_iff_toNat_le, position]; omega
    obtain ⟨start', stop'⟩ := shuffled.ports _ above' below'
    have stamped := (matched.stamped above' below').trans position
    refine stale (ring_stamp_some.mpr ⟨range.mpr ⟨start', stop'⟩, isTaken_of_lt ?_, stamped⟩)
    have small := matched.small _ start' stop'
    rw [UInt32.lt_iff_toNat_lt]
    exact small.trans (by decide)
  exact ⟨shuffled.rangeStart, shuffled.rangeStop, shuffled.ringInRange, kept,
    fun stale => absurd stale noStale, fun stale => absurd stale noStale⟩

theorem Orderly.low_le_high (orderly : Orderly start stop tp) :
    tp.low ≤ tp.high := UInt32.le_iff_toNat_le.mpr orderly.paired.kept.order

theorem Orderly.of_allocated (orderly : Orderly start stop tp) (allocated : Allocated tp tp' result)
    (advanced : Advanced tp tp' result) : Orderly start stop tp' := by
  refine ⟨allocated.rangeStart.trans orderly.rangeStart, allocated.rangeStop.trans orderly.rangeStop,
    allocated.keeps_ring orderly.ring, ?_⟩
  cases result with
  | some port => exact orderly.paired.pop (ring_pop allocated advanced)
  | none => exact orderly.paired.skip (ring_skip orderly.ring orderly.low_le_high allocated advanced)

theorem turnportsRelease_rangeStart (tp : Turnports) (port : UInt16) :
    (turnportsRelease tp port).rangeStart = tp.rangeStart := by
  unfold turnportsRelease
  split <;> rfl

theorem turnportsRelease_rangeStop (tp : Turnports) (port : UInt16) :
    (turnportsRelease tp port).rangeStop = tp.rangeStop := by
  unfold turnportsRelease
  split <;> rfl

theorem Orderly.release (orderly : Orderly start stop tp) (room : Room tp) (port : UInt16) :
    Orderly start stop (turnportsRelease tp port) := by
  by_cases effective : InRange tp port ∧ isTaken (tp.status port) = true
  · obtain ⟨range, taken⟩ := effective
    exact ⟨(turnportsRelease_rangeStart tp port).trans orderly.rangeStart,
      (turnportsRelease_rangeStop tp port).trans orderly.rangeStop, orderly.ring.release range taken,
      orderly.paired.put (ring_put room range taken)⟩
  · have same : turnportsRelease tp port = tp := by
      unfold turnportsRelease
      rw [if_neg (fun effect => effective ⟨⟨effect.1, effect.2.1⟩, effect.2.2⟩)]
    rw [same]
    exact orderly

end Ports
end TurnCluster
