import TurnCluster.Relay.Holding

namespace TurnCluster
namespace Ports

/-- The tables of a fresh allocator: both arrays map the range to itself. -/
structure Shuffled (start stop : UInt16) (tp : Turnports) : Prop where
  low : tp.low = start.toUInt32
  high : tp.high = stop.toUInt32 + 1
  rangeStart : tp.rangeStart = start
  rangeStop : tp.rangeStop = stop
  ports : ∀ q, start ≤ q → q ≤ stop → start ≤ tp.ports q ∧ tp.ports q ≤ stop
  status : ∀ p, start ≤ p → p ≤ stop → start ≤ (tp.status p).toUInt16 ∧ (tp.status p).toUInt16 ≤ stop

theorem toUInt32_add_one_toNat (x : UInt16) : (x.toUInt32 + 1).toNat = x.toNat + 1 := by
  have bound := x.toNat_lt
  rw [UInt32.toNat_add, UInt32.toNat_one, UInt16.toNat_toUInt32, Nat.mod_eq_of_lt]
  omega

theorem Shuffled.table (start stop : UInt16) : Shuffled start stop (turnportsTable start stop) where
  low := rfl
  high := rfl
  rangeStart := rfl
  rangeStop := rfl
  ports := fun _ start stop => ⟨start, stop⟩
  status := by
    intro p above below
    have same : (turnportsTable start stop).status p = p.toUInt32 := if_pos ⟨above, below⟩
    rw [same, UInt16.toUInt16_toUInt32]
    exact ⟨above, below⟩

variable {start stop : UInt16} {s : Pool} {tp : Turnports} {ports : List UInt16} {size : UInt32}

theorem tableSize_toNat (order : start ≤ stop) :
    ((turnportsTable start stop).high - (turnportsTable start stop).low).toNat =
      stop.toNat + 1 - start.toNat := by
  have order := UInt16.le_iff_toNat_le.mp order
  have bound := stop.toNat_lt
  show (stop.toUInt32 + 1 - start.toUInt32).toNat = _
  rw [UInt32.toNat_sub, toUInt32_add_one_toNat, UInt16.toNat_toUInt32]
  omega

theorem Shuffled.choice (shuffled : Shuffled start stop tp) (order : start ≤ stop)
    (width : size.toNat = stop.toNat + 1 - start.toNat) (random : Nat) :
    start ≤ tp.low.toUInt16 + UInt16.ofNat (random % size.toNat) ∧
      tp.low.toUInt16 + UInt16.ofNat (random % size.toNat) ≤ stop := by
  have order := UInt16.le_iff_toNat_le.mp order
  have bound := stop.toNat_lt
  have small := Nat.mod_lt random (show 0 < size.toNat by omega)
  rw [UInt16.le_iff_toNat_le, UInt16.le_iff_toNat_le, UInt16.toNat_add, shuffled.low,
    UInt16.toUInt16_toUInt32, UInt16.toNat_ofNat', Nat.mod_eq_of_lt (show _ < 2 ^ 16 by omega),
    Nat.mod_eq_of_lt (show _ < 2 ^ 16 by omega)]
  omega

theorem Shuffled.step (shuffled : Shuffled start stop tp) (order : start ≤ stop)
    (width : size.toNat = stop.toNat + 1 - start.toNat) (random1 random2 : Nat) :
    Shuffled start stop (randomizeStep tp size random1 random2) := by
  have choice1 := shuffled.choice order width random1
  have choice2 := shuffled.choice order width random2
  unfold randomizeStep
  dsimp only
  split
  · exact shuffled
  · have pos1 := shuffled.status _ choice1.1 choice1.2
    have pos2 := shuffled.status _ choice2.1 choice2.2
    refine ⟨shuffled.low, shuffled.high, shuffled.rangeStart, shuffled.rangeStop, ?_, ?_⟩
    · intro q above below
      dsimp only
      rw [Function.update_apply, Function.update_apply]
      split
      · exact shuffled.ports _ pos1.1 pos1.2
      · split
        · exact shuffled.ports _ pos2.1 pos2.2
        · exact shuffled.ports q above below
    · intro p above below
      dsimp only
      rw [Function.update_apply, Function.update_apply]
      split
      · exact pos1
      · split
        · exact pos2
        · exact shuffled.status p above below

theorem turnportsInit_rule {P : Turnports → Prop} (order : start ≤ stop) (table : P (turnportsTable start stop))
    (step : ∀ tp (size : UInt32) random1 random2, size.toNat = stop.toNat + 1 - start.toNat → P tp →
      P (randomizeStep tp size random1 random2)) (random : Nat → Nat) : P (turnportsInit start stop random) := by
  unfold turnportsInit turnportsRandomize
  have width := tableSize_toNat order
  generalize (turnportsTable start stop).high - (turnportsTable start stop).low = size at width ⊢
  generalize turnportsTable start stop = tp at table
  induction List.range (size * 10).toNat generalizing tp with
  | nil => exact table
  | cons i rest ih =>
    rw [List.foldl_cons]
    exact ih _ (step tp size (random (2 * i)) (random (2 * i + 1)) width table)

theorem Shuffled.init (order : start ≤ stop) (random : Nat → Nat) :
    Shuffled start stop (turnportsInit start stop random) :=
  turnportsInit_rule order (.table start stop)
    (fun _ _ random1 random2 width shuffled => shuffled.step order width random1 random2) random

theorem Shuffled.ringInRange (shuffled : Shuffled start stop tp) : RingInRange tp := by
  intro q above below
  rw [shuffled.low, UInt32.le_iff_toNat_le, UInt16.toNat_toUInt32] at above
  rw [shuffled.high, UInt32.lt_iff_toNat_lt, toUInt32_add_one_toNat] at below
  have bound := stop.toNat_lt
  have position : q.toUInt16.toNat = q.toNat := by
    rw [UInt32.toNat_toUInt16, Nat.mod_eq_of_lt]
    omega
  unfold InRange
  rw [shuffled.rangeStart, shuffled.rangeStop]
  apply shuffled.ports
  · rw [UInt16.le_iff_toNat_le]
    omega
  · rw [UInt16.le_iff_toNat_le]
    omega

/-- The allocator with the ports its callers hold. -/
structure Pool where
  tp : Turnports
  held : List UInt16

inductive Call where
  | allocate
  | allocateEven (allocateRtcp : Bool) (random : UInt32)
  | release (port : UInt16)
  deriving DecidableEq, Repr

/-- One call: the new state and the ports handed out. -/
def Pool.call (s : Pool) : Call → Pool × List UInt16
  | .allocate =>
    let (result, tp) := turnportsAllocate s.tp
    (⟨tp, result.toList ++ s.held⟩, result.toList)
  | .allocateEven allocateRtcp random =>
    let (result, tp) := turnportsAllocateEven s.tp allocateRtcp random
    (⟨tp, evenPorts allocateRtcp result ++ s.held⟩, evenPorts allocateRtcp result)
  | .release port => (⟨turnportsRelease s.tp port, s.held.filter (· ≠ port)⟩, [])

/-- Only what is held may be released. -/
def Pool.allows (s : Pool) : Call → Prop
  | .release port => port ∈ s.held
  | _ => True

instance (s : Pool) (c : Call) : Decidable (s.allows c) :=
  match c with
  | .release port => inferInstanceAs (Decidable (port ∈ s.held))
  | .allocate => .isTrue trivial
  | .allocateEven _ _ => .isTrue trivial

def machine : Machine Pool Call (List UInt16) where
  init s := ∃ start stop random, start ≤ stop ∧ s = ⟨turnportsInit start stop random, []⟩
  enabled := Pool.allows
  next s c := some (s.call c)

instance (s : Pool) (c : Call) : Decidable (machine.enabled s c) :=
  inferInstanceAs (Decidable (s.allows c))

/-- The condition on a call of `turnports_allocate_even`. -/
def Harmless (s : Pool) : Call → Prop
  | .allocateEven _ _ => turnportsSize s.tp ≤ 1 ∨ RoundsHarmless s.tp (turnportsSize s.tp).toNat
  | _ => True

/-- No handed-out port was held, and only these and the released port change between taken and free. -/
def CallSafe (s : Pool) (c : Call) : Prop :=
  (∀ port ∈ (s.call c).2, port ∉ s.held) ∧
    ∀ port, port ∉ (s.call c).2 → c ≠ .release port →
      isTaken ((s.call c).1.tp.status port) = isTaken (s.tp.status port)

structure HeldTaken (s : Pool) : Prop where
  ring : RingInRange s.tp
  taken : ∀ port ∈ s.held, InRange s.tp port ∧ isTaken (s.tp.status port) = true

theorem HeldTaken.handOut (held : HeldTaken s) (handedOut : HandedOut s.tp tp ports) :
    HeldTaken ⟨tp, ports ++ s.held⟩ where
  ring := handedOut.ring
  taken := by
    intro port member
    show InRange tp port ∧ _
    unfold InRange
    rw [handedOut.rangeStart, handedOut.rangeStop]
    rcases List.mem_append.mp member with new | old
    · obtain ⟨range, _, taken⟩ := handedOut.fresh port new
      exact ⟨range, taken⟩
    · obtain ⟨range, taken⟩ := held.taken port old
      refine ⟨range, ?_⟩
      by_cases again : port ∈ ports
      · exact (handedOut.fresh port again).2.2
      · rw [handedOut.kept port again]
        exact taken

theorem HandedOut.not_held (held : HeldTaken s) (handedOut : HandedOut s.tp tp ports) :
    ∀ port ∈ ports, port ∉ s.held := by
  intro port member isHeld
  have free := (handedOut.fresh port member).2.1
  rw [(held.taken port isHeld).2] at free
  cases free

theorem turnportsAllocate_handedOut (ring : RingInRange tp) :
    HandedOut tp (turnportsAllocate tp).2 (turnportsAllocate tp).1.toList := by
  have allocated := turnportsAllocate_allocated tp
  generalize turnportsAllocate tp = step at allocated
  obtain ⟨result, tp'⟩ := step
  cases result with
  | some port => exact allocated.handedOut ring
  | none =>
    have kept : TakenKept tp tp' [] := fun port _ => by rw [(allocated.failed rfl).1]
    exact .of_kept kept allocated.rangeStart allocated.rangeStop (.nothing (allocated.keeps_ring ring))

theorem turnportsAllocateEven_handedOut (ring : RingInRange s.tp) {allocateRtcp : Bool} {random : UInt32}
    (harmless : Harmless s (.allocateEven allocateRtcp random)) :
    HandedOut s.tp (turnportsAllocateEven s.tp allocateRtcp random).2
      (evenPorts allocateRtcp (turnportsAllocateEven s.tp allocateRtcp random).1) := by
  unfold turnportsAllocateEven
  by_cases large : 1 < turnportsSize s.tp
  · rw [if_pos large]
    rcases harmless with small | harmless
    · exact absurd large (UInt16.not_lt.mpr small)
    · exact evenLoop_handedOut allocateRtcp random _ s.tp ring harmless
  · rw [if_neg large]
    exact .nothing ring

theorem turnportsRelease_status_of_ne (tp : Turnports) {port other : UInt16} (different : other ≠ port) :
    (turnportsRelease tp port).status other = tp.status other := by
  unfold turnportsRelease
  split
  · exact Function.update_of_ne different ..
  · rfl

theorem HeldTaken.release {port : UInt16} (held : HeldTaken s) (isHeld : port ∈ s.held) :
    HeldTaken ⟨turnportsRelease s.tp port, s.held.filter (· ≠ port)⟩ where
  ring := held.ring.release (held.taken port isHeld).1 (held.taken port isHeld).2
  taken := by
    intro other member
    obtain ⟨stillHeld, different⟩ := List.mem_filter.mp member
    rw [decide_eq_true_eq] at different
    obtain ⟨range, taken⟩ := held.taken other stillHeld
    rw [turnportsRelease_status_of_ne _ different,
      turnportsRelease_taken (held.taken port isHeld).1 (held.taken port isHeld).2]
    exact ⟨range, taken⟩

theorem HeldTaken.call {s : Pool} {c : Call} (held : HeldTaken s) (allowed : s.allows c)
    (harmless : Harmless s c) : HeldTaken (s.call c).1 := by
  cases c with
  | allocate => exact held.handOut (turnportsAllocate_handedOut held.ring)
  | allocateEven allocateRtcp random =>
    exact held.handOut (turnportsAllocateEven_handedOut held.ring harmless)
  | release port => exact held.release allowed

theorem HeldTaken.callSafe {c : Call} (held : HeldTaken s) (harmless : Harmless s c) : CallSafe s c := by
  cases c with
  | allocate =>
    have handedOut := turnportsAllocate_handedOut held.ring
    exact ⟨handedOut.not_held held, fun port outside _ => handedOut.kept port outside⟩
  | allocateEven allocateRtcp random =>
    have handedOut := turnportsAllocateEven_handedOut held.ring harmless
    exact ⟨handedOut.not_held held, fun port outside _ => handedOut.kept port outside⟩
  | release port =>
    refine ⟨?_, ?_⟩
    · intro other member
      cases member
    · intro other _ notReleased
      have different : other ≠ port := fun same => notReleased (same ▸ rfl)
      show isTaken ((turnportsRelease s.tp port).status other) = _
      rw [turnportsRelease_status_of_ne _ different]

theorem held_taken (reach : machine.Reach Harmless s) : HeldTaken s := by
  refine Machine.Reach.invariant (P := HeldTaken) ?_ ?_ reach
  · rintro _ ⟨start, stop, random, order, rfl⟩
    refine ⟨(Shuffled.init order random).ringInRange, ?_⟩
    intro port member
    cases member
  · intro s s' c ports held allowed harmless run
    have same : s' = (s.call c).1 := (congrArg Prod.fst (Option.some.inj run)).symm
    rw [same]
    exact held.call allowed harmless

/-- In every history whose calls of `turnports_allocate_even` are all harmless,
no call hands out a port that is held or changes what is taken beyond the ports
it returns or releases. -/
theorem port_exclusion {s : Pool} {c : Call} (reach : machine.Reach Harmless s)
    (harmless : Harmless s c) : CallSafe s c :=
  (held_taken reach).callSafe harmless

/-- The allocator for the ports 4 and 5, not shuffled. -/
def smallPool : Pool := ⟨turnportsInit 4 5 (fun _ => 0), []⟩

theorem smallPool_harmless : Harmless smallPool (.allocateEven true 0) := by
  refine Or.inr (Or.inl ⟨⟨4, ?_⟩, by decide +kernel⟩)
  unfold LiveAt
  decide +kernel

theorem port_exclusion_smallPool :
    (smallPool.call (.allocateEven true 0)).2 = [4, 5] ∧ CallSafe smallPool (.allocateEven true 0) :=
  ⟨by decide +kernel, port_exclusion (.start ⟨4, 5, fun _ => 0, by decide, rfl⟩) smallPool_harmless⟩

/-- The allocator for the ports 65532 to 65535 with 65533 and 65534 exchanged. -/
def lastPool : Pool := ⟨turnportsInit 65532 65535 (fun i => if i = 0 then 1 else if i = 1 then 2 else 0), []⟩

/-- After two pairs every port is held; a third call fails and frees port 65535. -/
theorem exhausted_pool_frees_held_port :
    ¬ ∀ (s : Pool) (c : Call), machine.Reach (fun _ _ => True) s → s.allows c → CallSafe s c := by
  intro claimed
  obtain ⟨s, reach, fails⟩ : ∃ s, machine.Reach (fun _ _ => True) s ∧
      (decide ((0xFFFF : UInt16) ∈ s.held) && isTaken (s.tp.status 0xFFFF) &&
        (s.call (.allocateEven true 0)).2.isEmpty &&
        !isTaken ((s.call (.allocateEven true 0)).1.tp.status 0xFFFF)) = true :=
    Machine.Reach.exists_of_replay lastPool [.allocateEven true 0, .allocateEven true 0]
      ⟨65532, 65535, _, by decide, rfl⟩ (by decide +kernel)
  simp only [Bool.and_eq_true, List.isEmpty_iff, Bool.not_eq_true'] at fails
  obtain ⟨⟨⟨_, taken⟩, nothing⟩, freed⟩ := fails
  have kept := (claimed s (.allocateEven true 0) reach trivial).2 0xFFFF
    (by rw [nothing]; exact List.not_mem_nil) (by simp)
  rw [freed, taken] at kept
  cases kept

end Ports
end TurnCluster
