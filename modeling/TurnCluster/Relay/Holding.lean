import TurnCluster.Relay.Ports

namespace TurnCluster
namespace Ports

/-- A ring position that the next allocations can still use. -/
def LiveAt (tp : Turnports) (q : UInt32) : Prop :=
  tp.low ≤ q ∧ q < tp.high ∧ isTaken (tp.status (tp.ports q.toUInt16)) = false ∧
    tp.status (tp.ports q.toUInt16) = q

def HasLive (tp : Turnports) : Prop := ∃ q, LiveAt tp q

def InRange (tp : Turnports) (port : UInt16) : Prop := tp.rangeStart ≤ port ∧ port ≤ tp.rangeStop

/-- The part of the ring in use holds ports of the range. -/
def RingInRange (tp : Turnports) : Prop :=
  ∀ q : UInt32, tp.low ≤ q → q < tp.high → InRange tp (tp.ports q.toUInt16)

/-- The same range, and no port changed between taken and free except those listed. -/
def TakenKept (tp tp' : Turnports) (except : List UInt16) : Prop :=
  ∀ port, port ∉ except → isTaken (tp'.status port) = isTaken (tp.status port)

theorem TakenKept.refl (tp : Turnports) (except : List UInt16) : TakenKept tp tp except :=
  fun _ _ => rfl

theorem TakenKept.trans {a b c : Turnports} {except : List UInt16} (ab : TakenKept a b [])
    (bc : TakenKept b c except) : TakenKept a c except := by
  intro port outside
  rw [bc port outside, ab port List.not_mem_nil]

theorem isTaken_of_lt {status : UInt32} (unreserved : status < tpsTakenOdd) : isTaken status = false := by
  have below := UInt32.lt_iff_toNat_lt.mp unreserved
  unfold isTaken
  simp only [Bool.or_eq_false_iff, beq_eq_false_iff_ne]
  refine ⟨⟨?_, ?_⟩, ?_⟩ <;> rintro rfl <;> revert below <;> decide

variable {tp tp' : Turnports} {low q high : UInt32} {port : UInt16} {result : Option UInt16}

theorem low_add_one_toNat (below : low < high) : (low + 1).toNat = low.toNat + 1 := by
  have order := UInt32.lt_iff_toNat_lt.mp below
  have bound := high.toNat_lt
  rw [UInt32.toNat_add, UInt32.toNat_one, Nat.mod_eq_of_lt]
  omega

/-- What an allocation leaves behind: a moved `low`, and at most one port more that is taken. -/
structure Allocated (tp tp' : Turnports) (result : Option UInt16) : Prop where
  high : tp'.high = tp.high
  ports : tp'.ports = tp.ports
  rangeStart : tp'.rangeStart = tp.rangeStart
  rangeStop : tp'.rangeStop = tp.rangeStop
  low : tp.low ≤ tp'.low
  fresh : ∀ port, result = some port → InRange tp port ∧ isTaken (tp.status port) = false ∧
    tp'.status = Function.update tp.status port tpsTakenSingle ∧ tp'.low ≤ tp'.high ∧ HasLive tp
  failed : result = none → tp'.status = tp.status ∧ (RingInRange tp → ¬ HasLive tp)

theorem LiveAt.advance (live : LiveAt tp q) (skipped : q ≠ tp.low) (below : tp.low < tp.high) :
    LiveAt { tp with low := tp.low + 1 } q := by
  obtain ⟨above, inside, free, same⟩ := live
  refine ⟨?_, inside, free, same⟩
  have next := low_add_one_toNat below
  have above := UInt32.le_iff_toNat_le.mp above
  have different : q.toNat ≠ tp.low.toNat := fun equal => skipped (UInt32.toNat_inj.mp equal)
  rw [UInt32.le_iff_toNat_le]
  show (tp.low + 1).toNat ≤ q.toNat
  omega

theorem LiveAt.of_later (live : LiveAt tp' q) (status : tp'.status = tp.status) (ports : tp'.ports = tp.ports)
    (high : tp'.high = tp.high) (low : tp.low ≤ tp'.low) : LiveAt tp q := by
  obtain ⟨above, inside, free, same⟩ := live
  rw [status, ports] at free same
  exact ⟨UInt32.le_trans low above, high ▸ inside, free, same⟩

theorem low_le_add_one (below : low < high) : low ≤ low + 1 := by
  rw [UInt32.le_iff_toNat_le, low_add_one_toNat below]
  exact Nat.le_succ _

theorem RingInRange.advance (ring : RingInRange tp) (below : tp.low < tp.high) :
    RingInRange { tp with low := tp.low + 1 } := by
  intro q above inside
  exact ring q (UInt32.le_trans (low_le_add_one below) above) inside

theorem Allocated.skip (below : tp.low < tp.high) (dead : ¬ LiveAt tp tp.low)
    (rest : Allocated { tp with low := tp.low + 1 } tp' result) :
    Allocated tp tp' result where
  high := rest.high
  ports := rest.ports
  rangeStart := rest.rangeStart
  rangeStop := rest.rangeStop
  low := UInt32.le_trans (low_le_add_one below) rest.low
  fresh := by
    intro port same
    obtain ⟨range, free, status, order, q, live⟩ := rest.fresh port same
    exact ⟨range, free, status, order, q, live.of_later rfl rfl rfl (low_le_add_one below)⟩
  failed := by
    intro none
    obtain ⟨status, noLive⟩ := rest.failed none
    refine ⟨status, ?_⟩
    rintro ring ⟨q, live⟩
    by_cases here : q = tp.low
    · exact dead (here ▸ live)
    · exact noLive (ring.advance below) ⟨q, live.advance here below⟩

theorem Allocated.refused (noLive : RingInRange tp → ¬ HasLive tp) :
    Allocated tp tp none where
  high := rfl
  ports := rfl
  rangeStart := rfl
  rangeStop := rfl
  low := UInt32.le_refl _
  fresh := by
    intro port same
    cases same
  failed := fun _ => ⟨rfl, noLive⟩

/-- A relation holds of every run of the loop if it holds where the loop stops and a skipped position keeps it. -/
theorem allocateLoop_rule {R : Turnports → Turnports → Option UInt16 → Prop}
    (empty : ∀ tp, tp.high ≤ tp.low → R tp tp none)
    (astray : ∀ tp, tp.low < tp.high → ¬ InRange tp (tp.ports tp.low.toUInt16) → R tp tp none)
    (skip : ∀ {tp tp' result}, tp.low < tp.high → ¬ LiveAt tp tp.low → R { tp with low := tp.low + 1 } tp' result →
      R tp tp' result)
    (takes : ∀ tp, tp.low < tp.high → InRange tp (tp.ports tp.low.toUInt16) → LiveAt tp tp.low →
      R tp { tp with
        status := Function.update tp.status (tp.ports tp.low.toUInt16) tpsTakenSingle, low := tp.low + 1 }
        (some (tp.ports tp.low.toUInt16)))
    (fuel : Nat) (tp : Turnports) (enough : tp.high.toNat - tp.low.toNat < fuel) :
    R tp (allocateLoop fuel tp).2 (allocateLoop fuel tp).1 := by
  induction fuel generalizing tp with
  | zero => omega
  | succ fuel ih =>
    unfold allocateLoop
    dsimp only
    by_cases isEmpty : tp.high ≤ tp.low
    · rw [if_pos isEmpty]
      exact empty tp isEmpty
    · have below : tp.low < tp.high := UInt32.not_le.mp isEmpty
      have advanced : tp.high.toNat - (tp.low + 1).toNat < fuel := by
        have order := UInt32.lt_iff_toNat_lt.mp below
        rw [low_add_one_toNat below]
        omega
      rw [if_neg isEmpty]
      by_cases outside : tp.ports tp.low.toUInt16 < tp.rangeStart ∨ tp.rangeStop < tp.ports tp.low.toUInt16
      · rw [if_pos outside]
        refine astray tp below ?_
        rintro ⟨start, stop⟩
        rcases outside with outside | outside
        · exact absurd outside (UInt16.not_lt.mpr start)
        · exact absurd outside (UInt16.not_lt.mpr stop)
      · rw [if_neg outside]
        by_cases taken : isTaken (tp.status (tp.ports tp.low.toUInt16)) = true
        · rw [if_pos taken]
          refine skip below ?_ (ih _ advanced)
          rintro ⟨_, _, free, _⟩
          rw [taken] at free
          cases free
        · rw [if_neg taken]
          by_cases stale : tp.status (tp.ports tp.low.toUInt16) ≠ tp.low
          · rw [if_pos stale]
            refine skip below ?_ (ih _ advanced)
            rintro ⟨_, _, _, same⟩
            exact stale same
          · rw [if_neg stale]
            rw [not_or, UInt16.not_lt, UInt16.not_lt] at outside
            exact takes tp below outside ⟨UInt32.le_refl _, below, Bool.eq_false_iff.mpr taken, not_not.mp stale⟩

theorem Allocated.of_low (below : tp.low < tp.high) (range : InRange tp (tp.ports tp.low.toUInt16))
    (live : LiveAt tp tp.low) :
    Allocated tp { tp with
      status := Function.update tp.status (tp.ports tp.low.toUInt16) tpsTakenSingle, low := tp.low + 1 }
      (some (tp.ports tp.low.toUInt16)) := by
  refine ⟨rfl, rfl, rfl, rfl, low_le_add_one below, ?_, fun same => nomatch same⟩
  intro port same
  cases Option.some.inj same
  refine ⟨range, live.2.2.1, rfl, ?_, tp.low, live⟩
  have order := UInt32.lt_iff_toNat_lt.mp below
  rw [UInt32.le_iff_toNat_le]
  show (tp.low + 1).toNat ≤ tp.high.toNat
  rw [low_add_one_toNat below]
  omega

theorem allocateLoop_allocated (fuel : Nat) (tp : Turnports)
    (enough : tp.high.toNat - tp.low.toNat < fuel) :
    Allocated tp (allocateLoop fuel tp).2 (allocateLoop fuel tp).1 := by
  refine allocateLoop_rule ?_ ?_ Allocated.skip (fun _ => .of_low) fuel tp enough
  · intro tp empty
    refine .refused ?_
    rintro _ ⟨q, above, inside, _⟩
    exact absurd inside (UInt32.not_lt.mpr (UInt32.le_trans empty above))
  · intro tp below astray
    exact .refused fun ring => absurd (ring tp.low (UInt32.le_refl _) below) astray

theorem turnportsAllocate_allocated (tp : Turnports) :
    Allocated tp (turnportsAllocate tp).2 (turnportsAllocate tp).1 :=
  allocateLoop_allocated _ tp (Nat.lt_succ_self _)

theorem Allocated.keeps_ring (allocated : Allocated tp tp' result) (ring : RingInRange tp) : RingInRange tp' := by
  intro q above inside
  rw [allocated.high] at inside
  have range := ring q (UInt32.le_trans allocated.low above) inside
  unfold InRange at range ⊢
  rw [allocated.ports, allocated.rangeStart, allocated.rangeStop]
  exact range

theorem turnportsRelease_taken (range : InRange tp port) (taken : isTaken (tp.status port) = true) :
    turnportsRelease tp port =
      { tp with status := Function.update tp.status port tp.high
                ports := Function.update tp.ports tp.high.toUInt16 port
                high := tp.high + 1 } := by
  unfold turnportsRelease
  rw [if_pos ⟨range.1, range.2, taken⟩]

theorem lt_of_lt_add_one (below : q < high + 1) (different : q ≠ high) : q < high := by
  rw [UInt32.lt_iff_toNat_lt, UInt32.toNat_add, UInt32.toNat_one] at below
  have different : q.toNat ≠ high.toNat := fun same => different (UInt32.toNat_inj.mp same)
  have bound := high.toNat_lt
  rw [UInt32.lt_iff_toNat_lt]
  omega

theorem RingInRange.release (ring : RingInRange tp) (range : InRange tp port)
    (taken : isTaken (tp.status port) = true) : RingInRange (turnportsRelease tp port) := by
  rw [turnportsRelease_taken range taken]
  intro q low inside
  unfold InRange
  dsimp only
  by_cases here : q.toUInt16 = tp.high.toUInt16
  · rw [here, Function.update_self]
    exact range
  · rw [Function.update_of_ne here]
    exact ring q low (lt_of_lt_add_one inside (fun same => here (same ▸ rfl)))

theorem Allocated.taken (allocated : Allocated tp tp' (some port)) : isTaken (tp'.status port) = true := by
  obtain ⟨_, _, status, _⟩ := allocated.fresh port rfl
  rw [status, Function.update_self]
  decide

theorem Allocated.inRange (allocated : Allocated tp tp' (some port)) : InRange tp' port := by
  obtain ⟨range, _⟩ := allocated.fresh port rfl
  unfold InRange
  rw [allocated.rangeStart, allocated.rangeStop]
  exact range

/-- Taking a port and giving it back while `high` is no marker. -/
structure Bounced (tp tp' : Turnports) : Prop where
  high : tp'.high.toNat = tp.high.toNat + 1
  rangeStart : tp'.rangeStart = tp.rangeStart
  rangeStop : tp'.rangeStop = tp.rangeStop
  kept : TakenKept tp tp' []
  live : HasLive tp'
  ring : RingInRange tp → RingInRange tp'

theorem Allocated.bounce (allocated : Allocated tp tp' (some port)) (unreserved : tp.high < tpsTakenOdd) :
    Bounced tp (turnportsRelease tp' port) := by
  obtain ⟨_, free, status, order, _⟩ := allocated.fresh port rfl
  have room : (tp.high + 1).toNat = tp.high.toNat + 1 := low_add_one_toNat unreserved
  have above : tp'.high < tp'.high + 1 := by
    rw [UInt32.lt_iff_toNat_lt, allocated.high, room]
    exact Nat.lt_succ_self _
  have ring : RingInRange tp → RingInRange (turnportsRelease tp' port) :=
    fun ring => (allocated.keeps_ring ring).release allocated.inRange allocated.taken
  rw [turnportsRelease_taken allocated.inRange allocated.taken] at ring ⊢
  refine ⟨?_, allocated.rangeStart, allocated.rangeStop, ?_, ?_, ring⟩
  · show (tp'.high + 1).toNat = _
    rw [allocated.high, room]
  · intro other _
    show isTaken (Function.update tp'.status port tp'.high other) = _
    by_cases here : other = port
    · rw [here, Function.update_self, free, allocated.high, isTaken_of_lt unreserved]
    · rw [Function.update_of_ne here, status, Function.update_of_ne here]
  · refine ⟨tp'.high, order, above, ?_, ?_⟩
    · simp [allocated.high, isTaken_of_lt unreserved]
    · simp

/-- The ports a call of `turnports_allocate_even` hands out. -/
def evenPorts (allocateRtcp : Bool) : Option EvenPort → List UInt16
  | none => []
  | some even => if allocateRtcp then [even.port, even.port + 1] else [even.port]

/-- What a call may do: take the ports it hands out, which were free, and nothing else. -/
structure HandedOut (tp tp' : Turnports) (ports : List UInt16) : Prop where
  rangeStart : tp'.rangeStart = tp.rangeStart
  rangeStop : tp'.rangeStop = tp.rangeStop
  ring : RingInRange tp'
  kept : TakenKept tp tp' ports
  fresh : ∀ port ∈ ports, InRange tp port ∧ isTaken (tp.status port) = false ∧
    isTaken (tp'.status port) = true

/-- The port 0xFFFF lies in the range and is taken. -/
def LastPortTaken (tp : Turnports) : Prop :=
  tp.rangeStop = 0xFFFF ∧ isTaken (tp.status 0xFFFF) = true

/-- Rounds of `turnports_allocate_even` from here on do no harm: there is a port
to find and the counter stays below the markers, or there is none and the failed
allocation is given back in vain. -/
def RoundsHarmless (tp : Turnports) (rounds : Nat) : Prop :=
  (HasLive tp ∧ tp.high.toNat + rounds ≤ tpsTakenOdd.toNat) ∨ (¬ HasLive tp ∧ ¬ LastPortTaken tp)

theorem release_lastPort_of_not_taken (untouched : ¬ LastPortTaken tp) : turnportsRelease tp 0xFFFF = tp := by
  unfold turnportsRelease
  rw [if_neg]
  rintro ⟨_, stop, taken⟩
  refine untouched ⟨?_, taken⟩
  have bound := tp.rangeStop.toNat_lt
  have stop := UInt16.le_iff_toNat_le.mp stop
  apply UInt16.toNat_inj.mp
  change 65535 ≤ tp.rangeStop.toNat at stop
  show tp.rangeStop.toNat = 65535
  omega

theorem HandedOut.nothing (ring : RingInRange tp) : HandedOut tp tp [] where
  rangeStart := rfl
  rangeStop := rfl
  ring := ring
  kept := .refl tp []
  fresh := by
    intro port member
    cases member

/-- What was handed out from `mid` was handed out from `tp`, if the two agree on what is taken. -/
theorem HandedOut.of_kept {mid : Turnports} {ports : List UInt16} (kept : TakenKept tp mid [])
    (start : mid.rangeStart = tp.rangeStart) (stop : mid.rangeStop = tp.rangeStop) (rest : HandedOut mid tp' ports) :
    HandedOut tp tp' ports where
  rangeStart := rest.rangeStart.trans start
  rangeStop := rest.rangeStop.trans stop
  ring := rest.ring
  kept := kept.trans rest.kept
  fresh := by
    intro port member
    obtain ⟨range, free, taken⟩ := rest.fresh port member
    unfold InRange at range ⊢
    rw [start, stop] at range
    exact ⟨range, kept port List.not_mem_nil ▸ free, taken⟩

theorem Allocated.handedOut (ring : RingInRange tp) (allocated : Allocated tp tp' (some port)) :
    HandedOut tp tp' [port] where
  rangeStart := allocated.rangeStart
  rangeStop := allocated.rangeStop
  ring := allocated.keeps_ring ring
  kept := by
    intro other outside
    rw [(allocated.fresh port rfl).2.2.1, Function.update_of_ne (List.ne_of_not_mem_cons outside)]
  fresh := by
    intro other member
    obtain ⟨range, free, _⟩ := allocated.fresh port rfl
    cases List.mem_singleton.mp member
    exact ⟨range, free, allocated.taken⟩

theorem port_add_one_toNat {stop : UInt16} (below : ¬ stop.toNat < port.toNat + 1) :
    (port + 1).toNat = port.toNat + 1 := by
  have bound := stop.toNat_lt
  rw [UInt16.toNat_add, UInt16.toNat_one, Nat.mod_eq_of_lt]
  omega

theorem Allocated.handedOut_pair (ring : RingInRange tp) (allocated : Allocated tp tp' (some port))
    (below : ¬ tp'.rangeStop.toNat < port.toNat + 1) (available : turnportsIsAvailable tp' (port + 1) = true) :
    HandedOut tp { tp' with status := Function.update (Function.update tp'.status port tpsTakenEven)
                              (port + 1) tpsTakenOdd } [port, port + 1] := by
  have next := port_add_one_toNat below
  obtain ⟨range, free, status, _⟩ := allocated.fresh port rfl
  have different : port + 1 ≠ port := by
    intro same
    rw [same] at next
    omega
  have oddFree : isTaken (tp.status (port + 1)) = false := by
    unfold turnportsIsAvailable at available
    simp only [Bool.and_eq_true, Bool.not_eq_true'] at available
    have free := available.1.2
    rw [status, Function.update_of_ne different] at free
    exact free
  refine ⟨allocated.rangeStart, allocated.rangeStop, allocated.keeps_ring ring, ?_, ?_⟩
  · intro other outside
    have notEven : other ≠ port := fun same => outside (same ▸ .head _)
    have notOdd : other ≠ port + 1 := fun same => outside (same ▸ .tail _ (.head _))
    show isTaken (Function.update (Function.update tp'.status port tpsTakenEven) (port + 1)
      tpsTakenOdd other) = _
    rw [Function.update_of_ne notOdd, Function.update_of_ne notEven, status,
      Function.update_of_ne notEven]
  · intro other member
    simp only [List.mem_cons, List.not_mem_nil, or_false] at member
    rcases member with rfl | rfl
    · refine ⟨range, free, ?_⟩
      show isTaken (Function.update (Function.update tp'.status other tpsTakenEven) (other + 1)
        tpsTakenOdd other) = true
      rw [Function.update_of_ne different.symm, Function.update_self]
      decide
    · refine ⟨?_, oddFree, ?_⟩
      · obtain ⟨start, _⟩ := range
        unfold InRange
        rw [UInt16.le_iff_toNat_le] at start ⊢
        rw [UInt16.le_iff_toNat_le, ← allocated.rangeStop, next]
        omega
      · show isTaken (Function.update (Function.update tp'.status port tpsTakenEven) (port + 1)
          tpsTakenOdd (port + 1)) = true
        rw [Function.update_self]
        decide

theorem evenLoop_handedOut (allocateRtcp : Bool) (random : UInt32) (rounds : Nat) (tp : Turnports)
    (ring : RingInRange tp) (harmless : RoundsHarmless tp rounds) :
    HandedOut tp (evenLoop allocateRtcp random rounds tp).2
      (evenPorts allocateRtcp (evenLoop allocateRtcp random rounds tp).1) := by
  induction rounds generalizing tp with
  | zero => exact .nothing ring
  | succ rounds ih =>
    have allocated := turnportsAllocate_allocated tp
    unfold evenLoop
    generalize turnportsAllocate tp = step at allocated
    obtain ⟨result, tp'⟩ := step
    cases result with
    | none =>
      obtain ⟨status, noLive⟩ := allocated.failed rfl
      have dead := noLive ring
      have untouched : ¬ LastPortTaken tp' := by
        rcases harmless with ⟨live, _⟩ | ⟨_, untouched⟩
        · exact absurd live dead
        · unfold LastPortTaken at untouched ⊢
          rw [status, allocated.rangeStop]
          exact untouched
      have stillDead : ¬ HasLive tp' := by
        rintro ⟨q, live⟩
        exact dead ⟨q, live.of_later status allocated.ports allocated.high allocated.low⟩
      dsimp only
      rw [release_lastPort_of_not_taken untouched]
      have kept : TakenKept tp tp' [] := fun port _ => by rw [status]
      exact .of_kept kept allocated.rangeStart allocated.rangeStop
        (ih tp' (allocated.keeps_ring ring) (.inr ⟨stillDead, untouched⟩))
    | some port =>
      obtain ⟨_, _, _, _, live⟩ := allocated.fresh port rfl
      have bound : tp.high.toNat + (rounds + 1) ≤ tpsTakenOdd.toNat := by
        rcases harmless with ⟨_, bound⟩ | ⟨dead, _⟩
        · exact bound
        · exact absurd live dead
      have bounced := allocated.bounce (UInt32.lt_iff_toNat_lt.mpr (by omega))
      have again := HandedOut.of_kept bounced.kept bounced.rangeStart bounced.rangeStop
        (ih _ (bounced.ring ring) (.inl ⟨bounced.live, by rw [bounced.high]; omega⟩))
      dsimp only
      split
      · exact again
      · split
        · rename_i single
          rw [single]
          exact allocated.handedOut ring
        · rename_i pair
          split
          · exact again
          · rename_i below
            split
            · exact again
            · rename_i available
              rw [Bool.not_eq_false] at pair available
              rw [pair]
              exact allocated.handedOut_pair ring below available

end Ports
end TurnCluster
