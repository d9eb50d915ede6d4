import TurnCluster.Relay.Ring

namespace TurnCluster
namespace Ports

/-- How a round of `turnports_allocate_even` ends. -/
inductive EvenRound where
  | found (even : EvenPort) (tp : Turnports)
  | again (tp : Turnports)

def EvenRound.tp : EvenRound → Turnports
  | .found _ tp => tp
  | .again tp => tp

def evenRound (allocateRtcp : Bool) (random : UInt32) (tp : Turnports) : EvenRound :=
  match turnportsAllocate tp with
  | (none, tp) => .again (turnportsRelease tp 0xFFFF)
  | (some port, tp) =>
    if port.toNat % 2 = 1 then .again (turnportsRelease tp port)
    else if allocateRtcp = false then .found ⟨port, none⟩ tp
    else if tp.rangeStop.toNat < port.toNat + 1 then .again (turnportsRelease tp port)
    else if turnportsIsAvailable tp (port + 1) = false then .again (turnportsRelease tp port)
    else
      let tp' := { tp with status := Function.update (Function.update tp.status port tpsTakenEven)
                              (port + 1) tpsTakenOdd }
      .found ⟨port, some (reservationToken tp' random)⟩ tp'

variable {start stop : UInt16} (allocateRtcp : Bool) {x y : UInt16} (random : UInt32) {port : UInt16}

theorem evenLoop_succ (rounds : Nat) (tp : Turnports) :
    evenLoop allocateRtcp random (rounds + 1) tp =
      match evenRound allocateRtcp random tp with
      | .found even tp' => (some even, tp')
      | .again tp' => evenLoop allocateRtcp random rounds tp' := by
  unfold evenRound
  rw [evenLoop]
  generalize turnportsAllocate tp = step
  obtain ⟨result, tp'⟩ := step
  cases result with
  | none => rfl
  | some port =>
    dsimp only
    split
    · rfl
    · split
      · rfl
      · split
        · rfl
        · split <;> rfl

/-- What a round does with the ring. -/
inductive RoundOf (allocateRtcp : Bool) (tp : Turnports) : EvenRound → Prop
  | failed {tp' : Turnports} : Allocated tp tp' none → Advanced tp tp' none →
      RoundOf allocateRtcp tp (.again (turnportsRelease tp' 0xFFFF))
  | returned {tp' : Turnports} {port : UInt16} : Allocated tp tp' (some port) → Advanced tp tp' (some port) →
      (port.toNat % 2 = 0 → tp'.rangeStop.toNat < port.toNat + 1 ∨ turnportsIsAvailable tp' (port + 1) = false) →
      RoundOf allocateRtcp tp (.again (turnportsRelease tp' port))
  | single {tp' : Turnports} {port : UInt16} {even : EvenPort} : Allocated tp tp' (some port) →
      Advanced tp tp' (some port) → RoundOf allocateRtcp tp (.found even tp')
  | pair {tp' : Turnports} {port : UInt16} {even : EvenPort} : Allocated tp tp' (some port) →
      Advanced tp tp' (some port) → port.toNat % 2 = 0 → ¬ tp'.rangeStop.toNat < port.toNat + 1 →
      RoundOf allocateRtcp tp (.found even
        { tp' with
          status := Function.update (Function.update tp'.status port tpsTakenEven) (port + 1) tpsTakenOdd })

theorem evenRound_roundOf (tp : Turnports) : RoundOf allocateRtcp tp (evenRound allocateRtcp random tp) := by
  have allocated := turnportsAllocate_allocated tp
  have advanced := turnportsAllocate_advanced tp
  unfold evenRound
  generalize turnportsAllocate tp = step at allocated advanced
  obtain ⟨result, tp'⟩ := step
  cases result with
  | none => exact .failed allocated advanced
  | some port =>
    dsimp only
    split
    · rename_i odd
      exact .returned allocated advanced (fun even => by omega)
    · rename_i even
      split
      · exact .single allocated advanced
      · split
        · rename_i last
          exact .returned allocated advanced (fun _ => Or.inl last)
        · rename_i inside
          split
          · rename_i unavailable
            exact .returned allocated advanced (fun _ => Or.inr unavailable)
          · exact .pair allocated advanced (by omega) inside

theorem Room.of_allocated {tp tp' : Turnports} {result : Option UInt16} (room : Room tp)
    (allocated : Allocated tp tp' result) : Room tp' := by
  have low := UInt32.le_iff_toNat_le.mp allocated.low
  have window := room.window
  refine ⟨by rw [allocated.high]; exact room.unreserved, ?_⟩
  rw [allocated.high]
  omega

theorem Orderly.allocate {tp : Turnports} (orderly : Orderly start stop tp) :
    Orderly start stop (turnportsAllocate tp).2 :=
  orderly.of_allocated (turnportsAllocate_allocated tp) (turnportsAllocate_advanced tp)

theorem Orderly.round {tp : Turnports} {allocateRtcp : Bool} {round : EvenRound} (orderly : Orderly start stop tp)
    (room : Room tp) (roundOf : RoundOf allocateRtcp tp round) : Orderly start stop round.tp := by
  cases roundOf with
  | failed allocated advanced =>
    exact (orderly.of_allocated allocated advanced).release (room.of_allocated allocated) _
  | returned allocated advanced _ =>
    exact (orderly.of_allocated allocated advanced).release (room.of_allocated allocated) _
  | single allocated advanced => exact orderly.of_allocated allocated advanced
  | @pair tp' port _ allocated advanced even inside =>
    have after := orderly.of_allocated allocated advanced
    obtain ⟨range, _⟩ := allocated.fresh port rfl
    have isMate : Mate start stop port (port + 1) := by
      have next := port_add_one_toNat inside
      obtain ⟨above, _⟩ := range
      rw [orderly.rangeStart] at above
      refine ⟨even, next, above, ?_⟩
      rw [UInt16.le_iff_toNat_le, next, ← after.rangeStop]
      omega
    exact ⟨after.rangeStart, after.rangeStop, after.ring,
      orderly.paired.popMate (ring_pop allocated advanced) (ring_void allocated.taken) isMate (fun other => isMate.unique other)⟩

/-- The states between the allocations and releases of `turnports_allocate_even`. -/
def evenStates (allocateRtcp : Bool) (random : UInt32) : Nat → Turnports → List Turnports
  | 0, tp => [tp]
  | rounds + 1, tp =>
    tp :: (turnportsAllocate tp).2 ::
      match evenRound allocateRtcp random tp with
      | .found _ tp' => [tp']
      | .again tp' => evenStates allocateRtcp random rounds tp'

/-- The states a call goes through. -/
def Turnports.during (tp : Turnports) : Call → List Turnports
  | .allocate => [tp, (turnportsAllocate tp).2]
  | .allocateEven allocateRtcp random =>
    if 1 < turnportsSize tp then evenStates allocateRtcp random (turnportsSize tp).toNat tp else [tp]
  | .release port => [tp, turnportsRelease tp port]

theorem Orderly.evenLoop (rounds : Nat) {tp : Turnports} (orderly : Orderly start stop tp)
    (rooms : ∀ t ∈ evenStates allocateRtcp random rounds tp, Orderly start stop t → Room t) :
    Orderly start stop (evenLoop allocateRtcp random rounds tp).2 ∧
      ∀ t ∈ evenStates allocateRtcp random rounds tp, Orderly start stop t := by
  induction rounds generalizing tp with
  | zero => exact ⟨orderly, fun t member => List.mem_singleton.mp member ▸ orderly⟩
  | succ rounds ih =>
    have room := rooms tp (.head _) orderly
    have between := orderly.allocate
    have after := orderly.round room (evenRound_roundOf allocateRtcp random tp)
    rw [evenLoop_succ]
    rw [evenStates] at rooms ⊢
    cases same : evenRound allocateRtcp random tp with
    | found even tp' =>
      rw [same] at after
      refine ⟨after, ?_⟩
      simp only [List.forall_mem_cons, List.not_mem_nil, false_implies, implies_true, and_true]
      exact ⟨orderly, between, after⟩
    | again tp' =>
      rw [same] at after rooms
      obtain ⟨final, states⟩ := ih after (fun t member => rooms t (.tail _ (.tail _ member)))
      refine ⟨final, ?_⟩
      simp only [List.forall_mem_cons]
      exact ⟨orderly, between, states⟩

theorem Orderly.call {start stop : UInt16} {s : Pool} {c : Call} (orderly : Orderly start stop s.tp)
    (rooms : ∀ t ∈ s.tp.during c, Orderly start stop t → Room t) :
    Orderly start stop (s.call c).1.tp ∧ ∀ t ∈ s.tp.during c, Orderly start stop t := by
  cases c with
  | allocate =>
    refine ⟨orderly.allocate, ?_⟩
    intro t member
    rcases List.mem_cons.mp member with rfl | last
    · exact orderly
    · exact List.mem_singleton.mp last ▸ orderly.allocate
  | allocateEven allocateRtcp random =>
    show Orderly start stop (turnportsAllocateEven s.tp allocateRtcp random).2 ∧ _
    unfold turnportsAllocateEven
    unfold Turnports.during at rooms ⊢
    dsimp only at rooms ⊢
    split
    · rename_i large
      rw [if_pos large] at rooms
      exact orderly.evenLoop allocateRtcp random _ rooms
    · exact ⟨orderly, fun t member => List.mem_singleton.mp member ▸ orderly⟩
  | release port =>
    have after := orderly.release (rooms s.tp (.head _) orderly) port
    refine ⟨after, ?_⟩
    intro t member
    rcases List.mem_cons.mp member with rfl | last
    · exact orderly
    · exact List.mem_singleton.mp last ▸ after

theorem turnportsRelease_low (tp : Turnports) (port : UInt16) : (turnportsRelease tp port).low = tp.low := by
  unfold turnportsRelease
  split <;> rfl

theorem Orderly.available {tp : Turnports} {q : Nat} (orderly : Orderly start stop tp) (room : Room tp)
    (stamp : tp.ring.stamp port = some q) : turnportsIsAvailable tp port = true := by
  obtain ⟨_, free, same⟩ := ring_stamp_some.mp stamp
  obtain ⟨⟨_, below⟩, entry⟩ := orderly.paired.kept.stamped stamp
  rw [← same, ring_entry] at entry
  have known : tp.status port ≠ tpsOutOfRange := by
    intro outOfRange
    have small : tp.high.toNat < tpsTakenOdd.toNat := UInt32.lt_iff_toNat_lt.mp room.unreserved
    have large : tpsTakenOdd.toNat < tpsOutOfRange.toNat := by decide
    change q < tp.high.toNat at below
    rw [← same, outOfRange] at below
    omega
  unfold turnportsIsAvailable
  simp [known, free, entry]

/-- Where the pair `x`, `y` waits: both are free and the entry of `x` is the `s`-th. -/
structure Waiting (tp : Turnports) (x y : UInt16) (s : Nat) : Prop where
  first : tp.ring.stamp x = some s
  second : ∃ q, tp.ring.stamp y = some q

theorem Waiting.round {tp : Turnports} {s : Nat} {round : EvenRound} (waiting : Waiting tp x y s)
    (isMate : Mate start stop x y) (orderly : Orderly start stop tp) (room : Room tp)
    (roundOf : RoundOf true tp round) :
    (∃ even tp', round = .found even tp') ∨
      ∃ tp', round = .again tp' ∧ Waiting tp' x y s ∧ tp.low.toNat < tp'.low.toNat := by
  obtain ⟨q, second⟩ := waiting.second
  cases roundOf with
  | single => exact Or.inl ⟨_, _, rfl⟩
  | pair => exact Or.inl ⟨_, _, rfl⟩
  | @failed tp' allocated advanced =>
    have live := orderly.paired.kept.live waiting.first
    obtain ⟨c, rfl⟩ := exists_toNat_of_lt live.1.2
    exact absurd ⟨c, .of_live live⟩ ((allocated.failed rfl).2 orderly.ring)
  | @returned tp' port allocated advanced refused =>
    have pop := ring_pop allocated advanced
    have after := orderly.of_allocated allocated advanced
    have room' := room.of_allocated allocated
    obtain ⟨even, next, _, last⟩ := isMate
    have different : y ≠ x := by
      rintro rfl
      omega
    have notFirst : port ≠ x := by
      rintro rfl
      have isNext : port + 1 = y := by
        apply UInt16.toNat_inj.mp
        rw [next, UInt16.toNat_add, UInt16.toNat_one, Nat.mod_eq_of_lt]
        have bound := y.toNat_lt
        omega
      have stillSecond : tp'.ring.stamp y = some q := by
        rw [pop.stamps, Function.update_of_ne different]
        exact second
      rcases refused even with atEnd | unavailable
      · rw [after.rangeStop] at atEnd
        have last := UInt16.le_iff_toNat_le.mp last
        omega
      · rw [isNext, after.available room' stillSecond] at unavailable
        cases unavailable
    have put := ring_put room' allocated.inRange allocated.taken
    refine Or.inr ⟨_, rfl, ⟨?_, ?_⟩, ?_⟩
    · rw [put.stamps, Function.update_of_ne notFirst.symm, pop.stamps, Function.update_of_ne notFirst.symm]
      exact waiting.first
    · by_cases isSecond : y = port
      · exact ⟨_, by rw [put.stamps, isSecond, Function.update_self]⟩
      · refine ⟨q, ?_⟩
        rw [put.stamps, Function.update_of_ne isSecond, pop.stamps, Function.update_of_ne isSecond]
        exact second
    · obtain ⟨⟨above, _⟩, _⟩ := orderly.paired.kept.stamped pop.stamp
      have low : tp'.low.toNat = (tp.status port).toNat + 1 := pop.low
      change tp.low.toNat ≤ _ at above
      rw [turnportsRelease_low, low]
      omega

theorem Waiting.found (isMate : Mate start stop x y) (random : UInt32) (rounds : Nat) {tp : Turnports} {s : Nat}
    (waiting : Waiting tp x y s) (orderly : Orderly start stop tp)
    (rooms : ∀ t ∈ evenStates true random rounds tp, Room t) (enough : s < tp.low.toNat + rounds) :
    (evenLoop true random rounds tp).1 ≠ none := by
  induction rounds generalizing tp with
  | zero =>
    have inside := (orderly.paired.kept.stamped waiting.first).1.1
    change tp.low.toNat ≤ s at inside
    omega
  | succ rounds ih =>
    have room := rooms tp (.head _)
    have roundOf := evenRound_roundOf true random tp
    have after := orderly.round room roundOf
    rw [evenLoop_succ]
    rw [evenStates] at rooms
    rcases waiting.round isMate orderly room roundOf with ⟨even, tp', found⟩ | ⟨tp', again, still, nearer⟩
    · rw [found]
      exact Option.some_ne_none even
    · rw [again] at after rooms ⊢
      exact ih still after (fun t member => rooms t (.tail _ (.tail _ member))) (by omega)

/-- A port of the range that can be handed out. -/
def Free (tp : Turnports) (port : UInt16) : Prop :=
  InRange tp port ∧ isTaken (tp.status port) = false ∧ tp.status port ≠ tpsOutOfRange

/-- The counters are far from the markers and the ring is not over-full. -/
def Steady (tp : Turnports) : Prop := tp.high < tpsTakenOdd ∧ (tp.high - tp.low).toNat ≤ 65535

instance (tp : Turnports) : Decidable (Steady tp) := inferInstanceAs (Decidable (_ ∧ _))

def SteadyCall (s : Pool) (c : Call) : Prop := ∀ tp ∈ s.tp.during c, Steady tp

instance (s : Pool) (c : Call) : Decidable (SteadyCall s c) := inferInstanceAs (Decidable (∀ tp ∈ _, _))

/-- Any port may be released, held or not. -/
def openMachine : Machine Pool Call (List UInt16) := { machine with enabled := fun _ _ => True }

instance (s : Pool) (c : Call) : Decidable (openMachine.enabled s c) := .isTrue trivial

theorem window_toNat {tp : Turnports} (orderly : Orderly start stop tp) :
    (tp.high - tp.low).toNat = tp.high.toNat - tp.low.toNat :=
  UInt32.toNat_sub_of_le _ _ orderly.low_le_high

theorem Steady.room {tp : Turnports} (steady : Steady tp) (orderly : Orderly start stop tp) : Room tp := by
  obtain ⟨unreserved, window⟩ := steady
  rw [window_toNat orderly] at window
  exact ⟨unreserved, by omega⟩

theorem orderly_of_reach {s : Pool} (reach : openMachine.Reach SteadyCall s) :
    ∃ start stop, Orderly start stop s.tp := by
  refine Machine.Reach.invariant (P := fun s => ∃ start stop, Orderly start stop s.tp) ?_ ?_ reach
  · rintro _ ⟨start, stop, random, order, rfl⟩
    exact ⟨start, stop, (Matched.init order random).orderly order⟩
  · rintro s s' c ports ⟨start, stop, orderly⟩ _ steady run
    have same : s' = (s.call c).1 := (congrArg Prod.fst (Option.some.inj run)).symm
    rw [same]
    exact ⟨start, stop, (orderly.call (fun t member => (steady t member).room)).1⟩

theorem Free.stamp {tp : Turnports} (free : Free tp port) : tp.ring.stamp port = some (tp.status port).toNat :=
  ring_stamp_some.mpr ⟨free.1, free.2.1, rfl⟩

theorem Orderly.allocate_finds {tp : Turnports} (orderly : Orderly start stop tp)
    (failed : (turnportsAllocate tp).1 = none) (port : UInt16) : ¬ Free tp port := by
  intro free
  have live := orderly.paired.kept.live free.stamp
  exact ((turnportsAllocate_allocated tp).failed failed).2 orderly.ring ⟨tp.status port, .of_live live⟩

theorem Orderly.allocateEven_finds {s : Pool} {random : UInt32} (orderly : Orderly start stop s.tp)
    (steady : SteadyCall s (.allocateEven true random)) (failed : (turnportsAllocateEven s.tp true random).1 = none)
    (even : port.toNat % 2 = 0) (free : Free s.tp port) : ¬ Free s.tp (port + 1) := by
  intro nextFree
  have next : (port + 1).toNat = port.toNat + 1 := by
    have bound := port.toNat_lt
    rw [UInt16.toNat_add, UInt16.toNat_one, Nat.mod_eq_of_lt (by omega)]
  have isMate : Mate start stop port (port + 1) := by
    refine ⟨even, next, ?_, ?_⟩
    · rw [← orderly.rangeStart]
      exact free.1.1
    · rw [← orderly.rangeStop]
      exact nextFree.1.2
  have waiting : Waiting s.tp port (port + 1) (s.tp.status port).toNat := ⟨free.stamp, _, nextFree.stamp⟩
  -- Two free ports have two entries, so the loop is entered with all its rounds.
  obtain ⟨⟨low, high⟩, entry⟩ := orderly.paired.kept.stamped free.stamp
  obtain ⟨⟨low', high'⟩, entry'⟩ := orderly.paired.kept.stamped nextFree.stamp
  have apart : (s.tp.status port).toNat ≠ (s.tp.status (port + 1)).toNat := by
    intro same
    rw [same, entry'] at entry
    rw [entry] at next
    omega
  change s.tp.low.toNat ≤ _ at low low'
  change _ < s.tp.high.toNat at high high'
  unfold turnportsAllocateEven at failed
  have steady := steady
  unfold SteadyCall Turnports.during at steady
  dsimp only at steady
  have here : Steady s.tp := by
    refine steady s.tp ?_
    split
    · unfold evenStates
      split <;> exact .head _
    · exact .head _
  have size : (turnportsSize s.tp).toNat = s.tp.high.toNat - s.tp.low.toNat := by
    have window := here.2
    unfold turnportsSize
    rw [UInt32.toNat_toUInt16, window_toNat orderly] at *
    omega
  have large : 1 < turnportsSize s.tp := by
    rw [UInt16.lt_iff_toNat_lt, size]
    show 1 < _
    omega
  rw [if_pos large] at failed steady
  have rooms : ∀ t ∈ evenStates true random (turnportsSize s.tp).toNat s.tp, Room t := by
    have states := (orderly.evenLoop true random _ (fun t member => (steady t member).room)).2
    exact fun t member => (steady t member).room (states t member)
  exact waiting.found isMate random _ orderly rooms (by omega) failed

/-- In every history of calls between which `high` stays below the markers and the ring no longer
than 65535, an allocation fails only if no port is free, and an allocation of a pair only if no pair is. -/
theorem free_ports_found {s : Pool} (reach : openMachine.Reach SteadyCall s) :
    (SteadyCall s .allocate → (turnportsAllocate s.tp).1 = none → ∀ port, ¬ Free s.tp port) ∧
      ∀ random, SteadyCall s (.allocateEven true random) → (turnportsAllocateEven s.tp true random).1 = none →
        ∀ port, port.toNat % 2 = 0 → Free s.tp port → ¬ Free s.tp (port + 1) := by
  obtain ⟨start, stop, orderly⟩ := orderly_of_reach reach
  refine ⟨fun _ failed => orderly.allocate_finds failed, ?_⟩
  intro random steady failed port even free
  exact orderly.allocateEven_finds steady failed even free

/-- Port 4 of the two is taken: no pair is found, and port 5 alone is none. -/
theorem free_ports_found_halved : ∃ s, openMachine.Reach SteadyCall s ∧ isTaken (s.tp.status 5) = false ∧
    (turnportsAllocateEven s.tp true 0).1 = none ∧
      ∀ port, port.toNat % 2 = 0 → Free s.tp port → ¬ Free s.tp (port + 1) := by
  obtain ⟨s, reach, passed⟩ : ∃ s, openMachine.Reach SteadyCall s ∧
      (decide (SteadyCall s (.allocateEven true 0)) && (turnportsAllocateEven s.tp true 0).1.isNone &&
        !isTaken (s.tp.status 5)) = true :=
    Machine.Reach.exists_of_replay smallPool [.allocate] ⟨4, 5, _, by decide, rfl⟩ (by decide +kernel)
  simp only [Bool.and_eq_true, decide_eq_true_eq, Option.isNone_iff_eq_none, Bool.not_eq_true'] at passed
  obtain ⟨⟨steady, failed⟩, free⟩ := passed
  exact ⟨s, reach, free, failed, (free_ports_found reach).2 0 steady failed⟩

end Ports
end TurnCluster
