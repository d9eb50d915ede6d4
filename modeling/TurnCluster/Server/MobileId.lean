import TurnCluster.Lib.Loop

namespace TurnCluster
namespace Server

/-- The candidate that `get_new_mobile_id` draws in round `k` of its inner loop: one random number if a `long` is as
wide as a mobile id, and two otherwise. -/
def mobileDraw (wide : Bool) (random : Nat → UInt64) (k : Nat) : UInt64 :=
  if wide = true then random k else (random (2 * k) <<< 32) + random (2 * k + 1)

def mobileIdMask : UInt64 := 0x00FFFFFFFFFFFFFF

/-- The server id in the top byte. -/
def mobileSid (serverId : UInt8) : UInt64 := serverId.toUInt64 <<< 56

/-- What is left in `newid` behind a draw. -/
def mobileCandidate (serverId : UInt8) (drawn : UInt64) : UInt64 :=
  if drawn = 0 then 0
  else if drawn &&& mobileIdMask = 0 then 0
  else drawn &&& mobileIdMask ||| mobileSid serverId

/-- `newid`, and the number of rounds of the inner loop so far. -/
structure MobileIdLoop where
  newid : UInt64
  rounds : Nat

section Loop

variable (serverId : UInt8) (wide : Bool) (random : Nat → UInt64) (present : UInt64 → Bool)

def mobileIdRound (l : MobileIdLoop) : MobileIdLoop :=
  ⟨mobileCandidate serverId (mobileDraw wide random l.rounds), l.rounds + 1⟩

/-- `while (!newid)`. -/
def drawMobileId (fuel : Nat) (l : MobileIdLoop) : Option MobileIdLoop :=
  whileLoop (fun l => l.newid == 0) (mobileIdRound serverId wide random) fuel l

/-- `get_new_mobile_id`, where `present` says what is in `mobile_connections_map`. The variable `newid` is set to zero
before the outer loop and not again in it. -/
def getNewMobileId (fuel : Nat) : Option UInt64 :=
  (doWhile (drawMobileId serverId wide random fuel) (fun l => present l.newid) fuel ⟨0, 0⟩).map MobileIdLoop.newid

end Loop

variable {serverId : UInt8} {wide : Bool} {random : Nat → UInt64} {present : UInt64 → Bool}

theorem or_ne_zero {a b : UInt64} (nonzero : a ≠ 0) : a ||| b ≠ 0 := by
  intro zero
  apply nonzero
  have bits := congrArg UInt64.toNat zero
  rw [UInt64.toNat_or] at bits
  exact UInt64.toNat_inj.mp (Nat.or_eq_zero_iff.mp bits).1

variable {fuel : Nat} (drawn : UInt64) {l : MobileIdLoop}

theorem mobileCandidate_of_masked (masked : drawn &&& mobileIdMask ≠ 0) :
    mobileCandidate serverId drawn = drawn &&& mobileIdMask ||| mobileSid serverId := by
  have nonzero : drawn ≠ 0 := by
    rintro rfl
    exact masked (by decide)
  rw [mobileCandidate, if_neg nonzero, if_neg masked]

theorem mobileCandidate_eq_zero : mobileCandidate serverId drawn = 0 ↔ drawn &&& mobileIdMask = 0 := by
  by_cases masked : drawn &&& mobileIdMask = 0
  · simp [mobileCandidate, masked]
  · rw [mobileCandidate_of_masked drawn masked]
    exact iff_of_false (or_ne_zero masked) masked

/-- The mask clears the top byte, which then takes the server id. -/
theorem mobileId_top (serverId : UInt8) :
    (drawn &&& mobileIdMask ||| mobileSid serverId) >>> 56 = serverId.toUInt64 := by
  have small : serverId.toNat < 256 := serverId.toNat_lt
  apply UInt64.toNat_inj.mp
  have mask : mobileIdMask.toNat = 2 ^ 56 - 1 := rfl
  rw [UInt64.toNat_shiftRight, UInt64.toNat_or, UInt64.toNat_and, mask, Nat.and_two_pow_sub_one_eq_mod]
  have sid : (mobileSid serverId).toNat = serverId.toNat * 2 ^ 56 := by
    rw [mobileSid, UInt64.toNat_shiftLeft]
    simp [Nat.shiftLeft_eq]
    omega
  have low : drawn.toNat % 2 ^ 56 / 2 ^ 56 = 0 := Nat.div_eq_of_lt (Nat.mod_lt _ (by decide))
  have high : serverId.toNat * 2 ^ 56 / 2 ^ 56 = serverId.toNat := Nat.mul_div_cancel _ (by decide)
  rw [sid, show (56 : UInt64).toNat % 64 = 56 from rfl, Nat.shiftRight_or_distrib, Nat.shiftRight_eq_div_pow,
    Nat.shiftRight_eq_div_pow, low, high, Nat.zero_or, UInt8.toNat_toUInt64]

section Draws

variable (serverId wide random)

theorem mobileIdRound_iterate (n : Nat) (l : MobileIdLoop) :
    (mobileIdRound serverId wide random)^[n + 1] l =
      ⟨mobileCandidate serverId (mobileDraw wide random (l.rounds + n)), l.rounds + n + 1⟩ := by
  induction n generalizing l with
  | zero => rfl
  | succ n ih =>
    rw [Function.iterate_succ_apply, ih]
    simp only [mobileIdRound, Nat.add_right_comm, Nat.add_assoc]

/-- The state of the loops after the rounds `0` to `k`. -/
def afterRound (k : Nat) : MobileIdLoop := ⟨mobileCandidate serverId (mobileDraw wide random k), k + 1⟩

theorem iterate_eq_afterRound (k : Nat) :
    (mobileIdRound serverId wide random)^[k + 1] ⟨0, 0⟩ = afterRound serverId wide random k := by
  rw [mobileIdRound_iterate, Nat.zero_add, afterRound]

theorem afterRound_newid (k : Nat) :
    (afterRound serverId wide random k).newid = 0 ↔ mobileDraw wide random k &&& mobileIdMask = 0 :=
  mobileCandidate_eq_zero _

/-- Round `k` is the first one that leaves something in `newid`. -/
def FirstDraw (k : Nat) : Prop :=
  (∀ j < k, mobileDraw wide random j &&& mobileIdMask = 0) ∧ mobileDraw wide random k &&& mobileIdMask ≠ 0

end Draws

theorem drawMobileId_of_first {k : Nat} (first : FirstDraw wide random k) (enough : k + 1 < fuel) :
    drawMobileId serverId wide random fuel ⟨0, 0⟩ = some (afterRound serverId wide random k) := by
  rw [← iterate_eq_afterRound]
  refine whileLoop_iterate ?_ ?_ enough
  · intro j below
    cases j with
    | zero => rfl
    | succ j =>
      rw [iterate_eq_afterRound, beq_iff_eq, afterRound_newid]
      exact first.1 j (by omega)
  · rw [iterate_eq_afterRound, beq_eq_false_iff_ne, ne_eq, afterRound_newid]
    exact first.2

theorem first_of_drawMobileId (returned : drawMobileId serverId wide random fuel ⟨0, 0⟩ = some l) :
    ∃ k, k + 1 < fuel ∧ FirstDraw wide random k ∧ l = afterRound serverId wide random k := by
  obtain ⟨n, less, result, stop, before⟩ := iterate_of_whileLoop returned
  cases n with
  | zero =>
    subst result
    cases stop
  | succ k =>
    rw [iterate_eq_afterRound] at result
    subst result
    refine ⟨k, less, ⟨?_, ?_⟩, rfl⟩
    · intro j below
      have zero := before (j + 1) (by omega)
      rw [iterate_eq_afterRound, beq_iff_eq, afterRound_newid] at zero
      exact zero
    · rw [beq_eq_false_iff_ne, ne_eq, afterRound_newid] at stop
      exact stop

/-- With a candidate in `newid` the inner loop does nothing. -/
theorem drawMobileId_idle (drawn : l.newid ≠ 0) (t : MobileIdLoop)
    (returned : drawMobileId serverId wide random fuel l = some t) : t = l := by
  obtain ⟨n, _, result, _, before⟩ := iterate_of_whileLoop returned
  cases n with
  | zero => exact result
  | succ n => exact absurd (beq_iff_eq.mp (before 0 (by omega))) drawn

/-- The loop returns the first candidate that it draws, if that is not in the map, and otherwise it does not return. -/
theorem getNewMobileId_iff {id : UInt64} :
    (∃ fuel, getNewMobileId serverId wide random present fuel = some id) ↔
      ∃ k, FirstDraw wide random k ∧ id = mobileCandidate serverId (mobileDraw wide random k) ∧ present id = false := by
  constructor
  · rintro ⟨fuel, returned⟩
    obtain ⟨l, ran, rfl⟩ := Option.map_eq_some_iff.mp returned
    cases fuel with
    | zero => cases ran
    | succ fuel =>
      unfold doWhile at ran
      cases drew : drawMobileId serverId wide random (fuel + 1) ⟨0, 0⟩ with
      | none => simp [drew] at ran
      | some t =>
        obtain ⟨k, _, first, rfl⟩ := first_of_drawMobileId drew
        have drawn : (afterRound serverId wide random k).newid ≠ 0 := by
          rw [ne_eq, afterRound_newid]
          exact first.2
        cases taken : present (afterRound serverId wide random k).newid with
        | true =>
          rw [drew] at ran
          simp only [taken, if_true] at ran
          rw [doWhile_eq_none (drawMobileId_idle drawn) taken] at ran
          cases ran
        | false =>
          simp only [drew, taken, Bool.false_eq_true, if_false, Option.some.injEq] at ran
          subst ran
          exact ⟨k, first, rfl, taken⟩
  · rintro ⟨k, first, rfl, fresh⟩
    refine ⟨k + 2, ?_⟩
    have drew : drawMobileId serverId wide random (k + 2) ⟨0, 0⟩ = some (afterRound serverId wide random k) :=
      drawMobileId_of_first first (by omega)
    simp only [getNewMobileId, doWhile, drew, afterRound, fresh, Bool.false_eq_true, if_false, Option.map_some]

/-- `get_new_mobile_id` returns an id that is not in the map, with the server id in its top byte, if and only if the
first number it draws that is not zero in its low 56 bits gives such an id. After a collision it looks up the same
`newid` for ever. -/
theorem new_mobile_id_iff (serverId : UInt8) (wide : Bool) (random : Nat → UInt64) (present : UInt64 → Bool) :
    (∃ fuel id, getNewMobileId serverId wide random present fuel = some id ∧ present id = false ∧
        id >>> 56 = serverId.toUInt64) ↔
      ∃ k, (∀ j < k, mobileDraw wide random j &&& mobileIdMask = 0) ∧
        mobileDraw wide random k &&& mobileIdMask ≠ 0 ∧
        present (mobileDraw wide random k &&& mobileIdMask ||| mobileSid serverId) = false := by
  constructor
  · rintro ⟨fuel, id, returned, fresh, _⟩
    obtain ⟨k, first, rfl, _⟩ := getNewMobileId_iff.mp ⟨fuel, returned⟩
    rw [mobileCandidate_of_masked _ first.2] at fresh
    exact ⟨k, first.1, first.2, fresh⟩
  · rintro ⟨k, before, masked, fresh⟩
    rw [← mobileCandidate_of_masked _ masked] at fresh
    obtain ⟨fuel, returned⟩ := getNewMobileId_iff.mpr ⟨k, ⟨before, masked⟩, rfl, fresh⟩
    refine ⟨fuel, _, returned, fresh, ?_⟩
    rw [mobileCandidate_of_masked _ masked]
    exact mobileId_top _ _

/-- A first number without low bits, then 5, which is free. -/
theorem new_mobile_id_iff_second :
    ∃ fuel id, getNewMobileId 1 true (fun k => if k = 0 then 0xFF00000000000000 else 5) (fun _ => false) fuel = some id ∧
      id >>> 56 = 1 := by
  obtain ⟨fuel, id, returned, _, top⟩ := (new_mobile_id_iff 1 true (fun k => if k = 0 then 0xFF00000000000000 else 5)
    (fun _ => false)).mpr ⟨1, by decide, by decide, rfl⟩
  exact ⟨fuel, id, returned, top⟩

/-- The server with id 1 has the mobile id 5 in its map and draws 5, then 6, then 7 and so on: 6 is free, and the loop
does not end. -/
theorem taken_candidate_loops :
    let random : Nat → UInt64 := fun k => 5 + UInt64.ofNat k
    let present : UInt64 → Bool := fun id => id == (5 ||| mobileSid 1)
    (∃ k, mobileDraw true random k &&& mobileIdMask ≠ 0 ∧
        present (mobileDraw true random k &&& mobileIdMask ||| mobileSid 1) = false) ∧
      ∀ fuel, getNewMobileId 1 true random present fuel = none := by
  refine ⟨⟨1, by decide, by decide⟩, ?_⟩
  intro fuel
  refine Option.eq_none_iff_forall_ne_some.mpr fun id returned => ?_
  obtain ⟨k, first, rfl, fresh⟩ := getNewMobileId_iff.mp ⟨fuel, returned⟩
  cases k with
  | zero => revert fresh; decide
  | succ k => exact absurd (first.1 0 (by omega)) (by decide)

end Server
end TurnCluster
