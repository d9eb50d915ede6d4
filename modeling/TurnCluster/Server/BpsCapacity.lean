import Mathlib.Algebra.Order.BigOperators.Group.Multiset
import TurnCluster.Lib.Run
import TurnCluster.Server.Allocate

namespace TurnCluster
namespace Bps

/-- The part of `turn_params` that `mutex_bps` guards. -/
structure Params where
  bpsCapacity : UInt64
  bpsCapacityAllocated : UInt64
  deriving DecidableEq, Repr

/-- `allocate_bps`. -/
def allocateBps (p : Params) (bps : UInt64) (positive : Bool) : Params × UInt64 :=
  if 0 < bps then
    if positive then
      if p.bpsCapacity = 0 then ({ p with bpsCapacityAllocated := p.bpsCapacityAllocated + bps }, bps)
      else if p.bpsCapacityAllocated < p.bpsCapacity then
        let reserve := p.bpsCapacity - p.bpsCapacityAllocated
        if reserve ≤ bps then ({ p with bpsCapacityAllocated := p.bpsCapacity }, reserve)
        else ({ p with bpsCapacityAllocated := p.bpsCapacityAllocated + bps }, bps)
      else (p, 0)
    else if bps ≤ p.bpsCapacityAllocated then
      ({ p with bpsCapacityAllocated := p.bpsCapacityAllocated - bps }, 0)
    else ({ p with bpsCapacityAllocated := 0 }, 0)
  else (p, 0)

def setBpsCapacity (p : Params) (value : UInt64) : Params := { p with bpsCapacity := value }

/-- What the capacity leaves over; it may have been lowered below what is allocated. -/
def Params.remaining (p : Params) : Nat := p.bpsCapacity.toNat - p.bpsCapacityAllocated.toNat

theorem allocateBps_unlimited {p : Params} (unlimited : p.bpsCapacity = 0) (bps : UInt64) :
    allocateBps p bps true = ({ p with bpsCapacityAllocated := p.bpsCapacityAllocated + bps }, bps) := by
  by_cases asked : 0 < bps
  · simp only [allocateBps, if_pos asked, if_true, if_pos unlimited]
  · have none : bps = 0 := UInt64.toNat_inj.mp (Nat.le_zero.mp (Nat.le_of_not_lt asked))
    rw [none, UInt64.add_zero]
    rfl

theorem allocateBps_limited {p : Params} (limited : p.bpsCapacity ≠ 0) (bps : UInt64) :
    (allocateBps p bps true).2.toNat = min bps.toNat p.remaining ∧
      (allocateBps p bps true).1.bpsCapacityAllocated.toNat =
        p.bpsCapacityAllocated.toNat + (allocateBps p bps true).2.toNat := by
  have bound := p.bpsCapacity.toNat_lt
  unfold allocateBps Params.remaining
  by_cases asked : 0 < bps
  · rw [if_pos asked, if_pos rfl, if_neg limited]
    by_cases spare : p.bpsCapacityAllocated < p.bpsCapacity
    · have spare' := UInt64.lt_iff_toNat_lt.mp spare
      have reserve := UInt64.toNat_sub_of_le _ _ (UInt64.le_of_lt spare)
      rw [if_pos spare]
      dsimp only
      by_cases short : p.bpsCapacity - p.bpsCapacityAllocated ≤ bps
      · rw [if_pos short]
        rw [UInt64.le_iff_toNat_le, reserve] at short
        dsimp only
        omega
      · rw [if_neg short]
        rw [UInt64.le_iff_toNat_le, reserve] at short
        dsimp only
        rw [UInt64.toNat_add]
        omega
    · rw [if_neg spare]
      rw [UInt64.lt_iff_toNat_lt] at spare
      dsimp only
      rw [UInt64.toNat_zero]
      omega
  · rw [if_neg asked]
    rw [UInt64.lt_iff_toNat_lt, UInt64.toNat_zero] at asked
    dsimp only
    rw [UInt64.toNat_zero]
    omega

theorem allocateBps_release {p : Params} {bps : UInt64} (covered : bps.toNat ≤ p.bpsCapacityAllocated.toNat) :
    (allocateBps p bps false).1.bpsCapacityAllocated.toNat + bps.toNat = p.bpsCapacityAllocated.toNat := by
  unfold allocateBps
  by_cases asked : 0 < bps
  · rw [if_pos asked, if_neg Bool.false_ne_true, if_pos (UInt64.le_iff_toNat_le.mpr covered)]
    dsimp only
    rw [UInt64.toNat_sub_of_le _ _ (UInt64.le_iff_toNat_le.mpr covered)]
    omega
  · rw [if_neg asked]
    rw [UInt64.lt_iff_toNat_lt, UInt64.toNat_zero] at asked
    dsimp only
    omega

/-- The parameters with the grants that were handed out and not given back. -/
structure Ledger where
  params : Params
  outstanding : Multiset UInt64

inductive Call
  | request (bps : UInt64)
  | release (grant : UInt64)
  | setCapacity (value : UInt64)
  deriving DecidableEq, Repr

namespace Ledger

def granted (outstanding : Multiset UInt64) (grant : UInt64) : Multiset UInt64 :=
  if grant = 0 then outstanding else grant ::ₘ outstanding

def call (s : Ledger) : Call → Ledger × UInt64
  | .request bps =>
    let (params, grant) := allocateBps s.params bps true
    (⟨params, granted s.outstanding grant⟩, grant)
  | .release grant => (⟨(allocateBps s.params grant false).1, s.outstanding.erase grant⟩, 0)
  | .setCapacity value => (⟨setBpsCapacity s.params value, s.outstanding⟩, 0)

/-- The sum of the outstanding grants. -/
def total (s : Ledger) : Nat := (s.outstanding.map UInt64.toNat).sum

/-- A release gives back a grant that is there and not zero. -/
def allows (s : Ledger) : Call → Prop
  | .release grant => grant ≠ 0 ∧ grant ∈ s.outstanding
  | _ => True

/-- The sum of the grants stays a 64-bit number. -/
def Bounded (s : Ledger) (c : Call) : Prop := (s.call c).1.total < 2 ^ 64

end Ledger

def machine : Machine Ledger Call UInt64 where
  init s := s.params.bpsCapacityAllocated = 0 ∧ s.outstanding = 0
  enabled := Ledger.allows
  next s c := some (s.call c)

theorem total_granted (params : Params) (outstanding : Multiset UInt64) (grant : UInt64) :
    Ledger.total ⟨params, Ledger.granted outstanding grant⟩ = Ledger.total ⟨params, outstanding⟩ + grant.toNat := by
  unfold Ledger.total Ledger.granted
  split
  · rename_i nothing
    rw [nothing, UInt64.toNat_zero, Nat.add_zero]
  · rw [Multiset.map_cons, Multiset.sum_cons, Nat.add_comm]

/-- The allocated amount is the sum of the outstanding grants. -/
def Ledger.Balanced (s : Ledger) : Prop := s.params.bpsCapacityAllocated.toNat = s.total

namespace Ledger.Balanced

theorem request {s : Ledger} (balanced : s.Balanced) {bps : UInt64} (bounded : s.Bounded (.request bps)) :
    (s.call (.request bps)).1.Balanced := by
  unfold Ledger.Bounded at bounded
  unfold Ledger.Balanced at balanced ⊢
  simp only [Ledger.call, total_granted] at bounded ⊢
  by_cases unlimited : s.params.bpsCapacity = 0
  · rw [allocateBps_unlimited unlimited] at bounded ⊢
    dsimp only at bounded ⊢
    rw [UInt64.toNat_add, balanced]
    exact Nat.mod_eq_of_lt bounded
  · rw [(allocateBps_limited unlimited bps).2, balanced]
    rfl

theorem release {s : Ledger} (balanced : s.Balanced) {grant : UInt64} (out : grant ∈ s.outstanding) :
    (s.call (.release grant)).1.Balanced := by
  have split : grant.toNat + ((s.outstanding.erase grant).map UInt64.toNat).sum = s.total := by
    rw [Ledger.total, ← Multiset.sum_cons, ← Multiset.map_cons, Multiset.cons_erase out]
  unfold Ledger.Balanced at balanced ⊢
  have covered : grant.toNat ≤ s.params.bpsCapacityAllocated.toNat := by omega
  have given := allocateBps_release covered
  show (allocateBps s.params grant false).1.bpsCapacityAllocated.toNat =
    ((s.outstanding.erase grant).map UInt64.toNat).sum
  omega

theorem call {s : Ledger} (balanced : s.Balanced) {c : Call} (allowed : s.allows c) (bounded : s.Bounded c) :
    (s.call c).1.Balanced := by
  cases c with
  | request bps => exact balanced.request bounded
  | release grant => exact balanced.release allowed.2
  | setCapacity value => exact balanced

end Ledger.Balanced

theorem balanced_of_reach {s : Ledger} (reach : machine.Reach Ledger.Bounded s) : s.Balanced := by
  refine reach.invariant (P := Ledger.Balanced) ?_ ?_
  · rintro s ⟨nothing, empty⟩
    simp only [Ledger.Balanced, Ledger.total, nothing, empty, Multiset.map_zero, Multiset.sum_zero, UInt64.toNat_zero]
  · intro s s' c o balanced allowed bounded run
    have after : (s.call c).1 = s' := congrArg Prod.fst (Option.some.inj run)
    exact after ▸ balanced.call allowed bounded

/-- In every history the allocated amount is what is outstanding, a request gets no more than it
asks for, leaves a capacity kept when it gets anything, and gets less only if that is all there was. -/
theorem allocateBps_accounting {s : Ledger} (reach : machine.Reach Ledger.Bounded s) :
    s.params.bpsCapacityAllocated.toNat = s.total ∧
      ∀ bps,
        (s.call (.request bps)).2 ≤ bps ∧
        (s.params.bpsCapacity ≠ 0 → (s.call (.request bps)).2 ≠ 0 →
          (s.call (.request bps)).1.params.bpsCapacityAllocated ≤ s.params.bpsCapacity) ∧
        ((s.call (.request bps)).2 < bps →
          s.params.bpsCapacity ≠ 0 ∧ (s.call (.request bps)).2.toNat = s.params.remaining) := by
  refine ⟨balanced_of_reach reach, fun bps => ?_⟩
  simp only [Ledger.call, UInt64.le_iff_toNat_le, UInt64.lt_iff_toNat_lt]
  by_cases unlimited : s.params.bpsCapacity = 0
  · rw [allocateBps_unlimited unlimited]
    exact ⟨le_rfl, fun limited => absurd unlimited limited, fun less => absurd less (Nat.lt_irrefl _)⟩
  · obtain ⟨grant, allocated⟩ := allocateBps_limited unlimited bps
    rw [allocated, grant]
    refine ⟨Nat.min_le_left _ _, fun _ nonzero => ?_, fun less => ⟨unlimited, by omega⟩⟩
    have positive : (allocateBps s.params bps true).2.toNat ≠ 0 := by
      intro zero
      exact nonzero (UInt64.toNat_inj.mp zero)
    rw [grant] at positive
    unfold Params.remaining at positive ⊢
    omega

instance (s : Ledger) (c : Call) : Decidable (machine.enabled s c) :=
  match c with
  | .request _ => .isTrue trivial
  | .release grant => inferInstanceAs (Decidable (grant ≠ 0 ∧ grant ∈ s.outstanding))
  | .setCapacity _ => .isTrue trivial

instance (s : Ledger) (c : Call) : Decidable (s.Bounded c) := inferInstanceAs (Decidable (_ < _))

/-- A capacity lowered below what is allocated, then a release. -/
theorem allocateBps_accounting_lowered : ∃ s, machine.Reach Ledger.Bounded s ∧
    (s.params = ⟨50, 30⟩ ∧ s.params.bpsCapacityAllocated.toNat = s.total ∧
      (s.call (.request 40)).2.toNat = s.params.remaining) := by
  have reached : ∃ s, machine.Reach Ledger.Bounded s ∧ decide (s.params = ⟨50, 30⟩) = true :=
    Machine.Reach.exists_of_replay ⟨⟨100, 0⟩, 0⟩
      [.request 70, .request 40, .setCapacity 50, .request 5, .release 70] ⟨rfl, rfl⟩ (by decide)
  obtain ⟨s, reach, passed⟩ := reached
  have params : s.params = ⟨50, 30⟩ := of_decide_eq_true passed
  obtain ⟨same, requests⟩ := allocateBps_accounting reach
  refine ⟨s, reach, params, same, ((requests 40).2.2 ?_).2⟩
  simp only [Ledger.call, params]
  decide

/-- The part of `handle_turn_allocate` that asks for bandwidth: the session's bandwidth afterwards. -/
def chargeBps (p : Params) (held bps : UInt64) : Params × UInt64 :=
  if bps ≠ 0 ∧ held = 0 then allocateBps p bps true else (p, held)

/-- `dec_bps`. -/
def decBps (p : Params) (held : UInt64) : Params × UInt64 :=
  if held ≠ 0 then ((allocateBps p held false).1, 0) else (p, held)

/-- The parameters and the `bps` of each session. -/
structure Sessions where
  params : Params
  bps : List UInt64

inductive SessionCall
  | accept
  | allocate (session : Nat) (bps : UInt64)
  | dec (session : Nat)
  | setCapacity (value : UInt64)

namespace Sessions

/-- One call; a session that is not there is left alone. -/
def call (s : Sessions) : SessionCall → Sessions
  | .accept => { s with bps := 0 :: s.bps }
  | .allocate session bps =>
    match s.bps[session]? with
    | none => s
    | some held =>
      let (params, held) := chargeBps s.params held bps
      ⟨params, s.bps.set session held⟩
  | .dec session =>
    match s.bps[session]? with
    | none => s
    | some held =>
      let (params, held) := decBps s.params held
      ⟨params, s.bps.set session held⟩
  | .setCapacity value => { s with params := setBpsCapacity s.params value }

/-- The grants that the sessions hold. -/
def grants (bps : List UInt64) : Multiset UInt64 := Multiset.filter (· ≠ 0) bps

def ledger (s : Sessions) : Ledger := ⟨s.params, grants s.bps⟩

def total (s : Sessions) : Nat := (s.bps.map UInt64.toNat).sum

end Sessions

def sessionMachine : Machine Sessions SessionCall Unit where
  init s := s.params.bpsCapacityAllocated = 0 ∧ s.bps = []
  enabled _ _ := True
  next s c := some (s.call c, ())

theorem grants_cons_zero (bps : List UInt64) : Sessions.grants (0 :: bps) = Sessions.grants bps := by
  simp only [Sessions.grants, ← Multiset.cons_coe]
  exact Multiset.filter_cons_of_neg _ (fun nonzero => nonzero rfl)

theorem grants_cons_pos {grant : UInt64} (nonzero : grant ≠ 0) (bps : List UInt64) :
    Sessions.grants (grant :: bps) = grant ::ₘ Sessions.grants bps := by
  simp only [Sessions.grants, ← Multiset.cons_coe]
  exact Multiset.filter_cons_of_pos _ nonzero

theorem grants_set {bps : List UInt64} {session : Nat} {held : UInt64} (there : bps[session]? = some held)
    (now : UInt64) : ∃ others, Sessions.grants bps = Sessions.grants (held :: others) ∧
      Sessions.grants (bps.set session now) = Sessions.grants (now :: others) := by
  obtain ⟨bound, value⟩ := List.getElem?_eq_some_iff.mp there
  refine ⟨bps.eraseIdx session, ?_, ?_⟩
  · have perm := List.getElem_cons_eraseIdx_perm bound
    rw [value] at perm
    exact congrArg (Multiset.filter (· ≠ 0)) (Multiset.coe_eq_coe.mpr perm.symm)
  · exact congrArg (Multiset.filter (· ≠ 0)) (Multiset.coe_eq_coe.mpr (List.set_perm_cons_eraseIdx bound now))

theorem chargeBps_ledger (p : Params) (held bps : UInt64) (others : List UInt64) :
    Ledger.mk (chargeBps p held bps).1 (Sessions.grants ((chargeBps p held bps).2 :: others)) =
        ⟨p, Sessions.grants (held :: others)⟩ ∨
      Ledger.mk (chargeBps p held bps).1 (Sessions.grants ((chargeBps p held bps).2 :: others)) =
        (Ledger.call ⟨p, Sessions.grants (held :: others)⟩ (.request bps)).1 := by
  by_cases asked : bps ≠ 0 ∧ held = 0
  · right
    have charged : chargeBps p held bps = allocateBps p bps true := if_pos asked
    rw [charged, asked.2, grants_cons_zero]
    simp only [Ledger.call, Ledger.granted]
    split
    · rename_i nothing
      rw [nothing, grants_cons_zero]
    · rename_i something
      rw [grants_cons_pos something]
  · left
    have unchanged : chargeBps p held bps = (p, held) := if_neg asked
    rw [unchanged]

theorem decBps_ledger (p : Params) (held : UInt64) (others : List UInt64) :
    Ledger.mk (decBps p held).1 (Sessions.grants ((decBps p held).2 :: others)) =
        ⟨p, Sessions.grants (held :: others)⟩ ∨
      Ledger.allows ⟨p, Sessions.grants (held :: others)⟩ (.release held) ∧
        Ledger.mk (decBps p held).1 (Sessions.grants ((decBps p held).2 :: others)) =
          (Ledger.call ⟨p, Sessions.grants (held :: others)⟩ (.release held)).1 := by
  by_cases holds : held ≠ 0
  · right
    rw [grants_cons_pos holds]
    have released : decBps p held = ((allocateBps p held false).1, 0) := if_pos holds
    have member : held ∈ held ::ₘ Sessions.grants others := Multiset.mem_cons_self _ _
    refine ⟨⟨holds, member⟩, ?_⟩
    simp only [released, Ledger.call, Multiset.erase_cons_head, grants_cons_zero]
  · left
    have unchanged : decBps p held = (p, held) := if_neg holds
    rw [unchanged]

theorem Sessions.ledger_call (s : Sessions) (c : SessionCall) :
    (s.call c).ledger = s.ledger ∨ ∃ c', s.ledger.allows c' ∧ (s.call c).ledger = (s.ledger.call c').1 := by
  cases c with
  | accept => exact Or.inl (congrArg (Ledger.mk s.params) (grants_cons_zero s.bps))
  | setCapacity value => exact Or.inr ⟨.setCapacity value, trivial, rfl⟩
  | allocate session bps =>
    cases there : s.bps[session]? with
    | none => exact Or.inl (by simp only [Sessions.call, there])
    | some held =>
      obtain ⟨others, before, after⟩ := grants_set there (chargeBps s.params held bps).2
      simp only [Sessions.call, there, Sessions.ledger, before, after]
      rcases chargeBps_ledger s.params held bps others with same | same
      · exact Or.inl same
      · exact Or.inr ⟨.request bps, trivial, same⟩
  | dec session =>
    cases there : s.bps[session]? with
    | none => exact Or.inl (by simp only [Sessions.call, there])
    | some held =>
      obtain ⟨others, before, after⟩ := grants_set there (decBps s.params held).2
      simp only [Sessions.call, there, Sessions.ledger, before, after]
      rcases decBps_ledger s.params held others with same | ⟨allowed, same⟩
      · exact Or.inl same
      · exact Or.inr ⟨.release held, allowed, same⟩

theorem Sessions.total_ledger (s : Sessions) : s.ledger.total = s.total := by
  obtain ⟨params, bps⟩ := s
  unfold Sessions.ledger Ledger.total Sessions.total
  dsimp only
  induction bps with
  | nil => rfl
  | cons held rest ih =>
    rw [List.map_cons, List.sum_cons, ← ih]
    by_cases holds : held ≠ 0
    · rw [grants_cons_pos holds, Multiset.map_cons, Multiset.sum_cons]
    · rw [not_not.mp holds, grants_cons_zero, UInt64.toNat_zero, Nat.zero_add]

theorem Sessions.reach_ledger {s : Sessions}
    (reach : sessionMachine.Reach (fun s c => (s.call c).total < 2 ^ 64) s) :
    machine.Reach Ledger.Bounded s.ledger := by
  induction reach with
  | start initial =>
    obtain ⟨nothing, empty⟩ := initial
    refine .start ⟨nothing, ?_⟩
    simp only [Sessions.ledger, empty]
    rfl
  | @next s s' c o _ _ bounded run ih =>
    have after : s.call c = s' := congrArg Prod.fst (Option.some.inj run)
    rw [← after]
    rcases s.ledger_call c with same | ⟨c', allowed, same⟩
    · rw [same]
      exact ih
    · have kept : s.ledger.Bounded c' := by
        rw [Ledger.Bounded, ← same, Sessions.total_ledger]
        exact bounded
      exact .next ih allowed kept (by rw [same]; rfl)

/-- The sessions keep the books: what is allocated is what they have. -/
theorem Sessions.accounted {s : Sessions}
    (reach : sessionMachine.Reach (fun s c => (s.call c).total < 2 ^ 64) s) :
    s.params.bpsCapacityAllocated.toNat = s.total := by
  rw [← Sessions.total_ledger]
  exact balanced_of_reach (Sessions.reach_ledger reach)

/-- A session asks for 70 of 100. -/
theorem Sessions.accounted_granted :
    (((Sessions.mk ⟨100, 0⟩ []).call .accept).call (.allocate 0 70)).params.bpsCapacityAllocated.toNat = 70 :=
  Sessions.accounted (.next (.next (.start ⟨rfl, rfl⟩) trivial (by decide) rfl) trivial (by decide) rfl)

/-- What a session asks for in `handle_turn_allocate`, where its server gets the answers from here. -/
theorem chargeBps_allocateBandwidth {env : Server.Env} {p : Params}
    (answers : ∀ bps, env.allocateBps bps = (allocateBps p (UInt64.ofNat bps) true).2.toNat)
    {ss : Server.SuperSession} {bps : Nat} (word : ss.bps < 2 ^ 64)
    (words : Server.limitBps ss.realm.maxBps bps < 2 ^ 64) :
    (Server.allocateBandwidth env ss bps).1.bps =
      (chargeBps p (UInt64.ofNat ss.bps) (UInt64.ofNat (Server.limitBps ss.realm.maxBps bps))).2.toNat := by
  have zero {n : Nat} (small : n < 2 ^ 64) : UInt64.ofNat n = 0 ↔ n = 0 := by
    rw [← UInt64.toNat_inj, UInt64.toNat_ofNat', Nat.mod_eq_of_lt small, UInt64.toNat_zero]
  unfold Server.allocateBandwidth chargeBps
  dsimp only
  simp only [ne_eq, zero word, zero words]
  split
  · exact answers _
  · exact (Nat.mod_eq_of_lt word).symm

end Bps
end TurnCluster
