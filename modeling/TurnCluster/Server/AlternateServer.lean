import Mathlib.Data.List.GetD
import TurnCluster.Lib.Rotation
import TurnCluster.Server.Answers

namespace TurnCluster
namespace Server

/-- The answer so far, as `set_alternate_server` finds it and leaves it. -/
structure Redirect where
  respConstructed : Bool
  errCode : Nat
  nbh : Draft

/-- A call of `set_alternate_server`: the request that may be sent elsewhere. -/
structure Arrival where
  method : UInt16
  tid : List UInt8
  reason : Option String
  found : Redirect

/-- The response with code 300 that names a server. -/
def redirect (mapping : AddrMapping) (call : Arrival) (addr : IoaAddr) : Redirect :=
  ⟨true, 300, call.found.nbh.redirect mapping call.method call.reason call.tid addr⟩

/-- The second loop of `set_alternate_server`: the counter behind it, and the entry it chooses. The
counter is at most the size after every round, so it does not wrap. -/
def alternateLoop (asl : List IoaAddr) (family : Family) : Nat → Nat → Nat × Option Nat
  | 0, counter => (counter, none)
  | rounds + 1, counter =>
    let counter := if asl.length ≤ counter then 0 else counter
    if (asl.getD counter .any).family = family then (counter + 1, some counter)
    else alternateLoop asl family rounds (counter + 1)

/-- `set_alternate_server` with its list and the local address, from one call to the next. -/
def setAlternateServer (mapping : AddrMapping) (asl : List IoaAddr) (localAddr : IoaAddr) :
    Service Nat Arrival Redirect := fun counter call =>
  if asl.length = 0 then (counter, call.found)
  else if asl.any (fun addr => addrEq addr localAddr) then (counter, call.found)
  else
    match alternateLoop asl localAddr.family asl.length counter with
    | (counter, none) => (counter, call.found)
    | (counter, some entry) => (counter, redirect mapping call (asl.getD entry .any))

/-- The entries that serve the family of the local address. -/
def serves (asl : List IoaAddr) (family : Family) (entry : Nat) : Bool := (asl.getD entry .any).family == family

theorem alternateLoop_turn {asl : List IoaAddr} (nonempty : asl.length ≠ 0) (family : Family) (rounds counter : Nat) :
    Rotation.turn (serves asl family) rounds (Rotation.order asl.length counter) =
      (Rotation.order asl.length (alternateLoop asl family rounds counter).1,
        (alternateLoop asl family rounds counter).2) := by
  induction rounds generalizing counter with
  | zero => rfl
  | succ rounds ih =>
    have start : ∃ here, here < asl.length ∧ (if asl.length ≤ counter then 0 else counter) = here ∧
        Rotation.order asl.length counter = Rotation.order asl.length here := by
      split
      · rename_i behind
        exact ⟨0, Nat.pos_of_ne_zero nonempty, rfl, Rotation.order_of_le behind⟩
      · rename_i inside
        exact ⟨counter, Nat.lt_of_not_le inside, rfl, rfl⟩
    obtain ⟨here, below, value, same⟩ := start
    obtain ⟨rest, first, next⟩ := Rotation.order_next below
    simp only [alternateLoop, value, same, first, Rotation.turn, ← next]
    by_cases found : (asl.getD here .any).family = family
    · have found' : serves asl family here = true := beq_iff_eq.mpr found
      rw [if_pos found, if_pos found']
    · have found' : ¬ serves asl family here = true := fun serving => found (beq_iff_eq.mp serving)
      rw [if_neg found, if_neg found']
      exact ih (here + 1)

/-- What a call answers when the entry is chosen. -/
def answerWith (mapping : AddrMapping) (asl : List IoaAddr) (call : Arrival) : Option Nat → Redirect
  | none => call.found
  | some entry => redirect mapping call (asl.getD entry .any)

theorem setAlternateServer_simulates (mapping : AddrMapping) {asl : List IoaAddr} {localAddr : IoaAddr}
    (foreign : ∀ addr ∈ asl, addrEq addr localAddr = false) :
    Service.Simulates (setAlternateServer mapping asl localAddr)
      (Rotation.service (serves asl localAddr.family) (answerWith mapping asl)) (fun _ => True) (fun _ _ => True)
      (fun counter queue => queue = Rotation.order asl.length counter) where
  call := by
    intro counter queue call represents _ _
    have notLocal : asl.any (fun addr => addrEq addr localAddr) = false :=
      List.any_eq_false.mpr fun addr member => Bool.eq_false_iff.mp (foreign addr member)
    rw [represents]
    simp only [setAlternateServer, Rotation.service, Rotation.length_order]
    by_cases empty : asl.length = 0
    · rw [if_pos empty, empty]
      exact ⟨rfl, rfl⟩
    · rw [if_neg empty, notLocal, if_neg Bool.false_ne_true, alternateLoop_turn empty]
      generalize alternateLoop asl localAddr.family asl.length counter = chosen
      obtain ⟨counter', entry⟩ := chosen
      cases entry <;> exact ⟨rfl, rfl⟩

theorem length_filter_serves (asl : List IoaAddr) (family : Family) :
    ((List.range asl.length).filter (serves asl family)).length = asl.countP (fun addr => addr.family == family) := by
  have entries : asl = (List.range asl.length).map (fun entry => asl.getD entry .any) := by
    refine List.ext_getElem (by rw [List.length_map, List.length_range]) ?_
    intro i inside _
    rw [List.getElem_map, List.getElem_range, List.getD_eq_getElem _ _ inside]
  conv_rhs => rw [entries, List.countP_map]
  rw [List.countP_eq_length_filter]
  rfl

/-- As many calls in a row as the list has entries of the local address's family: each is sent
elsewhere with code 300, and each of these entries is named once. -/
theorem setAlternateServer_rotation (mapping : AddrMapping) (asl : List IoaAddr) (localAddr : IoaAddr)
    (foreign : ∀ addr ∈ asl, addrEq addr localAddr = false) (counter : Nat) (calls : List Arrival)
    (count : calls.length = asl.countP (fun addr => addr.family == localAddr.family)) :
    (∀ answer ∈ Service.trace (setAlternateServer mapping asl localAddr) counter calls,
      answer.respConstructed = true ∧ answer.errCode = 300) ∧
    ∃ entries : List Nat,
      entries.Perm ((List.range asl.length).filter fun i => (asl.getD i .any).family == localAddr.family) ∧
      entries.length = calls.length ∧
      Service.trace (setAlternateServer mapping asl localAddr) counter calls =
        List.zipWith (fun call entry => redirect mapping call (asl.getD entry .any)) calls entries := by
  have perm : ((Rotation.order asl.length counter).filter (serves asl localAddr.family)).Perm
      ((List.range asl.length).filter (serves asl localAddr.family)) :=
    (Rotation.order_perm asl.length counter).filter _
  have length := perm.length_eq
  rw [length_filter_serves, ← count] at length
  have answers := ((setAlternateServer_simulates mapping foreign).run rfl (fun _ _ => trivial)
    (Service.along_true counter calls)).2
  rw [Rotation.trace_service _ (Nat.le_of_eq length.symm)] at answers
  refine ⟨?_, _, perm, length, answers⟩
  intro answer member
  rw [answers, ← List.map_uncurry_zip_eq_zipWith] at member
  obtain ⟨pair, _, rfl⟩ := List.mem_map.mp member
  exact ⟨rfl, rfl⟩

/-- Three servers, one of them of the other family. -/
def exampleServers : List IoaAddr :=
  [.inet 0x0100000A 3478, ⟨.inet6, 3478, 0, List.replicate 16 1⟩, .inet 0x0200000A 3478]

def exampleArrival : Arrival :=
  ⟨stunMethodAllocate, List.replicate 12 7, none, ⟨false, 0, ⟨.ioaNetworkBufferAllocate, []⟩⟩⟩

theorem setAlternateServer_rotation_pair :
    (∀ addr ∈ exampleServers, addrEq addr (.inet 0x0900000A 3478) = false) ∧
      ∃ entries : List Nat, entries.Perm [0, 2] ∧
        Service.trace (setAlternateServer [] exampleServers (.inet 0x0900000A 3478)) 7
            [exampleArrival, exampleArrival] =
          List.zipWith (fun call entry => redirect [] call (exampleServers.getD entry .any))
            [exampleArrival, exampleArrival] entries := by
  have foreign : ∀ addr ∈ exampleServers, addrEq addr (.inet 0x0900000A 3478) = false := by decide
  obtain ⟨_, entries, perm, _, answers⟩ := setAlternateServer_rotation [] exampleServers
    (.inet 0x0900000A 3478) foreign 7 [exampleArrival, exampleArrival] (by decide)
  exact ⟨foreign, entries, perm, answers⟩

end Server
end TurnCluster
