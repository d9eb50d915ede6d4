import TurnCluster.Relay.Buffer
import TurnCluster.Server.Quota

namespace TurnCluster
namespace Server

def stunAttributeAddressErrorCode : UInt16 := 0x8033

def getDefaultReason (errorCode : Nat) : String :=
  match errorCode with
  | 300 => "Try Alternate"
  | 400 => "Bad Request"
  | 401 => "Unauthorized"
  | 403 => "Forbidden"
  | 404 => "Not Found"
  | 420 => "Unknown Attribute"
  | 437 => "Allocation Mismatch"
  | 438 => "Stale Nonce"
  | 440 => "Address Family not Supported"
  | 441 => "Wrong Credentials"
  | 442 => "Unsupported Transport Protocol"
  | 443 => "Peer Address Family Mismatch"
  | 446 => "Connection Already Exists"
  | 447 => "Connection Timeout or Failure"
  | 486 => "Allocation Quota Reached"
  | 487 => "Role Conflict"
  | 500 => "Server Error"
  | 508 => "Insufficient Capacity"
  | _ => "Unknown error"

/-- The value of ERROR-CODE and, with a family in the first byte, of ADDRESS-ERROR-CODE: the text is
cut at 508 bytes and padded by hand. -/
def errorCodeValue (family : UInt8) (errorCode : Nat) (reason : String) : List UInt8 :=
  let text := (reason.toList.map (fun c => UInt8.ofNat c.toNat)).take 508
  let avalue := [family, 0, UInt8.ofNat (errorCode / 100), UInt8.ofNat (errorCode % 100)] ++ text
  avalue ++ List.replicate (roundUp4 avalue.length - avalue.length) 0

def stunAttrAddAddressErrorCode (b : StunBuffer) (pos len : Nat) (family : UInt8) (errorCode : Nat) : StunBuffer × Nat :=
  stunAttrAddBytes b pos len stunAttributeAddressErrorCode (errorCodeValue family errorCode (getDefaultReason errorCode))

/-- The codes of `err_code4` and `err_code6` that a success reports: only an allocation of both families
sets them, and one in which both fail is no success. -/
def dualErrors (server : TurnServer) (env : Env) (ss : SuperSession) (s : AllocateScan) (lifetime : Nat) : Nat × Nat :=
  match s.af4, s.af6 with
  | true, true =>
    let (ss, errCode4, _) := allocateFamily server env ss s lifetime (some .inet) .inet 440
    let (_, errCode6, _) := allocateFamily server env ss s lifetime (some .inet6) .inet6 440
    if errCode4 ≠ 0 ∧ errCode6 ≠ 0 then (0, 0) else (errCode4, errCode6)
  | _, _ => (0, 0)

/-- The session with which a new Allocate comes to its relay sockets. -/
def chargedSession (server : TurnServer) (env : Env) (ss : SuperSession) (m : Request) : SuperSession :=
  let s := allocateScanned server ss m
  let ss := { ss with isMobile := s.isMobile, isTcpRelay := s.isTcpRelay }
  let ss := { ss with mobileId := bif server.mobility && !ss.isMobile then 0 else ss.mobileId }
  (allocateBandwidth env (incQuota server env ss s.username).2 s.bps).1

/-- The lifetime that an Allocate is granted. -/
def allocateLifetime (server : TurnServer) (ss : SuperSession) (m : Request) : Nat :=
  stunAdjustAllocateLifetime (allocateScanned server ss m).lifetime server.maxAllocateLifetime ss.maxSessionTimeAuth

/-- `err_code4` and `err_code6` at the end of `handle_turn_allocate`: a repeated Allocate has none. -/
def addressErrors (server : TurnServer) (env : Env) (ss : SuperSession) (m : Request) : Nat × Nat :=
  if ss.alloc.isValid = true then (0, 0)
  else
    dualErrors server env (chargedSession server env ss m) (allocateScanned server ss m) (allocateLifetime server ss m)

/-- No relay socket comes of a request for one family. -/
def relayFails (env : Env) (s : AllocateScan) (family : Family) : Bool :=
  let unregistered (r : RelaySocket) := !r.tcp && !env.registerCallback
  if s.inReservationToken ≠ 0 then
    match env.reservedSocket s.inReservationToken with
    | none => true
    | some r => r.toBeClosed || unregistered r
  else
    match env.createRelayIoaSockets (some family) s.transport.toNat s.evenPort with
    | .failed _ _ => true
    | .opened r rtcp reservationToken => rtcp && reservationToken == 0 || unregistered r

/-- A new Allocate that comes to its relay sockets. -/
structure Admitted (server : TurnServer) (env : Env) (ss : SuperSession) (m : Request) : Prop where
  unallocated : ss.alloc.isValid = false
  transport : (allocateScanned server ss m).transport ≠ 0
  clean : (allocateScanned server ss m).scan.Clean
  compatible : ¬ ((allocateScanned server ss m).transport = transportTcp ∧
    ((allocateScanned server ss m).dontFragment = true ∨ (allocateScanned server ss m).inReservationToken ≠ 0 ∨
      (allocateScanned server ss m).evenPort ≠ -1))
  quota : ss.quotaUsed = true ∨ ¬ (server.longTerm = true ∧ ss.originSet = false) ∧
    env.quota (allocateScanned server ss m).username ss.oauth ss.realm.name = true
  bandwidth : limitBps ss.realm.maxBps (allocateScanned server ss m).bps = 0 ∨ ss.bps ≠ 0 ∨
    env.allocateBps (limitBps ss.realm.maxBps (allocateScanned server ss m).bps) ≠ 0
  supported : ¬ (((allocateScanned server ss m).af4 = true ∧ (allocateScanned server ss m).af6 = true) ∧
    (0 < (allocateScanned server ss m).evenPort ∨ server.externalIpSet = true))

/-- A new Allocate of both families, of which exactly one gets a relay socket. -/
structure HalfDual (server : TurnServer) (env : Env) (ss : SuperSession) (m : Request) : Prop where
  admitted : Admitted server env ss m
  families : (allocateScanned server ss m).af4 = true ∧ (allocateScanned server ss m).af6 = true
  connected : ss.connected = true
  half : relayFails env (allocateScanned server ss m) .inet ≠ relayFails env (allocateScanned server ss m) .inet6

section Steps

variable (server : TurnServer) (env : Env)
variable (ss : SuperSession) (m : Request) (s : AllocateScan) (errCode bps lifetime : Nat) (reason : Option String)
  (username : List UInt8)

theorem incQuota_granted :
    (incQuota server env ss username).1 = true ↔ ss.quotaUsed = true ∨
      ¬ (server.longTerm = true ∧ ss.originSet = false) ∧ env.quota username ss.oauth ss.realm.name = true := by
  unfold incQuota
  by_cases used : ss.quotaUsed = true
  · simp [used]
  · rw [if_neg used]
    by_cases early : server.longTerm = true ∧ ss.originSet = false
    · simp [used, early]
    · rw [if_neg early]
      cases env.quota username ss.oauth ss.realm.name <;> simp [used, early]

theorem incQuota_frame :
    (incQuota server env ss username).2.client = ss.client ∧ (incQuota server env ss username).2.realm = ss.realm ∧
      (incQuota server env ss username).2.bps = ss.bps := by
  unfold incQuota
  split
  · exact ⟨rfl, rfl, rfl⟩
  · split
    · exact ⟨rfl, rfl, rfl⟩
    · split <;> exact ⟨rfl, rfl, rfl⟩

theorem allocateBandwidth_enough :
    (allocateBandwidth env ss bps).2 = true ↔ limitBps ss.realm.maxBps bps = 0 ∨ ss.bps ≠ 0 ∨
      env.allocateBps (limitBps ss.realm.maxBps bps) ≠ 0 := by
  unfold allocateBandwidth
  by_cases asked : limitBps ss.realm.maxBps bps ≠ 0 ∧ ss.bps = 0
  · simp [asked]
  · have spare : limitBps ss.realm.maxBps bps = 0 ∨ ss.bps ≠ 0 := by
      by_cases none : limitBps ss.realm.maxBps bps = 0
      · exact .inl none
      · exact .inr (fun unset => asked ⟨none, unset⟩)
    rw [if_neg asked]
    rcases spare with none | set
    · simp [none]
    · simp [set]

theorem allocateBandwidth_client : (allocateBandwidth env ss bps).1.client = ss.client := by
  unfold allocateBandwidth
  dsimp only
  split <;> rfl

theorem dualConflict_errCode :
    (dualConflict server s errCode reason).1 = 0 ↔ errCode = 0 ∧
      ¬ ((s.af4 = true ∧ s.af6 = true) ∧ (0 < s.evenPort ∨ server.externalIpSet = true)) := by
  unfold dualConflict
  by_cases dual : s.af4 = true ∧ s.af6 = true
  · rw [if_pos dual]
    by_cases even : 0 < s.evenPort
    · simp [even, dual]
    · cases server.externalIpSet <;> simp [even, dual]
  · rw [if_neg dual]
    simp [dual]

/-- The client socket, and what the session says about families that failed. -/
def SuperSession.standing (ss : SuperSession) : Option ClientSocket × Bool × Bool := (ss.client, ss.relayFailure4, ss.relayFailure6)

theorem setRelaySession_standing (family : Family) (r : RelayEndpointSession) :
    (setRelaySession ss family r).standing = ss.standing := by
  cases family <;> rfl

theorem startRelay_spec (r : RelaySocket) (lifetime : Nat) :
    (startRelay server env ss r lifetime).1.standing = ss.standing ∧
      (startRelay server env ss r lifetime).2.failed = (!r.tcp && !env.registerCallback) ∧
      (startRelay server env ss r lifetime).2.errCode = 0 := by
  unfold startRelay
  by_cases unregistered : r.tcp = false ∧ env.registerCallback = false
  · rw [if_pos unregistered]
    exact ⟨rfl, by simp [unregistered], rfl⟩
  · rw [if_neg unregistered]
    refine ⟨setRelaySession_standing _ _ _, ?_, rfl⟩
    cases tcp : r.tcp <;> cases registered : env.registerCallback <;> simp_all [RelayResult.ok]

theorem createRelayConnection_spec (family : Family) :
    (createRelayConnection server env ss lifetime (some family) s.transport s.evenPort s.inReservationToken).1.standing =
        ss.standing ∧
      (createRelayConnection server env ss lifetime (some family) s.transport s.evenPort s.inReservationToken).2.failed =
        (ss.connected && relayFails env s family) ∧
      ((createRelayConnection server env ss lifetime (some family) s.transport s.evenPort s.inReservationToken).2.failed =
          false →
        (createRelayConnection server env ss lifetime (some family) s.transport s.evenPort s.inReservationToken).2.errCode =
          0) := by
  unfold createRelayConnection relayFails
  by_cases gone : ss.connected = false
  · rw [if_pos gone]
    simp [gone, RelayResult.ok]
  · rw [if_neg gone]
    rw [Bool.not_eq_false] at gone
    rw [gone]
    by_cases token : s.inReservationToken ≠ 0
    · rw [if_pos token]
      cases env.reservedSocket s.inReservationToken with
      | none => simp [token]
      | some r =>
        dsimp only
        split
        · rename_i closed
          simp [closed]
        · rename_i opened
          obtain ⟨standing, failed, errCode⟩ := startRelay_spec server env
            (setRelaySession ss r.localAddr.family { RelayEndpointSession.zero with s := some r }) r lifetime
          rw [setRelaySession_standing] at standing
          exact ⟨standing, by simp [failed, opened], fun _ => errCode⟩
    · rw [if_neg token]
      cases env.createRelayIoaSockets (some family) s.transport.toNat s.evenPort with
      | failed errCode reason => simp [token, setRelaySession_standing]
      | opened r rtcp reservationToken =>
        dsimp only
        split
        · rename_i wrong
          simp [wrong, setRelaySession_standing]
        · rename_i right
          obtain ⟨standing, failed, errCode⟩ := startRelay_spec server env
            (setRelaySession ss (getFamily server ss.client (some family)) { RelayEndpointSession.zero with s := some r }) r
            lifetime
          rw [setRelaySession_standing] at standing
          refine ⟨standing, ?_, fun _ => errCode⟩
          have usable : (rtcp && reservationToken == 0) = false := by simpa using right
          simp [failed, usable]

theorem setRelaySessionFailure_standing (family : Family) :
    (setRelaySessionFailure ss family).client = ss.client ∧
      ((setRelaySessionFailure ss family).relayFailure4 = true ∨ (setRelaySessionFailure ss family).relayFailure6 = true) := by
  cases family
  · exact ⟨rfl, .inl rfl⟩
  · exact ⟨rfl, .inl rfl⟩
  · exact ⟨rfl, .inr rfl⟩

/-- One family of an allocation: the error code says whether it failed, and the session notes a failure. -/
theorem allocateFamily_spec (family noted : Family) {fallback : Nat} (positive : fallback ≠ 0) :
    (allocateFamily server env ss s lifetime (some family) noted fallback).1.client = ss.client ∧
      ((allocateFamily server env ss s lifetime (some family) noted fallback).2.1 ≠ 0 ↔
        ss.connected = true ∧ relayFails env s family = true) ∧
      ((ss.relayFailure4 = true ∨ ss.relayFailure6 = true) ∨
          (allocateFamily server env ss s lifetime (some family) noted fallback).2.1 ≠ 0 →
        (allocateFamily server env ss s lifetime (some family) noted fallback).1.relayFailure4 = true ∨
          (allocateFamily server env ss s lifetime (some family) noted fallback).1.relayFailure6 = true) := by
  obtain ⟨standing, failed, fine⟩ := createRelayConnection_spec server env ss s lifetime family
  have client := congrArg Prod.fst standing
  have failure4 := congrArg (fun standing => standing.2.1) standing
  have failure6 := congrArg (fun standing => standing.2.2) standing
  have asked : ss.connected = true ∧ relayFails env s family = true ↔
      (ss.connected && relayFails env s family) = true := by simp
  rw [asked, ← failed]
  unfold allocateFamily
  dsimp only
  split
  · rename_i fails
    obtain ⟨same, flagged⟩ := setRelaySessionFailure_standing (createRelayConnection server env ss lifetime (some family)
      s.transport s.evenPort s.inReservationToken).1 noted
    refine ⟨same.trans client, ?_, fun _ => flagged⟩
    have code : (if (createRelayConnection server env ss lifetime (some family) s.transport s.evenPort
        s.inReservationToken).2.errCode = 0 then fallback else (createRelayConnection server env ss lifetime (some family)
        s.transport s.evenPort s.inReservationToken).2.errCode) ≠ 0 := by
      split
      · exact positive
      · assumption
    exact ⟨fun _ => fails, fun _ => code⟩
  · rename_i opens
    have none := fine (Bool.not_eq_true _ ▸ opens)
    refine ⟨client, ⟨fun code => absurd none code, fun fails => absurd fails opens⟩, ?_⟩
    rintro (earlier | code)
    · rcases earlier with four | six
      · exact .inl (failure4.trans four)
      · exact .inr (failure6.trans six)
    · exact absurd none code

/-- An allocation that can be answered has a relay, or a failure to report. -/
def Answerable (ss : SuperSession) : Prop :=
  ss.relayFailure4 = true ∨ ss.relayFailure6 = true ∨ ss.relay4.s.isSome ∨ ss.relay6.s.isSome

theorem allocateError_errCode (unknownAttrs : List UInt16) :
    (allocateError errCode reason unknownAttrs).errCode ≠ 0 := by
  unfold allocateError
  dsimp only
  split
  · decide
  · assumption

theorem answerAllocation_errCode : (answerAllocation ss).errCode = 0 ↔ Answerable ss := by
  unfold answerAllocation Answerable
  split
  · rename_i answers
    exact ⟨fun _ => answers, fun _ => rfl⟩
  · rename_i silent
    exact ⟨fun zero => absurd zero (allocateError_errCode 0 none []), fun answers => absurd answers silent⟩

theorem allocateCharged_errCode :
    (allocateCharged server env ss m s lifetime).2.errCode = 0 ↔
      ((allocateBandwidth env ss s.bps).2 = true ∧
          ¬ ((s.af4 = true ∧ s.af6 = true) ∧ (0 < s.evenPort ∨ server.externalIpSet = true))) ∧
        (allocateRelays server env (allocateBandwidth env ss s.bps).1 s lifetime).2.1 = 0 ∧
        Answerable (allocateRelays server env (allocateBandwidth env ss s.bps).1 s lifetime).1 := by
  have enough : (bif (allocateBandwidth env ss s.bps).2 then 0 else 486) = 0 ↔ (allocateBandwidth env ss s.bps).2 = true := by
    cases (allocateBandwidth env ss s.bps).2 <;> simp
  have conflict := dualConflict_errCode server s (bif (allocateBandwidth env ss s.bps).2 then 0 else 486)
    (bif (allocateBandwidth env ss s.bps).2 then none else some "Allocation Bandwidth Quota Reached")
  rw [enough] at conflict
  rw [← conflict]
  unfold allocateCharged
  dsimp only
  split
  · rename_i refused
    exact ⟨fun zero => absurd zero (allocateError_errCode _ _ _), fun fine => absurd fine.1 refused⟩
  · rename_i allowed
    split
    · rename_i failed
      exact ⟨fun zero => absurd zero (allocateError_errCode _ _ _), fun fine => absurd fine.2.1 failed⟩
    · rename_i opened
      rw [not_not] at allowed opened
      rw [answerAllocation_errCode]
      exact ⟨fun answers => ⟨allowed, opened, answers⟩, fun fine => fine.2.2⟩

theorem allocateAccepted_errCode :
    (allocateAccepted server env ss m s).2.errCode = 0 ↔
      (ss.quotaUsed = true ∨ ¬ (server.longTerm = true ∧ ss.originSet = false) ∧
          env.quota s.username ss.oauth ss.realm.name = true) ∧
        (limitBps ss.realm.maxBps s.bps = 0 ∨ ss.bps ≠ 0 ∨ env.allocateBps (limitBps ss.realm.maxBps s.bps) ≠ 0) ∧
        ¬ ((s.af4 = true ∧ s.af6 = true) ∧ (0 < s.evenPort ∨ server.externalIpSet = true)) ∧
        (allocateRelays server env (allocateBandwidth env (incQuota server env { ss with
            mobileId := bif server.mobility && !ss.isMobile then 0 else ss.mobileId } s.username).2 s.bps).1 s
          (stunAdjustAllocateLifetime s.lifetime server.maxAllocateLifetime ss.maxSessionTimeAuth)).2.1 = 0 ∧
        Answerable (allocateRelays server env (allocateBandwidth env (incQuota server env { ss with
            mobileId := bif server.mobility && !ss.isMobile then 0 else ss.mobileId } s.username).2 s.bps).1 s
          (stunAdjustAllocateLifetime s.lifetime server.maxAllocateLifetime ss.maxSessionTimeAuth)).1 := by
  have granted := incQuota_granted server env
    { ss with mobileId := bif server.mobility && !ss.isMobile then 0 else ss.mobileId } s.username
  obtain ⟨_, realm, bps⟩ := incQuota_frame server env
    { ss with mobileId := bif server.mobility && !ss.isMobile then 0 else ss.mobileId } s.username
  have enough := allocateBandwidth_enough env (incQuota server env
    { ss with mobileId := bif server.mobility && !ss.isMobile then 0 else ss.mobileId } s.username).2 s.bps
  rw [realm, bps] at enough
  unfold allocateAccepted
  dsimp only at granted enough ⊢
  rw [← granted, ← enough]
  split
  · rename_i refused
    rw [refused]
    exact ⟨fun zero => absurd zero (allocateError_errCode _ _ _), fun fine => absurd fine.1 Bool.false_ne_true⟩
  · rename_i charged
    rw [Bool.not_eq_false] at charged
    rw [allocateCharged_errCode, charged]
    constructor
    · rintro ⟨⟨bandwidth, supported⟩, opens⟩
      exact ⟨rfl, bandwidth, supported, opens⟩
    · rintro ⟨_, bandwidth, supported, opens⟩
      exact ⟨⟨bandwidth, supported⟩, opens⟩

theorem handleTurnAllocate_errCode {ss : SuperSession} (unallocated : ss.alloc.isValid = false) :
    (handleTurnAllocate server env ss m).2.errCode = 0 ↔ Admitted server env ss m ∧
      (allocateRelays server env (chargedSession server env ss m) (allocateScanned server ss m)
        (allocateLifetime server ss m)).2.1 = 0 ∧
      Answerable (allocateRelays server env (chargedSession server env ss m) (allocateScanned server ss m)
        (allocateLifetime server ss m)).1 := by
  have fresh : ¬ ss.alloc.isValid = true := by rw [unallocated]; decide
  unfold handleTurnAllocate
  rw [if_neg fresh]
  change (allocateChecked server env _ m (allocateScanned server ss m)).2.errCode = 0 ↔ _
  unfold allocateChecked
  split
  · rename_i missing
    exact ⟨fun zero => absurd zero (allocateError_errCode _ _ _), fun fine => absurd missing fine.1.transport⟩
  · rename_i transport
    split
    · rename_i unknown
      exact ⟨fun zero => absurd zero (allocateError_errCode _ _ _), fun fine => absurd fine.1.clean.2 unknown⟩
    · rename_i known
      split
      · rename_i failed
        exact ⟨fun zero => absurd zero (allocateError_errCode _ _ _), fun fine => absurd fine.1.clean.1 failed⟩
      · rename_i accepted
        split
        · rename_i wrong
          exact ⟨fun zero => absurd zero (allocateError_errCode _ _ _), fun fine => absurd wrong fine.1.compatible⟩
        · rename_i compatible
          rw [allocateAccepted_errCode]
          constructor
          · rintro ⟨quota, bandwidth, supported, opens⟩
            exact ⟨⟨unallocated, transport, ⟨not_not.mp accepted, not_not.mp known⟩, compatible, quota, bandwidth, supported⟩,
              opens⟩
          · rintro ⟨admitted, opens⟩
            exact ⟨admitted.quota, admitted.bandwidth, admitted.supported, opens⟩

/-- Both families at once: a success reports an error exactly if one of the two fails, and the
session notes it. -/
theorem allocateRelays_dual {s : AllocateScan} (families : s.af4 = true ∧ s.af6 = true) :
    ((dualErrors server env ss s lifetime).1 ≠ 0 ∨ (dualErrors server env ss s lifetime).2 ≠ 0 ↔
        ss.connected = true ∧ relayFails env s .inet ≠ relayFails env s .inet6) ∧
      ((allocateRelays server env ss s lifetime).2.1 ≠ 0 ↔
        ss.connected = true ∧ relayFails env s .inet = true ∧ relayFails env s .inet6 = true) ∧
      (ss.connected = true ∧ relayFails env s .inet ≠ relayFails env s .inet6 →
        Answerable (allocateRelays server env ss s lifetime).1) := by
  obtain ⟨client, four, flag4⟩ := allocateFamily_spec server env ss s lifetime .inet .inet (show 440 ≠ 0 by decide)
  obtain ⟨_, six, flag6⟩ := allocateFamily_spec server env
    (allocateFamily server env ss s lifetime (some .inet) .inet 440).1 s lifetime .inet6 .inet6 (show 440 ≠ 0 by decide)
  rw [SuperSession.connected_congr client] at six
  unfold dualErrors allocateRelays
  rw [families.1, families.2]
  dsimp only
  by_cases both : (allocateFamily server env ss s lifetime (some .inet) .inet 440).2.1 ≠ 0 ∧ (allocateFamily server env
      (allocateFamily server env ss s lifetime (some .inet) .inet 440).1 s lifetime (some .inet6) .inet6 440).2.1 ≠ 0
  · obtain ⟨connected, fails4⟩ := four.mp both.1
    have fails6 := (six.mp both.2).2
    rw [if_pos both, if_pos both, fails4, fails6]
    refine ⟨by simp, ⟨fun _ => ⟨connected, rfl, rfl⟩, fun _ => ?_⟩, by simp⟩
    split
    · exact both.1
    · exact both.2
    · exact both.1
  · rw [if_neg both, if_neg both]
    rw [four, six] at both
    refine ⟨?_, ?_, ?_⟩
    · rw [four, six]
      revert both
      cases ss.connected <;> cases relayFails env s .inet <;> cases relayFails env s .inet6 <;> simp
    · exact ⟨fun code => absurd rfl code, fun fails => absurd ⟨⟨fails.1, fails.2.1⟩, fails.1, fails.2.2⟩ both⟩
    · rintro ⟨connected, half⟩
      have flagged := flag6 (by
        cases fails4 : relayFails env s .inet with
        | true => exact .inl (flag4 (.inr (four.mpr ⟨connected, fails4⟩)))
        | false =>
          rw [fails4] at half
          exact .inr (six.mpr ⟨connected, Bool.eq_true_of_not_eq_false half.symm⟩))
      exact flagged.imp_right .inl

end Steps

variable (server : TurnServer) (env : Env) (ss : SuperSession)

theorem chargedSession_client (m : Request) : (chargedSession server env ss m).client = ss.client := by
  unfold chargedSession
  dsimp only
  rw [allocateBandwidth_client]
  exact (incQuota_frame server env _ _).1

theorem dualErrors_single {s : AllocateScan} (lifetime : Nat) (single : ¬ (s.af4 = true ∧ s.af6 = true)) :
    dualErrors server env ss s lifetime = (0, 0) := by
  unfold dualErrors
  split
  · rename_i four six
    exact absurd ⟨four, six⟩ single
  · rfl

theorem addressErrors_iff (m : Request) :
    ((handleTurnAllocate server env ss m).2.errCode = 0 ∧
        ((addressErrors server env ss m).1 ≠ 0 ∨ (addressErrors server env ss m).2 ≠ 0)) ↔
      HalfDual server env ss m := by
  by_cases repeated : ss.alloc.isValid = true
  · constructor
    · rintro ⟨_, codes⟩
      simp [addressErrors, repeated] at codes
    · intro half
      rw [half.admitted.unallocated] at repeated
      cases repeated
  · have unallocated : ss.alloc.isValid = false := Bool.not_eq_true _ ▸ repeated
    have errors : addressErrors server env ss m = dualErrors server env (chargedSession server env ss m)
        (allocateScanned server ss m) (allocateLifetime server ss m) := if_neg repeated
    rw [handleTurnAllocate_errCode server env m unallocated, errors]
    by_cases families : (allocateScanned server ss m).af4 = true ∧ (allocateScanned server ss m).af6 = true
    · obtain ⟨codes, fails, noted⟩ := allocateRelays_dual server env (chargedSession server env ss m)
        (allocateLifetime server ss m) families
      rw [SuperSession.connected_congr (chargedSession_client server env ss m)] at codes fails noted
      rw [codes]
      constructor
      · rintro ⟨⟨admitted, _⟩, connected, half⟩
        exact ⟨admitted, families, connected, half⟩
      · rintro ⟨admitted, _, connected, half⟩
        refine ⟨⟨admitted, ?_, noted ⟨connected, half⟩⟩, connected, half⟩
        by_contra failed
        obtain ⟨_, fails4, fails6⟩ := fails.mp failed
        exact half (fails4.trans fails6.symm)
    · rw [dualErrors_single server env _ _ families]
      constructor
      · rintro ⟨_, codes⟩
        simp at codes
      · intro half
        exact absurd half.families families

theorem addressErrors_zero {server : TurnServer} {env : Env} {ss : SuperSession} {m : Request}
    (alike : (allocateScanned server ss m).af4 = true → (allocateScanned server ss m).af6 = true →
      relayFails env (allocateScanned server ss m) .inet = relayFails env (allocateScanned server ss m) .inet6) :
    addressErrors server env ss m = (0, 0) := by
  unfold addressErrors
  split
  · rfl
  · by_cases families : (allocateScanned server ss m).af4 = true ∧ (allocateScanned server ss m).af6 = true
    · obtain ⟨codes, _⟩ := allocateRelays_dual server env (chargedSession server env ss m) (allocateLifetime server ss m)
        families
      have none := mt codes.mp (fun half => half.2 (alike families.1 families.2))
      rw [not_or, not_not, not_not] at none
      exact Prod.ext none.1 none.2
    · exact dualErrors_single server env _ _ families

end Server
end TurnCluster
