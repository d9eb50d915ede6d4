import TurnCluster.Server.Lifetimes

namespace TurnCluster
namespace Server

def transportTcp : UInt8 := 6
def transportUdp : UInt8 := 17

/-- What the loop of `handle_turn_allocate` collects. -/
structure AllocateScan where
  scan : Scan
  /-- 0 as long as no transport was accepted. -/
  transport : UInt8
  lifetime : Nat
  evenPort : Int
  dontFragment : Bool
  inReservationToken : Nat
  af4 : Bool
  af6 : Bool
  username : List UInt8
  bps : Nat
  isMobile : Bool
  isTcpRelay : Bool
  deriving DecidableEq

namespace AllocateScan

def start (ss : SuperSession) : AllocateScan :=
  ⟨.empty, 0, 0, -1, false, 0, false, false, [], 0, ss.isMobile, ss.isTcpRelay⟩

def running (s : AllocateScan) : Bool := s.scan.running

def fail (s : AllocateScan) (errCode : Nat) (reason : String) : AllocateScan :=
  { s with scan := s.scan.fail errCode reason }

/-- The name that the quota will be charged to: the last one wins. -/
def onUsername (s : AllocateScan) (a : Attribute) : AllocateScan :=
  if a.value = [] then s
  else if stunMaxUsernameSize + 1 ≤ a.value.length then s.fail 400 "User name is too long"
  else if isSecureString (cString a.value) true = false then
    { s with username := [], scan := { s.scan with errCode := 400 } }
  else { s with username := cString a.value }

def onMobilityTicket (server : TurnServer) (s : AllocateScan) (a : Attribute) : AllocateScan :=
  if server.mobility = false then s.fail 405 "Mobility Forbidden"
  else if a.value.length ≠ 0 then s.fail 400 "Wrong Mobility Field"
  else { s with isMobile := true }

def getTransportValue (value : UInt8) : UInt8 := if value = transportUdp ∨ value = transportTcp then value else 0

def onRequestedTransport (server : TurnServer) (stream : Bool) (s : AllocateScan) (a : Attribute) : AllocateScan :=
  if a.value.length ≠ 4 then s.fail 400 "Wrong Transport Field"
  else if s.transport ≠ 0 then s.fail 400 "Duplicate Transport Fields"
  else
    let transport := getTransportValue (a.value.headD 0)
    let s := { s with transport := transport }
    let s := if transport = 0 then { s with scan := { s.scan with errCode := 442 } } else s
    if transport = transportTcp ∧ server.noTcpRelay = true then
      s.fail 442 "TCP Transport is not allowed by the TURN Server configuration"
    else if transport = transportUdp ∧ server.noUdpRelay = true then
      s.fail 442 "UDP Transport is not allowed by the TURN Server configuration"
    else if transport = transportTcp ∧ stream = false then s.fail 400 "Wrong Transport Data"
    else { s with isTcpRelay := transport == transportTcp }

def onDontFragment (server : TurnServer) (s : AllocateScan) : AllocateScan :=
  let s := { s with dontFragment := true }
  if server.dontFragment then s else { s with scan := s.scan.unknown stunAttributeDontFragment }

def onLifetime (s : AllocateScan) (a : Attribute) : AllocateScan :=
  if a.value.length ≠ 4 then s.fail 400 "Wrong Lifetime Field" else { s with lifetime := a.lifetime }

def onEvenPort (s : AllocateScan) (a : Attribute) : AllocateScan :=
  if s.inReservationToken ≠ 0 then s.fail 400 "Even Port and Reservation Token cannot be used together"
  else
    let s := { s with evenPort := a.evenPort }
    if s.evenPort ≠ 0 ∧ s.af4 = true ∧ s.af6 = true then
      s.fail 400 "Even Port cannot be used with Dual Allocation"
    else s

def onReservationToken (s : AllocateScan) (a : Attribute) : AllocateScan :=
  if a.value.length ≠ 8 then s.fail 400 "Wrong Format of Reservation Token"
  else if s.af4 = true ∨ s.af6 = true then
    s.fail 400 "Address family attribute can not be used with reservation token request"
  else if 0 ≤ s.evenPort then s.fail 400 "Reservation Token cannot be used in this request with even port"
  else if s.inReservationToken ≠ 0 then s.fail 400 "Reservation Token cannot be used in this request"
  else { s with inReservationToken := a.reservationToken }

/-- REQUESTED-ADDRESS-FAMILY, and ADDITIONAL-ADDRESS-FAMILY behind its own check. -/
def onAddressFamily (additional : Bool) (s : AllocateScan) (a : Attribute) : AllocateScan :=
  if s.inReservationToken ≠ 0 then
    s.fail 400 "Address family attribute can not be used with reservation token request"
  else if s.af4 = true ∨ s.af6 = true then
    s.fail 400 "Extra address family attribute can not be used in the request"
  else
    match a.requestedAddressFamily with
    | some .inet =>
      if additional then s.fail 400 "Invalid value of the additional address family attribute"
      else { s with af4 := true }
    | some .inet6 => { s with af4 := s.af4 || additional, af6 := true }
    | _ => { s with scan := { s.scan with errCode := 440 } }

def onAdditionalAddressFamily (s : AllocateScan) (a : Attribute) : AllocateScan :=
  if 0 < s.evenPort then s.fail 400 "Even Port cannot be used with Dual Allocation"
  else s.onAddressFamily true a

/-- One turn of the loop. -/
def body (server : TurnServer) (stream : Bool) (s : AllocateScan) (a : Attribute) : AllocateScan :=
  if a.attrType = stunAttributeUsername then s.onUsername a
  else if isSkipped a.attrType then s
  else if a.attrType = stunAttributeNewBandwidth then { s with bps := a.bandwidth }
  else if a.attrType = stunAttributeMobilityTicket then s.onMobilityTicket server a
  else if a.attrType = stunAttributeRequestedTransport then s.onRequestedTransport server stream a
  else if a.attrType = stunAttributeDontFragment then s.onDontFragment server
  else if a.attrType = stunAttributeLifetime then s.onLifetime a
  else if a.attrType = stunAttributeEvenPort then s.onEvenPort a
  else if a.attrType = stunAttributeReservationToken then s.onReservationToken a
  else if a.attrType = stunAttributeAdditionalAddressFamily then s.onAdditionalAddressFamily a
  else if a.attrType = stunAttributeRequestedAddressFamily then s.onAddressFamily false a
  else { s with scan := s.scan.other a.attrType }

end AllocateScan

/-- `get_family`; `none` is the default family. -/
def getFamily (server : TurnServer) (client : Option ClientSocket) (family : Option Family) : Family :=
  match family with
  | some f => f
  | none => if server.defaultRelays = true ∧ getIoaSocketAddressFamily client = .inet6 then .inet6 else .inet

/-- What `create_relay_connection` returns besides the session. -/
structure RelayResult where
  failed : Bool
  errCode : Nat
  reason : Option String
  deriving DecidableEq, Repr

def RelayResult.ok : RelayResult := ⟨false, 0, none⟩

/-- The second half of `create_relay_connection`: the relay socket is registered and gets its timer. -/
def startRelay (server : TurnServer) (env : Env) (ss : SuperSession) (s : RelaySocket) (lifetime : Nat) :
    SuperSession × RelayResult :=
  if s.tcp = false ∧ env.registerCallback = false then (ss, ⟨true, 0, none⟩)
  else
    let lifetime :=
      if lifetime < 1 then stunDefaultAllocateLifetime
      else if server.maxAllocateLifetime < lifetime then server.maxAllocateLifetime
      else lifetime
    (setAllocationLifetimeEv ss (env.ctime + lifetime) (env.ctime + lifetime) s.localAddr.family, .ok)

def createRelayConnection (server : TurnServer) (env : Env) (ss : SuperSession) (lifetime : Nat)
    (family : Option Family) (transport : UInt8) (evenPort : Int) (inReservationToken : Nat) :
    SuperSession × RelayResult :=
  if ss.connected = false then (ss, .ok)
  else if inReservationToken ≠ 0 then
    match env.reservedSocket inReservationToken with
    | none => (ss, ⟨true, 404, some "Cannot find reserved socket"⟩)
    | some s =>
      if s.toBeClosed = true then (ss, ⟨true, 404, some "Cannot find reserved socket"⟩)
      else
        startRelay server env (setRelaySession ss s.localAddr.family { RelayEndpointSession.zero with s := some s }) s
          lifetime
  else
    let f := getFamily server ss.client family
    match env.createRelayIoaSockets family transport.toNat evenPort with
    | .failed errCode reason =>
      (setRelaySession ss f .zero, ⟨true, if errCode = 0 then 508 else errCode, reason.getD "Cannot create socket"⟩)
    | .opened s rtcp reservationToken =>
      if rtcp = true ∧ reservationToken = 0 then
        (setRelaySession ss f .zero, ⟨true, 500, some "Wrong reservation tokens (internal error)"⟩)
      else startRelay server env (setRelaySession ss f { RelayEndpointSession.zero with s := some s }) s lifetime

/-- One family of an allocation: a failure is noted in the session. -/
def allocateFamily (server : TurnServer) (env : Env) (ss : SuperSession) (s : AllocateScan) (lifetime : Nat)
    (family : Option Family) (noted : Family) (fallback : Nat) : SuperSession × Nat × Option String :=
  let (ss, result) := createRelayConnection server env ss lifetime family s.transport s.evenPort s.inReservationToken
  if result.failed = true then
    (setRelaySessionFailure ss noted, if result.errCode = 0 then fallback else result.errCode, result.reason)
  else (ss, result.errCode, result.reason)

/-- The family that is asked for when the request names none. -/
def defaultFamily (server : TurnServer) (client : Option ClientSocket) : Option Family :=
  if server.keepAddressFamily = true then
    match getIoaSocketAddressFamily client with
    | .inet6 => some .inet6
    | .inet => some .inet
    | .unspec => none
  else none

/-- The relay sockets of an allocation: error code, reason and session. -/
def allocateRelays (server : TurnServer) (env : Env) (ss : SuperSession) (s : AllocateScan) (lifetime : Nat) :
    SuperSession × Nat × Option String :=
  match s.af4, s.af6 with
  | false, false => allocateFamily server env ss s lifetime (defaultFamily server ss.client) .inet 437
  | false, true => allocateFamily server env ss s lifetime (some .inet6) .inet6 437
  | true, false => allocateFamily server env ss s lifetime (some .inet) .inet 437
  | true, true =>
    let (ss, errCode4, reason4) := allocateFamily server env ss s lifetime (some .inet) .inet 440
    let (ss, errCode6, reason6) := allocateFamily server env ss s lifetime (some .inet6) .inet6 440
    if errCode4 ≠ 0 ∧ errCode6 ≠ 0 then
      match reason4, reason6 with
      | some reason, _ => (ss, errCode4, some reason)
      | none, some reason => (ss, errCode6, some reason)
      | none, none => (ss, errCode4, none)
    else (ss, 0, none)

/-- The realm's limit, where it is lower than what the request asks for. -/
def limitBps (maxBps bps : Nat) : Nat := if maxBps ≠ 0 ∧ (bps = 0 ∨ maxBps < bps) then maxBps else bps

/-- The bandwidth of the session, and whether there is enough of it. -/
def allocateBandwidth (env : Env) (ss : SuperSession) (bps : Nat) : SuperSession × Bool :=
  let bps := limitBps ss.realm.maxBps bps
  if bps ≠ 0 ∧ ss.bps = 0 then ({ ss with bps := env.allocateBps bps }, env.allocateBps bps != 0)
  else (ss, true)

/-- Error code and reason that stand before the relay sockets are opened. -/
def dualConflict (server : TurnServer) (s : AllocateScan) (errCode : Nat) (reason : Option String) :
    Nat × Option String :=
  if s.af4 = true ∧ s.af6 = true then
    if 0 < s.evenPort then (440, some "Dual allocation cannot be supported with even-port functionality")
    else if server.externalIpSet = true then
      (440, some "Dual allocation cannot be supported in the current server configuration")
    else (errCode, reason)
  else (errCode, reason)

def allocateError (errCode : Nat) (reason : Option String) (unknownAttrs : List UInt16) : Reply :=
  ⟨if errCode = 0 then 437 else errCode, reason, true, false, unknownAttrs⟩

/-- The response is built if the session has a relay or knows why it has none. -/
def answerAllocation (ss : SuperSession) : Reply :=
  if ss.relayFailure4 = true ∨ ss.relayFailure6 = true ∨ ss.relay4.s.isSome ∨ ss.relay6.s.isSome then
    ⟨0, none, true, false, []⟩
  else allocateError 0 none []

/-- The user is charged: bandwidth and relay sockets follow. -/
def allocateCharged (server : TurnServer) (env : Env) (ss : SuperSession) (m : Request) (s : AllocateScan)
    (lifetime : Nat) : SuperSession × Reply :=
  let (ss, enough) := allocateBandwidth env ss s.bps
  let (errCode, reason) := dualConflict server s (bif enough then 0 else 486)
    (bif enough then none else some "Allocation Bandwidth Quota Reached")
  if errCode ≠ 0 then (ss, allocateError errCode reason [])
  else
    let (ss, errCode, reason) := allocateRelays server env ss s lifetime
    if errCode ≠ 0 then (ss, allocateError errCode (some (reason.getD "Cannot create relay endpoint(s)")) [])
    else
      let ss := { ss with alloc := { ss.alloc with isValid := true, tid := m.tid } }
      (ss, answerAllocation ss)

/-- The allocation proper, once the attributes are accepted. -/
def allocateAccepted (server : TurnServer) (env : Env) (ss : SuperSession) (m : Request) (s : AllocateScan) :
    SuperSession × Reply :=
  let ss := { ss with mobileId := bif server.mobility && !ss.isMobile then 0 else ss.mobileId }
  let lifetime := stunAdjustAllocateLifetime s.lifetime server.maxAllocateLifetime ss.maxSessionTimeAuth
  let (granted, ss) := incQuota server env ss s.username
  if granted = false then (ss, allocateError 486 none []) else allocateCharged server env ss m s lifetime

/-- The checks between the loop and the allocation. -/
def allocateChecked (server : TurnServer) (env : Env) (ss : SuperSession) (m : Request) (s : AllocateScan) :
    SuperSession × Reply :=
  if s.transport = 0 then
    (ss, allocateError 400 (some (s.scan.reason.getD "Transport field missed or wrong")) s.scan.unknownAttrs)
  else if s.scan.unknownAttrs ≠ [] then (ss, allocateError 420 s.scan.reason s.scan.unknownAttrs)
  else if s.scan.errCode ≠ 0 then (ss, allocateError s.scan.errCode s.scan.reason [])
  else if s.transport = transportTcp ∧ (s.dontFragment = true ∨ s.inReservationToken ≠ 0 ∨ s.evenPort ≠ -1) then
    (ss, allocateError 400 (some (s.scan.reason.getD "Request parameters are incompatible with TCP transport")) [])
  else allocateAccepted server env ss m s

/-- A repeated Allocate is answered from the session, whatever it asks for. -/
def handleTurnAllocate (server : TurnServer) (env : Env) (ss : SuperSession) (m : Request) : SuperSession × Reply :=
  if ss.alloc.isValid = true then (ss, answerAllocation ss)
  else
    let s := scanAttrs AllocateScan.running (AllocateScan.body server ss.stream) (.start ss) m.attrs
    allocateChecked server env { ss with isMobile := s.isMobile, isTcpRelay := s.isTcpRelay } m s

end Server
end TurnCluster
