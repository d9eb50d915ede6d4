import TurnCluster.Server.Allocation
import TurnCluster.Stun.Attribute

namespace TurnCluster
namespace Server

/-- The part of `realm_options_t` that sessions read. -/
structure RealmOptions where
  name : List UInt8
  maxBps : Nat
  deriving DecidableEq, Repr

structure ClientSocket where
  family : Family
  /-- A TCP, TLS or SCTP socket. -/
  stream : Bool
  toBeClosed : Bool
  deriving DecidableEq, Repr

structure RelaySocket where
  localAddr : IoaAddr
  tcp : Bool
  toBeClosed : Bool
  deriving DecidableEq, Repr

structure RelayEndpointSession where
  s : Option RelaySocket
  expirationTime : Nat
  /-- Time at which the running timer fires, if one is set. -/
  lifetimeEv : Option Nat
  deriving DecidableEq, Repr

def RelayEndpointSession.zero : RelayEndpointSession := ⟨none, 0, none⟩

/-- `ts_ur_super_session` with its allocation; counters for statistics are left out. -/
structure SuperSession where
  id : Nat
  /-- `client_socket`, which is NULL once a mobile client has been shut down without force. -/
  client : Option ClientSocket
  alloc : Allocation
  relay4 : RelayEndpointSession
  relay6 : RelayEndpointSession
  relayFailure4 : Bool
  relayFailure6 : Bool
  isTcpRelay : Bool
  toBeClosed : Bool
  nonce : List UInt8
  nonceExpirationTime : Nat
  username : List UInt8
  hmackey : List UInt8
  hmackeySet : Bool
  pwd : List UInt8
  /-- The key came with an OAuth token. -/
  oauth : Bool
  quotaUsed : Bool
  maxSessionTimeAuth : Nat
  realm : RealmOptions
  originSet : Bool
  origin : List UInt8
  isMobile : Bool
  mobileId : Nat
  oldMobileId : Nat
  bps : Nat

namespace SuperSession

/-- `ioa_socket_tobeclosed` of the client's socket, which is 0 for NULL. -/
def clientToBeClosed (ss : SuperSession) : Bool := ss.client.any (·.toBeClosed)

/-- The client has a socket that is not to be closed. -/
def connected (ss : SuperSession) : Bool := ss.client.any (fun s => !s.toBeClosed)

/-- Whether requests are neither read nor answered any more. -/
def closing (ss : SuperSession) : Bool := ss.toBeClosed || !ss.connected

/-- The client's socket is one of TCP, TLS or SCTP. -/
def stream (ss : SuperSession) : Bool := ss.client.any (·.stream)

theorem connected_congr {ss ss' : SuperSession} (client : ss'.client = ss.client) : ss'.connected = ss.connected := by
  unfold connected
  rw [client]

end SuperSession

/-- `get_ioa_socket_address_family`, which is `AF_INET` for NULL. -/
def getIoaSocketAddressFamily (s : Option ClientSocket) : Family := (s.map (·.family)).getD .inet

/-- `turn_turnserver`: what is configured. -/
structure TurnServer where
  id : Nat
  /-- `ct` is `TURN_CREDENTIALS_LONG_TERM`. -/
  longTerm : Bool
  noStun : Bool
  stunOnly : Bool
  secureStun : Bool
  oauth : Bool
  oauthServerName : List UInt8
  mobility : Bool
  checkOrigin : Bool
  noTcpRelay : Bool
  noUdpRelay : Bool
  dontFragment : Bool
  externalIpSet : Bool
  keepAddressFamily : Bool
  defaultRelays : Bool
  sendSocketToRelay : Bool
  maxAllocateLifetime : Nat
  channelLifetime : Nat
  permissionLifetime : Nat
  staleNonce : Nat
  mapping : AddrMapping
  defaultRealm : RealmOptions
  /-- SHA-1 HMAC of a message under a key. -/
  hmac : List UInt8 → List UInt8 → List UInt8
  stringToMobileId : List UInt8 → Nat

/-- `create_new_ss`, with the socket that the client is then given. -/
def createNewSs (server : TurnServer) (id : Nat) (client : ClientSocket) : SuperSession where
  id := id
  client := some client
  alloc := initAllocation
  relay4 := .zero
  relay6 := .zero
  relayFailure4 := false
  relayFailure6 := false
  isTcpRelay := false
  toBeClosed := false
  nonce := []
  nonceExpirationTime := 0
  username := []
  hmackey := []
  hmackeySet := false
  pwd := []
  oauth := false
  quotaUsed := false
  maxSessionTimeAuth := 0
  realm := server.defaultRealm
  originSet := false
  origin := []
  isMobile := false
  mobileId := 0
  oldMobileId := 0
  bps := 0

/-- What comes of an attempt to open relay sockets. -/
inductive SocketOutcome
  | failed (errCode : Nat) (reason : Option String)
  | opened (s : RelaySocket) (rtcp : Bool) (reservationToken : Nat)

/-- What the surroundings of a server answer while it handles one message. -/
structure Env where
  ctime : Nat
  randomNonce : List UInt8
  randomMobileId : Nat
  /-- `chquotacb` lets the user of a realm, or the OAuth sessions of the realm, have one more allocation. -/
  quota : List UInt8 → Bool → List UInt8 → Bool
  maxBps : List UInt8 → Nat
  originToRealm : List UInt8 → Option (List UInt8)
  canonicOrigin : List UInt8 → List UInt8
  goodPeerAddr : List UInt8 → IoaAddr → Bool
  /-- An alternate server takes the next Allocate. -/
  redirect : Bool
  allocateBps : Nat → Nat
  reservedSocket : Nat → Option RelaySocket
  createRelayIoaSockets : Option Family → Nat → Int → SocketOutcome
  registerCallback : Bool
  detachSocket : Bool
  attachSocket : Bool
  sendSocket : Bool

def getRealmOptionsByName (server : TurnServer) (env : Env) (name : List UInt8) : RealmOptions :=
  if name = [] then server.defaultRealm else ⟨name.take stunMaxRealmSize, env.maxBps name⟩

/-- `get_realm_options_by_origin`: whether the origin is known, and the options of its realm. -/
def getRealmOptionsByOrigin (server : TurnServer) (env : Env) (origin : List UInt8) : Bool × RealmOptions :=
  match env.originToRealm origin with
  | some name => (true, getRealmOptionsByName server env name)
  | none => (false, server.defaultRealm)

/-- A success also writes the name that was charged into the session. -/
def incQuota (server : TurnServer) (env : Env) (ss : SuperSession) (username : List UInt8) : Bool × SuperSession :=
  if ss.quotaUsed = true then (true, ss)
  else if server.longTerm = true ∧ ss.originSet = false then (false, ss)
  else if env.quota username ss.oauth ss.realm.name = false then (false, ss)
  else (true, { ss with username := username, quotaUsed := true })

def decQuota (ss : SuperSession) : SuperSession := { ss with quotaUsed := false }

/-- What a handler leaves for the response. -/
structure Reply where
  errCode : Nat
  reason : Option String
  respConstructed : Bool
  noResponse : Bool
  unknownAttrs : List UInt16
  deriving DecidableEq, Repr

def Reply.empty : Reply := ⟨0, none, false, false, []⟩

/-- Whether the handlers still run. -/
def Reply.goesOn (r : Reply) : Bool := r.errCode == 0 && !r.respConstructed && !r.noResponse

/-- The families that `ALLOC_INDEX` sends to the same place. -/
def SameIndex (f g : Family) : Prop := f = .inet6 ↔ g = .inet6

instance (f g : Family) : Decidable (SameIndex f g) := inferInstanceAs (Decidable (_ ↔ _))

def getRelaySession (ss : SuperSession) (family : Family) : RelayEndpointSession :=
  match family with
  | .inet6 => ss.relay6
  | _ => ss.relay4

def setRelaySession (ss : SuperSession) (family : Family) (r : RelayEndpointSession) : SuperSession :=
  match family with
  | .inet6 => { ss with relay6 := r }
  | _ => { ss with relay4 := r }

def setRelaySessionFailure (ss : SuperSession) (family : Family) : SuperSession :=
  match family with
  | .inet6 => { ss with relayFailure6 := true }
  | _ => { ss with relayFailure4 := true }

def setAllocationLifetimeEv (ss : SuperSession) (expTime ev : Nat) (family : Family) : SuperSession :=
  setRelaySession ss family
    { getRelaySession ss family with expirationTime := expTime, lifetimeEv := some ev }

/-- A request as it lies in its buffer. -/
structure Request where
  buf : Memory
  len : Nat

namespace Request

def method (m : Request) : UInt16 := stunGetMethodStr m.buf m.len
def tid (m : Request) : List UInt8 := stunTidFromMessageStr m.buf
def attrs (m : Request) : List Attribute := attributes m.buf m.len

end Request

/-- The loops over attributes that stop at an error or when too many attributes are unknown. -/
def scanAttrs {σ : Type} (running : σ → Bool) (body : σ → Attribute → σ) : σ → List Attribute → σ
  | s, [] => s
  | s, a :: rest => if running s then scanAttrs running body (body s a) rest else s

theorem scanAttrs_stopped {σ : Type} {running : σ → Bool} (body : σ → Attribute → σ) {s : σ}
    (stopped : running s = false) (attrs : List Attribute) : scanAttrs running body s attrs = s := by
  cases attrs with
  | nil => rfl
  | cons a rest => rw [scanAttrs, stopped]; rfl

theorem scanAttrs_passed {σ : Type} {running : σ → Bool} {body : σ → Attribute → σ} {P : List Attribute → σ → Prop}
    (step : ∀ seen s a, running s = true → P seen s → P (seen ++ [a]) (body s a)) {seen : List Attribute} {s : σ}
    (start : P seen s) (attrs : List Attribute) :
    ∃ passed rest, attrs = passed ++ rest ∧ P (seen ++ passed) (scanAttrs running body s attrs) ∧
      (rest = [] ∨ running (scanAttrs running body s attrs) = false) := by
  induction attrs generalizing seen s with
  | nil => exact ⟨[], [], rfl, by rw [List.append_nil]; exact start, Or.inl rfl⟩
  | cons a attrs ih =>
    cases goes : running s with
    | false =>
      rw [scanAttrs_stopped body goes]
      exact ⟨[], a :: attrs, rfl, by rw [List.append_nil]; exact start, Or.inr goes⟩
    | true =>
      obtain ⟨passed, rest, split, holds, ended⟩ := ih (step seen s a goes start)
      have turn : scanAttrs running body s (a :: attrs) = scanAttrs running body (body s a) attrs := by
        rw [scanAttrs, if_pos goes]
      rw [turn]
      refine ⟨a :: passed, rest, by rw [split]; rfl, ?_, ended⟩
      rw [List.append_assoc] at holds
      exact holds

def maxNumberOfUnknownAttrs : Nat := 128

/-- The types that `SKIP_ATTRIBUTES` passes over. -/
def isSkipped (attrType : UInt16) : Bool :=
  attrType == stunAttributeOauthAccessToken || attrType == stunAttributePriority ||
    attrType == stunAttributeFingerprint || attrType == stunAttributeMessageIntegrity ||
    attrType == stunAttributeUsername || attrType == stunAttributeRealm ||
    attrType == stunAttributeNonce || attrType == stunAttributeOrigin

/-- The result codes a loop over attributes carries along. -/
structure Scan where
  errCode : Nat
  reason : Option String
  unknownAttrs : List UInt16
  deriving DecidableEq, Repr

namespace Scan

def empty : Scan := ⟨0, none, []⟩

def running (s : Scan) : Bool := s.errCode == 0 && decide (s.unknownAttrs.length < maxNumberOfUnknownAttrs)

def fail (s : Scan) (errCode : Nat) (reason : String) : Scan := { s with errCode := errCode, reason := some reason }

def unknown (s : Scan) (attrType : UInt16) : Scan := { s with unknownAttrs := s.unknownAttrs ++ [attrType] }

/-- The default case: an attribute that must be understood is noted. -/
def other (s : Scan) (attrType : UInt16) : Scan := if attrType ≤ 0x7FFF then s.unknown attrType else s

def reply (s : Scan) : Reply := ⟨s.errCode, s.reason, false, false, s.unknownAttrs⟩

end Scan
end Server
end TurnCluster
