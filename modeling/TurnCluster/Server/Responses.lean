import TurnCluster.Server.Draft
import TurnCluster.Server.Reflexive

namespace TurnCluster
namespace Server

def stunAttributeErrorCode : UInt16 := 0x0009
def stunAttributeUnknownAttributes : UInt16 := 0x000A
def stunAttributeConnectionId : UInt16 := 0x002A
def stunAttributeAlternateServer : UInt16 := 0x8023
def stunAttributeThirdPartyAuthorization : UInt16 := 0x802E
def oldStunAttributeSourceAddress : UInt16 := 0x0004
def oldStunAttributeChangedAddress : UInt16 := 0x0005
def oldStunAttributeReflectedFrom : UInt16 := 0x000B
def oldStunAttributeServer : UInt16 := stunAttributeSoftware

def stunMakeErrorResponse (method : UInt16) : UInt16 := stunMakeType method ||| 0x0110

/-- What Connect comes to; how it deals with TCP relays is left open. -/
structure TcpOutcome where
  errCode : Nat
  reason : Option String
  unknownAttrs : List UInt16
  /-- `to_be_closed` of the session afterwards. -/
  closing : Bool
  /-- The session has no client socket afterwards, or one that is to be closed. -/
  detached : Bool

/-- What the functions that write responses read besides the session. -/
structure Responder where
  server : TurnServer
  sur : Surroundings
  socket : Listener.IoaSocket
  /-- The server that `set_alternate_server` chooses. -/
  alternate : IoaAddr
  tcp : TcpOutcome
  header : StunCustomHeader

namespace Draft

def initSuccess (d : Draft) (method : UInt16) (tid : List UInt8) : Draft × Nat :=
  d.init (stunMakeSuccessResponse method) tid stunMagicCookie

/-- `stun_init_error_response_str` and, with the cookie of the request, `old_stun_init_error_response_str`. -/
def initError (d : Draft) (method : UInt16) (errorCode : Nat) (reason : Option String) (tid : List UInt8)
    (cookie : UInt32) : Draft × Nat :=
  let (d, len) := d.init (stunMakeErrorResponse method) tid cookie
  let reason := match reason with
    | none | some "Unknown error" => getDefaultReason errorCode
    | some reason => reason
  d.addStr len stunAttributeErrorCode (errorCodeValue 0 errorCode reason)

/-- The block that adds to a finished message with `ioa_network_buffer_get_size_origin`. -/
def addWhole (d : Draft) (call : StunBuffer → Nat → Nat → StunBuffer × Nat) : Draft :=
  let (d, len) := d.add d.nbh.getSizeOrigin call
  d.setSize len

/-- The same block with `ioa_network_buffer_get_size`. -/
def addShort (d : Draft) (call : StunBuffer → Nat → Nat → StunBuffer × Nat) : Draft :=
  let (d, len) := d.add d.nbh.getSize call
  d.setSize len

def addAddrOption (mapping : AddrMapping) (d : Draft) (len : Nat) (attr : UInt16) (ca : Option IoaAddr) : Draft × Nat :=
  match ca with
  | none => (d, len)
  | some ca => d.addAddr mapping len attr ca

def addAll (d : Draft) (len : Nat) (attrs : List Attribute) : Draft × Nat :=
  attrs.foldl (fun (d, len) a => d.addStr len a.attrType a.value) (d, len)

def addAddrs (mapping : AddrMapping) (d : Draft) (len : Nat) (addrs : List (UInt16 × IoaAddr)) : Draft × Nat :=
  addrs.foldl (fun (d, len) a => d.addAddr mapping len a.1 a.2) (d, len)

/-- A success response without attributes. -/
def success (d : Draft) (method : UInt16) (tid : List UInt8) : Draft :=
  let (d, len) := d.initSuccess method tid
  d.setSize len

def error (d : Draft) (method : UInt16) (errorCode : Nat) (reason : Option String) (tid : List UInt8)
    (cookie : UInt32) : Draft :=
  let (d, len) := d.initError method errorCode reason tid cookie
  d.setSize len

/-- The 420 that lists the attributes a request should not have. -/
def unknownAttributes (d : Draft) (method : UInt16) (unknownAttrs : List UInt16) (tid : List UInt8) (cookie : UInt32) :
    Draft :=
  let (d, len) := d.initError method 420 none tid cookie
  let (d, len) := d.addStr len stunAttributeUnknownAttributes (unknownAttrs.flatMap (fun t => bytes16 (nswap16 t)))
  d.setSize len

/-- The name of the OAuth server in a challenge: that of the realm, if none is configured. -/
def oauthName (server : TurnServer) (ss : SuperSession) : List UInt8 :=
  if server.oauthServerName = [] then ss.realm.name else server.oauthServerName

/-- `create_challenge_response`; a nonce has 16 bytes. -/
def challenge (d : Draft) (server : TurnServer) (ss : SuperSession) (method : UInt16) (tid : List UInt8) : Draft :=
  let (d, len) := d.initError method 401 none tid stunMagicCookie
  let (d, len) := d.addStr len stunAttributeNonce ((ss.nonce ++ List.replicate 16 0).take 16)
  let (d, len) := d.addStr len stunAttributeRealm ss.realm.name
  let (d, len) :=
    if server.oauth = true then d.addStr len stunAttributeThirdPartyAuthorization (oauthName server ss) else (d, len)
  d.setSize len

variable {d : Draft} {len : Nat}

theorem Growing.addStr (growing : d.Growing len) (attr : UInt16) (value : List UInt8) :
    (d.addStr len attr value).1.Growing (d.addStr len attr value).2 :=
  growing.add (appending_bytes attr value)

theorem Growing.addAddr (growing : d.Growing len) (mapping : AddrMapping) (attr : UInt16) (ca : IoaAddr) :
    (d.addAddr mapping len attr ca).1.Growing (d.addAddr mapping len attr ca).2 :=
  growing.add (appending_addr mapping attr ca)

theorem Growing.addAddrOption (growing : d.Growing len) (mapping : AddrMapping) (attr : UInt16) (ca : Option IoaAddr) :
    (d.addAddrOption mapping len attr ca).1.Growing (d.addAddrOption mapping len attr ca).2 := by
  cases ca with
  | none => exact growing
  | some ca => exact growing.addAddr mapping attr ca

theorem Growing.addAll (growing : d.Growing len) (attrs : List Attribute) :
    (d.addAll len attrs).1.Growing (d.addAll len attrs).2 := by
  induction attrs generalizing d len with
  | nil => exact growing
  | cons a rest later => exact later (growing.addStr a.attrType a.value)

theorem Growing.addAddrs (growing : d.Growing len) (mapping : AddrMapping) (addrs : List (UInt16 × IoaAddr)) :
    (d.addAddrs mapping len addrs).1.Growing (d.addAddrs mapping len addrs).2 := by
  induction addrs generalizing d len with
  | nil => exact growing
  | cons a rest later => exact later (growing.addAddr mapping a.1 a.2)

theorem Settled.addWhole (settled : d.Settled) {call : StunBuffer → Nat → Nat → StunBuffer × Nat}
    (appending : Appending call) : (d.addWhole call).Settled :=
  (settled.add appending).setSize

theorem Settled.addShort (settled : d.Settled) (call : StunBuffer → Nat → Nat → StunBuffer × Nat) :
    (d.addShort call).Spoiled :=
  (settled.spoil call).setSize _

theorem Spoiled.addShort (spoiled : d.Spoiled) (call : StunBuffer → Nat → Nat → StunBuffer × Nat) :
    (d.addShort call).Spoiled :=
  (spoiled.add d.nbh.getSize call).setSize (d.add d.nbh.getSize call).2

theorem Spoiled.addWhole (spoiled : d.Spoiled) (call : StunBuffer → Nat → Nat → StunBuffer × Nat) :
    (d.addWhole call).Spoiled :=
  (spoiled.add d.nbh.getSizeOrigin call).setSize (d.add d.nbh.getSizeOrigin call).2

theorem Spoiled.addStr (spoiled : d.Spoiled) (len : Nat) (attr : UInt16) (value : List UInt8) :
    (d.addStr len attr value).1.Spoiled :=
  spoiled.add len _

theorem Spoiled.fingerprint (spoiled : d.Spoiled) (fingerprint : Option (List UInt8 → UInt32)) (len : Nat) :
    (match fingerprint with
      | none => d
      | some nsCrc32 => (d.addFingerprint nsCrc32 len).1.setSize (d.addFingerprint nsCrc32 len).2).Spoiled := by
  cases fingerprint with
  | none => exact spoiled
  | some nsCrc32 => exact spoiled.add len (stunAttrAddFingerprintStr nsCrc32)

theorem Spoiled.initError (spoiled : d.Spoiled) (method : UInt16) (errorCode : Nat) (reason : Option String)
    (tid : List UInt8) (cookie : UInt32) : (d.initError method errorCode reason tid cookie).1.Spoiled := by
  have started : (d.init (stunMakeErrorResponse method) tid cookie).1.Spoiled := spoiled
  exact started.add _ _

theorem Spoiled.error (spoiled : d.Spoiled) (method : UInt16) (errorCode : Nat) (reason : Option String)
    (tid : List UInt8) (cookie : UInt32) : (d.error method errorCode reason tid cookie).Spoiled :=
  spoiled.initError method errorCode reason tid cookie

theorem Spoiled.unknownAttributes (spoiled : d.Spoiled) (method : UInt16) (unknownAttrs : List UInt16)
    (tid : List UInt8) (cookie : UInt32) : (d.unknownAttributes method unknownAttrs tid cookie).Spoiled :=
  (spoiled.initError method 420 none tid cookie).addStr (d.initError method 420 none tid cookie).2
    stunAttributeUnknownAttributes (unknownAttrs.flatMap (fun t => bytes16 (nswap16 t)))

theorem Clean.initSuccess (clean : d.Clean) (method : UInt16) (tid : List UInt8) :
    (d.initSuccess method tid).1.Growing (d.initSuccess method tid).2 :=
  clean.init _ tid stunMagicCookie

theorem Clean.initError (clean : d.Clean) (method : UInt16) (errorCode : Nat) (reason : Option String)
    (tid : List UInt8) (cookie : UInt32) :
    (d.initError method errorCode reason tid cookie).1.Growing (d.initError method errorCode reason tid cookie).2 :=
  (clean.init (stunMakeErrorResponse method) tid cookie).addStr stunAttributeErrorCode _

theorem Clean.success (clean : d.Clean) (method : UInt16) (tid : List UInt8) : (d.success method tid).Settled :=
  (clean.initSuccess method tid).setSize

theorem Clean.error (clean : d.Clean) (method : UInt16) (errorCode : Nat) (reason : Option String) (tid : List UInt8)
    (cookie : UInt32) : (d.error method errorCode reason tid cookie).Settled :=
  (clean.initError method errorCode reason tid cookie).setSize

theorem Clean.unknownAttributes (clean : d.Clean) (method : UInt16) (unknownAttrs : List UInt16) (tid : List UInt8)
    (cookie : UInt32) : (d.unknownAttributes method unknownAttrs tid cookie).Settled :=
  ((clean.initError method 420 none tid cookie).addStr stunAttributeUnknownAttributes _).setSize

theorem Clean.challenge (clean : d.Clean) (server : TurnServer) (ss : SuperSession) (method : UInt16)
    (tid : List UInt8) : (d.challenge server ss method tid).Settled := by
  have named := ((clean.initError method 401 none tid stunMagicCookie).addStr stunAttributeNonce
    ((ss.nonce ++ List.replicate 16 0).take 16)).addStr stunAttributeRealm ss.realm.name
  unfold Draft.challenge
  dsimp only
  split
  · exact (named.addStr stunAttributeThirdPartyAuthorization (oauthName server ss)).setSize
  · exact named.setSize

/-- The message of `set_alternate_server` that names a server. -/
def redirect (mapping : AddrMapping) (d : Draft) (method : UInt16) (reason : Option String) (tid : List UInt8)
    (addr : IoaAddr) : Draft :=
  let (d, len) := d.initError method 300 reason tid stunMagicCookie
  let (d, len) := d.addAddr mapping len stunAttributeAlternateServer addr
  d.setSize len

end Draft

namespace Responder

def env (r : Responder) : Env := r.sur.env

def mapping (r : Responder) : AddrMapping := r.server.mapping

/-- `set_alternate_server` for an Allocate that is sent elsewhere. -/
def alternateServer (r : Responder) (d : Draft) (method : UInt16) (tid : List UInt8) : Draft :=
  d.redirect r.mapping method none tid r.alternate

/-- The Allocate success, for a new allocation and for a repeated request. -/
def allocateSuccess (r : Responder) (before after : SuperSession) (m : Request) (d : Draft) : Draft :=
  let (d, len) := d.initSuccess stunMethodAllocate m.tid
  let (d, len) := d.addAddrOption r.mapping len stunAttributeXorRelayedAddress
    (relayedAddr r.server r.sur after.relayFailure4 after.relay4)
  let (d, len) := d.addAddrOption r.mapping len stunAttributeXorRelayedAddress
    (relayedAddr r.server r.sur after.relayFailure6 after.relay6)
  let (d, len) := d.addAddr r.mapping len stunAttributeXorMappedAddress r.socket.remoteAddr
  let (d, len) := d.addAll len (allocateResponseFields r.server r.sur before after m)
  d.setSize len

/-- What a new session transfer and a refresh report. -/
def lifetimeValue (lifetime : Nat) : List UInt8 := bytes32 (nswap32 (UInt32.ofNat lifetime))

/-- The success of a refresh of the session's own allocation. -/
def refreshSuccess (r : Responder) (m : Request) (lifetime : Nat) (d : Draft) : Draft :=
  let (d, len) := d.initSuccess stunMethodRefresh m.tid
  let (d, len) :=
    if r.sur.mobileId = [] then (d, len)
    else
      let (d, len) := d.addStr len stunAttributeMobilityTicket r.sur.mobileId
      (d.setSize len, len)
  let (d, len) := d.addStr len stunAttributeLifetime (lifetimeValue lifetime)
  d.setSize len

theorem alternateServer_settled (r : Responder) {d : Draft} (clean : d.Clean) (method : UInt16) (tid : List UInt8) :
    (r.alternateServer d method tid).Settled :=
  ((clean.initError method 300 none tid stunMagicCookie).addAddr r.mapping stunAttributeAlternateServer
    r.alternate).setSize

theorem allocateSuccess_settled (r : Responder) (before after : SuperSession) (m : Request) {d : Draft}
    (clean : d.Clean) : (r.allocateSuccess before after m d).Settled := by
  have relayed4 := (clean.initSuccess stunMethodAllocate m.tid).addAddrOption r.mapping stunAttributeXorRelayedAddress
    (relayedAddr r.server r.sur after.relayFailure4 after.relay4)
  have relayed6 := relayed4.addAddrOption r.mapping stunAttributeXorRelayedAddress
    (relayedAddr r.server r.sur after.relayFailure6 after.relay6)
  have mapped := relayed6.addAddr r.mapping stunAttributeXorMappedAddress r.socket.remoteAddr
  exact (mapped.addAll (allocateResponseFields r.server r.sur before after m)).setSize

theorem refreshSuccess_settled (r : Responder) (m : Request) (lifetime : Nat) {d : Draft} (clean : d.Clean) :
    (r.refreshSuccess m lifetime d).Settled := by
  have start := clean.initSuccess stunMethodRefresh m.tid
  unfold refreshSuccess
  dsimp only
  split
  · exact (start.addStr stunAttributeLifetime _).setSize
  · exact ((start.addStr stunAttributeMobilityTicket r.sur.mobileId).resize.addStr stunAttributeLifetime _).setSize

end Responder

/-- The addresses that name the origin of a Binding response; `old` is the cookie of a classic request. -/
def originAddrs (ctx : BindingContext) (s : BindingScan) (old : Option UInt32) : List (UInt16 × IoaAddr) :=
  if ctx.rfc5780 = false then
    match old with
    | some _ => [(oldStunAttributeSourceAddress, ctx.localAddr), (oldStunAttributeChangedAddress, ctx.localAddr)]
    | none => [(stunAttributeResponseOrigin, ctx.localAddr)]
  else
    match ctx.otherAddress, old with
    | none, _ => []
    | some other, some _ =>
      [(oldStunAttributeSourceAddress, responseOrigin ctx s other), (oldStunAttributeChangedAddress, other)]
    | some other, none =>
      [(stunAttributeResponseOrigin, responseOrigin ctx s other), (stunAttributeOtherAddress, other)]

/-- All addresses of a Binding response. A classic one repeats the reflexive address where the
request has a RESPONSE-ADDRESS. -/
def bindingAddrs (ctx : BindingContext) (s : BindingScan) (m : Request) (old : Option UInt32) : List (UInt16 × IoaAddr) :=
  match old with
  | none =>
    [(stunAttributeXorMappedAddress, ctx.remoteAddr), (stunAttributeMappedAddress, ctx.remoteAddr)] ++
      originAddrs ctx s none
  | some cookie =>
    let reflectedFrom := m.attrs.any (fun a => a.attrType == oldStunAttributeResponseAddress)
    (stunAttributeMappedAddress, ctx.remoteAddr) ::
      ((if reflectedFrom = true then [(oldStunAttributeReflectedFrom, ctx.remoteAddr)] else []) ++
        originAddrs ctx s (some cookie))

/-- The success response of `handle_turn_binding`. -/
def bindingSuccess (ctx : BindingContext) (m : Request) (old : Option UInt32) (d : Draft) : Draft :=
  let s := scanAttrs BindingScan.running (BindingScan.body ctx) .start m.attrs
  let (d, len) := d.init (stunMakeSuccessResponse stunMethodBinding) m.tid (old.getD stunMagicCookie)
  let (d, len) := d.addAddrs ctx.mapping len (bindingAddrs ctx s m old)
  let (d, len) :=
    if ctx.rfc5780 = true ∧ ctx.otherAddress.isSome ∧ s.padding = true then
      d.addStr len stunAttributePadding (paddingValue ctx)
    else (d, len)
  d.setSize len

theorem bindingSuccess_settled (ctx : BindingContext) (m : Request) (old : Option UInt32) {d : Draft} (clean : d.Clean) :
    (bindingSuccess ctx m old d).Settled := by
  have named := (clean.init (stunMakeSuccessResponse stunMethodBinding) m.tid (old.getD stunMagicCookie)).addAddrs
    ctx.mapping (bindingAddrs ctx (scanAttrs BindingScan.running (BindingScan.body ctx) .start m.attrs) m old)
  unfold bindingSuccess
  dsimp only
  split
  · exact (named.addStr stunAttributePadding (paddingValue ctx)).setSize
  · exact named.setSize

/-- ADDRESS-ERROR-CODE, where one family of two could not be allocated. -/
def addAddressError (d : Draft) (family : UInt8) (errCode : Nat) : Draft :=
  if errCode = 0 then d
  else d.addShort (fun b pos len => stunAttrAddAddressErrorCode b pos len family errCode)

/-- The response that `handle_turn_allocate` always builds. -/
def Responder.allocate (r : Responder) (ss : SuperSession) (m : Request) (d : Draft) : Draft :=
  let (after, reply) := handleTurnAllocate r.server r.env ss m
  if reply.errCode ≠ 0 then d.error stunMethodAllocate reply.errCode reply.reason m.tid stunMagicCookie
  else
    let (errCode4, errCode6) := addressErrors r.server r.env ss m
    addAddressError (addAddressError (r.allocateSuccess ss after m d) 1 errCode4) 2 errCode6

theorem Draft.Settled.addAddressError {d : Draft} (settled : d.Settled) (family : UInt8) {errCode : Nat}
    (some' : errCode ≠ 0) : (Server.addAddressError d family errCode).Spoiled := by
  unfold Server.addAddressError
  rw [if_neg some']
  exact settled.addShort _

theorem Draft.Spoiled.addAddressError {d : Draft} (spoiled : d.Spoiled) (family : UInt8) (errCode : Nat) :
    (Server.addAddressError d family errCode).Spoiled := by
  unfold Server.addAddressError
  split
  · exact spoiled
  · exact spoiled.addShort _

theorem addAddressError_zero (d : Draft) (family : UInt8) : addAddressError d family 0 = d := if_pos rfl

theorem Responder.allocate_spec (r : Responder) (ss : SuperSession) (m : Request) {d : Draft} (clean : d.Clean) :
    (HalfDual r.server r.env ss m → (r.allocate ss m d).Spoiled) ∧
      (¬ HalfDual r.server r.env ss m → (r.allocate ss m d).Settled) := by
  have errors := addressErrors_iff r.server r.env ss m
  have built := r.allocateSuccess_settled ss (handleTurnAllocate r.server r.env ss m).1 m clean
  unfold Responder.allocate
  dsimp only
  rw [← errors]
  split
  · rename_i failed
    exact ⟨fun half => absurd half.1 failed, fun _ => clean.error _ _ _ _ _⟩
  · rename_i succeeded
    rw [not_not] at succeeded
    constructor
    · rintro ⟨_, four | six⟩
      · exact (built.addAddressError 1 four).addAddressError 2 _
      · by_cases four : (addressErrors r.server r.env ss m).1 = 0
        · rw [four, addAddressError_zero]
          exact built.addAddressError 2 six
        · exact (built.addAddressError 1 four).addAddressError 2 _
    · intro whole
      have four : (addressErrors r.server r.env ss m).1 = 0 := by
        by_contra code
        exact whole ⟨succeeded, .inl code⟩
      have six : (addressErrors r.server r.env ss m).2 = 0 := by
        by_contra code
        exact whole ⟨succeeded, .inr code⟩
      rw [four, six, addAddressError_zero, addAddressError_zero]
      exact built

end Server
end TurnCluster
