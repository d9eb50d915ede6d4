import TurnCluster.Relay.Response
import TurnCluster.Server.Session

namespace TurnCluster
namespace Server

def oldStunAttributeResponseAddress : UInt16 := 0x0002
def stunAttributeChangeRequest : UInt16 := 0x0003
def oldStunAttributePassword : UInt16 := 0x0007
def stunAttributePadding : UInt16 := 0x0026
def stunAttributeResponsePort : UInt16 := 0x0027
def stunAttributeResponseOrigin : UInt16 := 0x802B
def stunAttributeOtherAddress : UInt16 := 0x802C

/-- The kinds of sockets that `handle_turn_binding` tells apart. -/
inductive SocketType where
  | udp
  | dtls
  | stream
  deriving DecidableEq, Repr

/-- What `handle_turn_binding` reads of the server and of the client socket. -/
structure BindingContext where
  rfc5780 : Bool
  mapping : AddrMapping
  socketType : SocketType
  localAddr : IoaAddr
  remoteAddr : IoaAddr
  /-- `get_other_address`, if it finds one. -/
  otherAddress : Option IoaAddr
  localMtu : Nat

/-- What the loop collects. -/
structure BindingScan where
  scan : Scan
  changeIp : Bool
  changePort : Bool
  padding : Bool
  responsePort : Option UInt16
  deriving DecidableEq

namespace BindingScan

def start : BindingScan := ⟨.empty, false, false, false, none⟩

def running (s : BindingScan) : Bool := s.scan.running

def fail (s : BindingScan) (errCode : Nat) (reason : String) : BindingScan :=
  { s with scan := s.scan.fail errCode reason }

def onChangeRequest (ctx : BindingContext) (s : BindingScan) (a : Attribute) : BindingScan :=
  let s :=
    if a.value.length = 4 then
      { s with changeIp := a.value.getD 3 0 &&& 0x04 != 0, changePort := a.value.getD 3 0 &&& 0x02 != 0 }
    else s
  if s.changeIp = false ∧ s.changePort = false then s
  else if ctx.rfc5780 = false then
    s.fail 420 "Unknown attribute: TURN server was configured without RFC 5780 support"
  else if ctx.socketType ≠ .udp then s.fail 400 "Wrong request: applicable only to UDP protocol"
  else s

def onPadding (ctx : BindingContext) (s : BindingScan) : BindingScan :=
  if s.responsePort.isSome then
    s.fail 400 "Wrong request format: you cannot use PADDING and RESPONSE_PORT together"
  else if ctx.socketType = .stream then
    s.fail 400 "Wrong request: padding applicable only to UDP and DTLS protocols"
  else { s with padding := true }

def onResponsePort (ctx : BindingContext) (s : BindingScan) (a : Attribute) : BindingScan :=
  if s.padding = true then
    s.fail 400 "Wrong request format: you cannot use PADDING and RESPONSE_PORT together"
  else if ctx.socketType ≠ .udp then s.fail 400 "Wrong request: applicable only to UDP protocol"
  else if 2 ≤ a.value.length then { s with responsePort := some (net16 (.ofList a.value) 0) }
  else s.fail 400 "Wrong response port format"

/-- One turn of the loop. RESPONSE-ADDRESS is read only in old requests, but passed over in all. -/
def body (ctx : BindingContext) (s : BindingScan) (a : Attribute) : BindingScan :=
  if a.attrType = oldStunAttributePassword ∨ isSkipped a.attrType = true then s
  else if a.attrType = stunAttributeChangeRequest then s.onChangeRequest ctx a
  else if a.attrType = stunAttributePadding then s.onPadding ctx
  else if a.attrType = stunAttributeResponsePort then s.onResponsePort ctx a
  else if a.attrType = oldStunAttributeResponseAddress then s
  else { s with scan := s.scan.other a.attrType }

end BindingScan

/-- A response in its buffer. One with a changed origin or destination leaves by another socket. -/
structure BindingResponse where
  nbh : StunBuffer
  len : Nat
  elsewhere : Bool

/-- The origin that a response claims. -/
def responseOrigin (ctx : BindingContext) (s : BindingScan) (other : IoaAddr) : IoaAddr :=
  if s.changeIp = true then
    if s.changePort = true then other else addrSetPort other (addrGetPort ctx.localAddr)
  else if s.changePort = true then addrSetPort ctx.localAddr (addrGetPort other)
  else ctx.localAddr

/-- The zeros of a PADDING attribute. -/
def paddingValue (ctx : BindingContext) : List UInt8 :=
  List.replicate ((if ctx.localMtu < 68 then 1500 else ctx.localMtu) / 4 * 4) 0

/-- The addresses that follow the reflexive one. -/
def addOrigin (ctx : BindingContext) (s : BindingScan) (b : StunBuffer) (pos len : Nat) : BindingResponse :=
  if ctx.rfc5780 = false then
    let (b, len) := stunAttrAddAddrStr ctx.mapping b pos len stunAttributeResponseOrigin ctx.localAddr
    ⟨b, len, false⟩
  else
    match ctx.otherAddress with
    | none => ⟨b, len, false⟩
    | some other =>
      let (b, len) := stunAttrAddAddrStr ctx.mapping b pos len stunAttributeResponseOrigin (responseOrigin ctx s other)
      let (b, len) := stunAttrAddAddrStr ctx.mapping b pos len stunAttributeOtherAddress other
      let (b, len) :=
        if s.padding = true then stunAttrAddBytes b pos len stunAttributePadding (paddingValue ctx) else (b, len)
      ⟨b, len, s.changeIp || s.changePort || s.responsePort.isSome⟩

/-- `handle_turn_binding` for a message with the cookie, into a buffer with its data at `pos`. -/
def handleTurnBinding (ctx : BindingContext) (m : Request) (nbh : StunBuffer) (pos : Nat) :
    Reply × Option BindingResponse :=
  let s := scanAttrs BindingScan.running (BindingScan.body ctx) .start m.attrs
  if s.scan.unknownAttrs ≠ [] then ({ s.scan.reply with errCode := 420 }, none)
  else if s.scan.errCode ≠ 0 then (s.scan.reply, none)
  else
    let (b, len) := stunSetBindingResponseStr ctx.mapping nbh pos m.tid ctx.remoteAddr
    let response := addOrigin ctx s b pos len
    ({ Reply.empty with respConstructed := true, noResponse := response.elsewhere }, some response)

theorem addOrigin_reporting {ctx : BindingContext} (s : BindingScan) {b : StunBuffer} {pos len : Nat} {addr : IoaAddr}
    (reporting : Reporting b pos len addr) :
    Reporting (addOrigin ctx s b pos len).nbh pos (addOrigin ctx s b pos len).len addr := by
  unfold addOrigin
  split
  · exact reporting.addAddr _ _ _
  · split
    · exact reporting
    · rename_i other _
      have named := (reporting.addAddr ctx.mapping stunAttributeResponseOrigin (responseOrigin ctx s other)).addAddr
        ctx.mapping stunAttributeOtherAddress other
      cases s.padding with
      | false => exact named
      | true => exact named.addBytes stunAttributePadding (paddingValue ctx)

theorem handleTurnBinding_reporting {ctx : BindingContext} {m : Request} {nbh : StunBuffer} {pos : Nat} {reply : Reply}
    {response : BindingResponse} (handled : handleTurnBinding ctx m nbh pos = (reply, some response))
    (unmapped : mapAddrFromPrivateToPublic ctx.mapping ctx.remoteAddr = ctx.remoteAddr)
    (known : ctx.remoteAddr.family ≠ .unspec) (six : ctx.remoteAddr.ip6.length = 16) :
    Reporting response.nbh pos response.len ctx.remoteAddr := by
  unfold handleTurnBinding at handled
  dsimp only at handled
  split at handled
  · cases handled
  · split at handled
    · cases handled
    · cases Option.some.inj (Prod.mk.inj handled).2
      exact addOrigin_reporting _ (stunSetBindingResponseStr_reporting nbh pos m.tid unmapped known six)

end Server
end TurnCluster
