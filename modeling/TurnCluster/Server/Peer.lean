import TurnCluster.Relay.Buffer
import TurnCluster.Server.Allocation

namespace TurnCluster
namespace Server

open StunCustomHeader

/-- What `peer_input_handler` reads of the server, the session and the sockets. -/
structure PeerContext where
  serverRelay : Bool
  fingerprint : Bool
  software : List UInt8
  mapping : AddrMapping
  nsCrc32 : List UInt8 → UInt32
  /-- Transaction id drawn for an indication. -/
  tid : List UInt8
  sessionToBeClosed : Bool
  clientSocketOpen : Bool
  clientSocketStream : Bool
  relaySocketToBeClosed : Bool
  relaySessionOpen : Bool
  allocation : Allocation

/-- `ioa_net_data`, the received datagram. -/
structure NetData where
  nbh : StunBuffer
  srcAddr : IoaAddr
  recvTtl : Nat
  recvTos : Nat

/-- What the handler makes of the datagram before it looks for a permission. -/
structure Adjusted where
  nbh : StunBuffer
  srcAddr : IoaAddr
  chnum : UInt16
  ilen : Int
  /-- Lengths of the copies made on the way. -/
  copies : List Nat

/-- A frame for the client: the buffer handed to `write_client_connection` and
where in it the application data lies. -/
structure PeerFrame where
  nbh : StunBuffer
  appPos : Nat
  appLen : Nat
  ttl : Int
  tos : Nat

structure PeerResult where
  copies : List Nat
  frame : Option PeerFrame

/-- Offset of the value of the first DATA attribute of a message, if it is not empty. -/
def firstData (payload : Memory) (payloadLen : Nat) : Option Nat :=
  match stunAttrGetFirstByTypeStr payload payloadLen stunAttributeData with
  | none => none
  | some sar => stunAttrGetValue payload sar

/-- The source that a relayed datagram gives itself in its custom header. -/
def adjustSrcAddr (nbh : StunBuffer) (srcAddr : IoaAddr) : IoaAddr :=
  let header := read (nbh.view nbh.dataOrigin)
  if header.identifier = customDataIdentifier then
    { srcAddr with ip4 := header.srcIp, port := header.srcPort }
  else srcAddr

/-- ChannelData inside a relayed datagram: its data moves to the front. -/
def unwrapChannel (nbh : StunBuffer) (srcAddr : IoaAddr) : Adjusted :=
  let len := sizeSub nbh.getSize stunChannelHeaderLength
  let moved := nbh.move nbh.dataOrigin (nbh.data + stunChannelHeaderLength) len
  ⟨moved.addOffsetSize 0 0 len, srcAddr, le16 (moved.view nbh.data) 0, intOfSize len, [len]⟩

/-- A Send indication inside a relayed datagram: the value of its DATA moves to the front. -/
def unwrapSend (nbh : StunBuffer) (srcAddr : IoaAddr) (value : Nat) : Adjusted :=
  let len := (net16 (nbh.view nbh.data) (value - 2)).toNat
  let moved := nbh.move nbh.dataOrigin (nbh.data + value) len
  ⟨moved.addOffsetSize 0 0 len, srcAddr, 0, len, [len]⟩

/-- The value that a Send indication asks to relay. -/
def sendValue (payload : Memory) (payloadLen : Nat) : Option Nat :=
  if stunIsIndicationStr payload payloadLen = true ∧
      stunGetMethodStr payload payloadLen = stunMethodSend then firstData payload payloadLen
  else none

/-- The block "adjust data packet". -/
def adjustData (nbh : StunBuffer) (srcAddr : IoaAddr) (ilen : Int) : Adjusted :=
  if isChannelMsgStr (nbh.view nbh.data) nbh.getSize = true then unwrapChannel nbh srcAddr
  else
    match sendValue (nbh.view nbh.data) nbh.getSize with
    | none => ⟨nbh, srcAddr, 0, ilen, []⟩
    | some value => unwrapSend nbh srcAddr value

/-- The first block of the handler: relayed datagrams are unwrapped, others stay. -/
def adjust (nbh : StunBuffer) (srcAddr : IoaAddr) (ilen : Int) : Adjusted :=
  if (read (nbh.view nbh.dataOrigin)).identifier = customDataIdentifier then
    adjustData nbh (adjustSrcAddr nbh srcAddr) ilen
  else ⟨nbh, srcAddr, 0, ilen, []⟩

/-- The header in front of a frame for the client names the peer. -/
def peerHeader (srcAddr : IoaAddr) : StunCustomHeader :=
  ⟨customIdentifier, 0, 0, nswap32 srcAddr.ip4, nswap16 srcAddr.port⟩

/-- Conversion of `ilen` to `size_t`. -/
def sizeOfInt (ilen : Int) : Nat := (ilen % 2 ^ 64).toNat

/-- The branch that sends ChannelData, in the buffer of the datagram. -/
def channelFrame (ctx : PeerContext) (a : Adjusted) (chnum : UInt16) : StunBuffer × Nat × Nat :=
  let len := sizeOfInt a.ilen
  let copied := (a.nbh.getSizeOrigin + stunChannelHeaderLength) % 2 ^ 64
  let nbh := a.nbh.move a.nbh.data a.nbh.dataOrigin copied
  let nbh := nbh.setSize (len + stunCustomHeaderLen)
  let nbh := nbh.addOffsetSize 0 stunChannelHeaderLength (nbh.getSizeOrigin + stunChannelHeaderLength)
  let (nbh', len) := stunInitChannelMessageStr chnum nbh nbh.data len (intOfSize len) ctx.clientSocketStream
  let nbh' := nbh'.setSize len
  (nbh'.writeHeader (peerHeader a.srcAddr), nbh.data + stunChannelHeaderLength, copied)

/-- The branch that sends a DATA indication, in a new buffer; the value is left
out when it does not fit. -/
def indicationFrame (ctx : PeerContext) (a : Adjusted) : StunBuffer × Nat × Nat :=
  let nbh := StunBuffer.ioaNetworkBufferAllocate
  let pos := nbh.data
  let alen := intOfSize (sizeOfInt a.ilen)
  let (nbh, len) := stunInitCommandStr (stunMakeIndication stunMethodData) nbh pos ctx.tid
  let copied := if (stunAttrRoom nbh pos len alen).isSome then alen.toNat else 0
  let (nbh, len) := stunAttrAddStr nbh pos len stunAttributeData a.nbh a.nbh.dataOrigin alen
  let (nbh, len) := stunAttrAddAddrStr ctx.mapping nbh pos len stunAttributeXorPeerAddress a.srcAddr
  let (nbh, len) := stunAttrAddBytes nbh pos len stunAttributeSoftware ctx.software
  let (nbh, len) := if ctx.fingerprint then stunAttrAddFingerprintStr ctx.nsCrc32 nbh pos len else (nbh, len)
  ((nbh.setSize len).writeHeader (peerHeader a.srcAddr), pos + stunHeaderLength + 4, copied)

/-- What is sent for a datagram whose source has the channel number `chnum`, or none. -/
def peerFrame (ctx : PeerContext) (input : NetData) (a : Adjusted) (chnum : UInt16) : PeerResult :=
  if chnum ≠ 0 then
    let (nbh, appPos, copied) := channelFrame ctx a chnum
    ⟨a.copies ++ [copied], some ⟨nbh, appPos, a.ilen.toNat, (input.recvTtl : Int) - 1, input.recvTos⟩⟩
  else
    let (nbh, appPos, copied) := indicationFrame ctx a
    ⟨a.copies ++ [copied], some ⟨nbh, appPos, copied, (input.recvTtl : Int) - 1, input.recvTos⟩⟩

def peerInputHandler (ctx : PeerContext) (input : NetData) : PeerResult :=
  if input.recvTtl = 0 ∨ ctx.relaySocketToBeClosed = true ∨ ctx.sessionToBeClosed = true ∨
      ctx.clientSocketOpen = false ∨ ctx.relaySessionOpen = false then ⟨[], none⟩
  else
    let ilen := min (intOfSize input.nbh.getSizeOrigin) (udpStunBufferSize - stunChannelHeaderLength : Nat)
    if ilen < 0 ∨ ctx.allocation.isValid = false then ⟨[], none⟩
    else
      let a := adjust input.nbh input.srcAddr ilen
      match allocationGetPermission ctx.allocation a.srcAddr with
      | some tinfo => peerFrame ctx input a (getTurnChannelNumber ctx.allocation tinfo a.srcAddr)
      | none => if ctx.serverRelay then peerFrame ctx input a a.chnum else ⟨a.copies, none⟩

end Server
end TurnCluster
