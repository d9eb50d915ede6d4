import TurnCluster.Server.Lifetimes
import TurnCluster.Server.Peer

namespace TurnCluster
namespace Server

open StunCustomHeader

/-- What `handle_turn_send` and `write_to_peerchannel` read of the server, the session and the sockets. -/
structure SendContext where
  serverRelay : Bool
  dontFragment : Bool
  mapping : AddrMapping
  isTcpRelay : Bool
  /-- The client socket is a stream. -/
  clientStream : Bool
  /-- Address of the client socket on this host. -/
  clientLocalIp : UInt32
  allocation : Allocation
  /-- Local address of the open relay socket of a family. -/
  relaySocket : Family → Option IoaAddr

/-- A datagram that a relay socket sends: `len` is the `int` that reaches `udp_send`. -/
structure Datagram where
  dest : IoaAddr
  len : Int
  data : List UInt8
  ttl : Int
  tos : Nat
  deriving DecidableEq, Repr

/-- `send_data_from_ioa_socket_nbh` on an open UDP socket without a bandwidth limit. -/
def sendDataFromIoaSocketNbh (dest : IoaAddr) (nbh : StunBuffer) (ttl : Int) (tos : Nat) : Datagram :=
  let len := intOfSize ((nbh.getSizeOrigin + stunCustomHeaderLen) % 2 ^ 64)
  ⟨dest, len, (nbh.view nbh.dataOrigin).slice 0 len.toNat, ttl, tos⟩

/-- What the loop of `handle_turn_send` collects. `addrFound` is never set. -/
structure SendScan where
  scan : Scan
  peerAddr : IoaAddr
  addrFound : Bool
  len : Int
  value : Option Nat
  setDf : Bool
  deriving DecidableEq

namespace SendScan

def start : SendScan := ⟨.empty, .any, false, -1, none, false⟩

def running (s : SendScan) : Bool := s.scan.running

def fail (s : SendScan) (errCode : Nat) (reason : String) : SendScan :=
  { s with scan := s.scan.fail errCode reason }

def onDontFragment (ctx : SendContext) (s : SendScan) : SendScan :=
  if ctx.dontFragment = false then { s with scan := s.scan.unknown stunAttributeDontFragment }
  else { s with setDf := true }

def onPeerAddress (ctx : SendContext) (buf : Memory) (s : SendScan) (attr : AttrRef) : SendScan :=
  if s.addrFound = true then s.fail 400 "Address duplication"
  else { s with peerAddr := (stunAttrGetAddrStr ctx.mapping buf attr none).getD .any }

def onData (buf : Memory) (s : SendScan) (attr : AttrRef) : SendScan :=
  if 0 ≤ s.len then s.fail 400 "Data duplication"
  else { s with len := stunAttrGetLen buf attr, value := stunAttrGetValue buf attr }

def body (ctx : SendContext) (buf : Memory) (s : SendScan) (attr : AttrRef) : SendScan :=
  let attrType := stunAttrGetType buf attr
  if isSkipped attrType then s
  else if attrType = stunAttributeDontFragment then s.onDontFragment ctx
  else if attrType = stunAttributeXorPeerAddress then s.onPeerAddress ctx buf attr
  else if attrType = stunAttributeData then s.onData buf attr
  else { s with scan := s.scan.other attrType }

/-- One turn of the loop. -/
def step (ctx : SendContext) (buf : Memory) (s : SendScan) (attr : AttrRef) : SendScan :=
  if s.running then s.body ctx buf attr else s

end SendScan

/-- The buffer after the local branch of `handle_turn_send` cut it down to the data: the
difference of an `int` and an unsigned constant is 32 bits wide. -/
def cutToData (nbh : StunBuffer) (len : Int) (value : Option Nat) : StunBuffer :=
  match value with
  | some place =>
    if 0 < len then
      nbh.addOffsetSize ((stunCustomHeaderLen + place) % 2 ^ 16) 0 ((len - stunCustomHeaderLen) % 2 ^ 32).toNat
    else nbh.setSize 0
  | none => nbh.setSize 0

/-- The branch for a peer on another node: the frame travels whole, behind a new custom header. -/
def sendToNode (relay peerAddr : IoaAddr) (nbh : StunBuffer) (ttl : Int) (tos : Nat) : Datagram :=
  let dest := IoaAddr.inet peerAddr.ip4 (read (nbh.view nbh.dataOrigin)).dstPort
  let header := StunCustomHeader.mk customDataIdentifier relay.ip4 relay.port peerAddr.ip4 peerAddr.port
  sendDataFromIoaSocketNbh dest (nbh.writeHeader header) ttl tos

/-- The datagram for a peer with a permission. -/
def sendToPeer (ctx : SendContext) (input : NetData) (peerAddr : IoaAddr) (len : Int) (value : Option Nat) :
    Option Datagram :=
  match ctx.relaySocket peerAddr.family with
  | none => none
  | some relay =>
    if peerAddr.ip4 = ctx.clientLocalIp then
      some (sendDataFromIoaSocketNbh peerAddr (cutToData input.nbh len value) ((input.recvTtl : Int) - 1)
        input.recvTos)
    else some (sendToNode relay peerAddr input.nbh ((input.recvTtl : Int) - 1) input.recvTos)

def sendScan (ctx : SendContext) (nbh : StunBuffer) : SendScan :=
  (stunAttrs (nbh.view nbh.data) nbh.getSize).foldl (SendScan.step ctx (nbh.view nbh.data)) .start

/-- What follows the loop. -/
def sendScanned (ctx : SendContext) (input : NetData) (s : SendScan) : Reply × Option Datagram :=
  if s.scan.errCode ≠ 0 then (s.scan.reply, none)
  else if s.scan.unknownAttrs ≠ [] then ({ s.scan.reply with errCode := 420 }, none)
  else if addrAny s.peerAddr = false ∧ 0 ≤ s.len then
    if ctx.serverRelay = true ∨ (allocationGetPermission ctx.allocation s.peerAddr).isSome = true then
      (.empty, sendToPeer ctx input s.peerAddr s.len s.value)
    else (.empty, none)
  else ({ Reply.empty with errCode := 400, reason := some "No address found" }, none)

def handleTurnSend (ctx : SendContext) (input : NetData) : Reply × Option Datagram :=
  if ctx.isTcpRelay = true then
    ({ Reply.empty with errCode := 403, reason := some "Send cannot be used with TCP relay" }, none)
  else if ctx.allocation.isValid = true ∧ input.recvTtl ≠ 0 then
    sendScanned ctx input (sendScan ctx input.nbh)
  else (.empty, none)

/-- The buffer after the local branch of `write_to_peerchannel` cut it down to the data. -/
def cutToChannelData (nbh : StunBuffer) : StunBuffer :=
  nbh.addOffsetSize (stunChannelHeaderLength + stunCustomHeaderLen) 0 (sizeSub nbh.getSize stunChannelHeaderLength)

/-- The datagram for the peer that a channel is bound to. -/
def sendToChannel (ctx : SendContext) (input : NetData) (peerAddr : IoaAddr) : Option Datagram :=
  match ctx.relaySocket peerAddr.family with
  | none => none
  | some relay =>
    if peerAddr.ip4 = ctx.clientLocalIp then
      some (sendDataFromIoaSocketNbh peerAddr (cutToChannelData input.nbh) ((input.recvTtl : Int) - 1) input.recvTos)
    else some (sendToNode relay peerAddr input.nbh ((input.recvTtl : Int) - 1) input.recvTos)

def writeToPeerchannel (ctx : SendContext) (chnum : UInt16) (input : NetData) : Option Datagram :=
  if input.recvTtl ≠ 0 ∧ ctx.allocation.isValid = true then
    match (allocationGetChInfo ctx.allocation chnum).bind ctx.allocation.chns.get with
    | none => none
    | some chn => sendToChannel ctx input chn.peerAddr
  else none

/-- ChannelData, once recognised, is written to its peer if it is not longer than what arrived. -/
def readChannelMessage (ctx : SendContext) (input : NetData) : Option (UInt16 × Nat) → Option Datagram
  | none => none
  | some (chnum, blen) =>
    if ctx.isTcpRelay = true then none
    else if blen ≤ input.nbh.getSize then
      writeToPeerchannel ctx chnum { input with nbh := input.nbh.setSize blen }
    else none

/-- The branch of `read_client_connection` that takes ChannelData. -/
def readClientChannel (ctx : SendContext) (input : NetData) : Option Datagram :=
  readChannelMessage ctx input
    (stunIsChannelMessageStr (input.nbh.view input.nbh.data) input.nbh.getSize ctx.clientStream)

end Server
end TurnCluster
