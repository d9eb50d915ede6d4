import TurnCluster.Proxy.Header
import Mathlib.Logic.Function.Basic

namespace TurnCluster
namespace Proxy

open StunCustomHeader

/-- The settings the manager reads. `localUdpIp` is never assigned by the
program, so it may hold any value. -/
structure Config where
  coturnIp : UInt32
  coturnPort : UInt16
  localProxyPort : UInt16
  localUdpIp : UInt32
  deriving DecidableEq, Repr

/-- `Startup` gives the proxy the address of its coturn. -/
def Config.localProxyIp (cfg : Config) : UInt32 := cfg.coturnIp

structure RequestInfo where
  srcip : UInt32
  srcport : UInt16
  peerip : UInt32
  peerport : UInt16
  deriving DecidableEq, Repr

structure ProxyInfo where
  channelNum : UInt16
  srcip : UInt32
  srcport : UInt16
  deriving DecidableEq, Repr

structure AddrInfo where
  ip : UInt32
  port : UInt16
  deriving DecidableEq, Repr

/-- The four maps of `StunProxyMgr`. Requests are keyed by transaction id, the
others by an address written as text. -/
structure State where
  mapPeerInfo : List Char → Option ProxyInfo
  mapAllocInfo : List Char → Option AddrInfo
  mapLocalRemote : List Char → Option AddrInfo
  mapRequests : List UInt8 → Option RequestInfo

/-- A started proxy has empty maps. -/
def State.init : State := ⟨fun _ => none, fun _ => none, fun _ => none, fun _ => none⟩

/-- A datagram handed to the socket: `len` is the `int` that reaches `SendToByAddr`. -/
structure Send where
  ip : UInt32
  port : UInt16
  len : Int
  data : List UInt8
  deriving DecidableEq, Repr

/-- The address 127.0.0.1 as it lies in memory. -/
def loopbackIp : UInt32 := 0x0100007F

/-- The address a datagram for `ip` really goes to. -/
def hopIp (cfg : Config) (ip : UInt32) : UInt32 := if ip = cfg.localUdpIp then loopbackIp else ip

def sendToByAddr (cfg : Config) (ip : UInt32) (port : UInt16) (buffer : Memory) (nLen : Int) : Send :=
  ⟨hopIp cfg ip, port, nLen, buffer.slice 0 nLen.toNat⟩

/-- The address of the first attribute of a type, zeroed when there is none or it cannot be decoded. -/
def getStunAttrAddress (data : Memory) (len : Nat) (attrType : UInt16) : IoaAddr :=
  match stunAttrGetFirstByTypeStr data len attrType with
  | none => .any
  | some sar => (stunAttrGetAddrStr [] data sar none).getD .any

/-- The message behind the custom header. -/
def payload (buf : Memory) : Memory := buf.shift stunCustomHeaderLen

/-- Its length, computed in `size_t`. -/
def payloadLen (n : Nat) : Nat := sizeSub n stunCustomHeaderLen

def payloadMethod (buf : Memory) (n : Nat) : UInt16 := stunGetMethodStr (payload buf) (payloadLen n)

/-- The proxy's frame around a client datagram. -/
def clientHeader (cfg : Config) (srcip : UInt32) (srcport : UInt16) : StunCustomHeader :=
  ⟨customIdentifier, srcip, srcport, nswap32 cfg.localProxyIp, nswap16 cfg.localProxyPort⟩

def handlePacketFromClient (cfg : Config) (st : State) (srcip : UInt32) (srcport : UInt16)
    (buf : Memory) (n : Nat) : State × List Send :=
  let customPacketLen := n + stunCustomHeaderLen
  if customPacketLen < 1500 then
    let packet := Memory.ofList ((clientHeader cfg srcip srcport).bytes ++ buf.slice 0 n)
    let st' :=
      if stunIsRequestStr buf n && stunGetMethodStr buf n == stunMethodCreatePermission then
        let peer := getStunAttrAddress buf n stunAttributeXorPeerAddress
        { st with mapRequests := Function.update st.mapRequests (stunTidFromMessageStr buf)
                    (some ⟨srcip, srcport, peer.ip4, peer.port⟩) }
      else st
    (st', [sendToByAddr cfg cfg.coturnIp cfg.coturnPort packet customPacketLen])
  else (st, [])

/-- Answers go back to the client address that the header carries. -/
def sendToEchoed (cfg : Config) (buf : Memory) (n : Nat) : Send :=
  let header := read buf
  sendToByAddr cfg (nswap32 header.getSrcIntIp) (nswap16 header.getSrcPort)
    (payload buf) (intOfSize (payloadLen n))

/-- The table updates of a CreatePermission success for a recorded request. -/
def installPermission (st : State) (tid : List UInt8) (request : RequestInfo) : State :=
  let clientKey := addrKey request.srcip request.srcport
  let st := { st with mapPeerInfo := Function.update st.mapPeerInfo
                        (addrKey request.peerip request.peerport)
                        (some ⟨0, request.srcip, request.srcport⟩) }
  let st :=
    match st.mapAllocInfo clientKey with
    | none => st
    | some relay =>
      let relayKey := addrKey relay.ip (nswap16 relay.port)
      { st with
        mapLocalRemote :=
          if (st.mapLocalRemote relayKey).isSome then st.mapLocalRemote
          else Function.update st.mapLocalRemote relayKey (some ⟨request.peerip, request.peerport⟩)
        mapAllocInfo := Function.update st.mapAllocInfo clientKey none }
  { st with mapRequests := Function.update st.mapRequests tid none }

/-- Nothing is returned where the code calls `abort`. -/
def handleSuccessResponse (cfg : Config) (st : State) (method : UInt16) (buf : Memory) (n : Nat) :
    Option (State × List Send) :=
  if method = stunMethodAllocate then
    let relay := getStunAttrAddress (payload buf) (payloadLen n) stunAttributeXorRelayedAddress
    let mapped := getStunAttrAddress (payload buf) (payloadLen n) stunAttributeXorMappedAddress
    let key := addrKey mapped.ip4 (nswap16 mapped.port)
    if (st.mapAllocInfo key).isSome then none
    else
      some ({ st with mapAllocInfo := Function.update st.mapAllocInfo key
                        (some ⟨relay.ip4, relay.port⟩) }, [sendToEchoed cfg buf n])
  else if method = stunMethodCreatePermission then
    let tid := stunTidFromMessageStr (payload buf)
    match st.mapRequests tid with
    | none => some (st, [sendToEchoed cfg buf n])
    | some request => some (installPermission st tid request, [sendToEchoed cfg buf n])
  else some (st, [sendToEchoed cfg buf n])

def handleErrorResponse (cfg : Config) (st : State) (method : UInt16) (buf : Memory) (n : Nat) :
    State × List Send :=
  let tid := stunTidFromMessageStr (payload buf)
  if method = stunMethodCreatePermission then
    ({ st with mapRequests := Function.update st.mapRequests tid none }, [sendToEchoed cfg buf n])
  else (st, [sendToEchoed cfg buf n])

/-- Delivery of a payload to the client that the routing table names for a peer key. -/
def sendToRoute (cfg : Config) (st : State) (key : List Char) (buf : Memory) (n : Nat) : List Send :=
  match st.mapPeerInfo key with
  | none => []
  | some info => [sendToByAddr cfg info.srcip info.srcport (payload buf) (intOfSize (payloadLen n))]

/-- The tables after a release notice for the relay that the header names. -/
def releaseRelay (st : State) (header : StunCustomHeader) : State :=
  let key := ip2string (nswap32 header.getDstIntIp) ++ decimal header.getDstPort.toNat
  match st.mapLocalRemote key with
  | none => st
  | some peer =>
    { st with
      mapPeerInfo := Function.update st.mapPeerInfo (addrKey peer.ip peer.port) none
      mapLocalRemote := Function.update st.mapLocalRemote key none }

def handlePacketFromCoturn (cfg : Config) (st : State) (buf : Memory) (n : Nat) :
    Option (State × List Send) :=
  let header := read buf
  let method := payloadMethod buf n
  let forward := sendToByAddr cfg (nswap32 header.getDstIntIp) header.getDstPort buf (intOfSize n)
  if header.isStunExtensionRelayHeader then
    if isChannelMsgStr (payload buf) (payloadLen n) then some (st, [forward])
    else if stunIsIndicationStr (payload buf) (payloadLen n) then
      if method = stunMethodSend then some (st, [forward]) else some (st, [])
    else some (st, [])
  else if header.isStunExtensionHeader then
    if isChannelMsgStr (payload buf) (payloadLen n) then
      some (st, sendToRoute cfg st (header.getDstIp ++ decimal header.getDstPort.toNat) buf n)
    else if stunIsIndicationStr (payload buf) (payloadLen n) then
      if method = stunMethodData then
        let peer := getStunAttrAddress (payload buf) (payloadLen n) stunAttributeXorPeerAddress
        some (st, sendToRoute cfg st (addrKey peer.ip4 peer.port) buf n)
      else some (st, [])
    else if stunIsSuccessResponseStr (payload buf) (payloadLen n) then
      handleSuccessResponse cfg st method buf n
    else if stunIsErrorResponseStr (payload buf) (payloadLen n) then
      some (handleErrorResponse cfg st method buf n)
    else some (st, [])
  else if header.isStunExtensionReleaseHeader then some (releaseRelay st header, [])
  else some (st, [])

/-- Only the source port decides whether a datagram is taken as coming from coturn. -/
def packetCallbackAsync (cfg : Config) (st : State) (srcip : UInt32) (srcport : UInt16)
    (buf : Memory) (n : Nat) : Option (State × List Send) :=
  if srcport = cfg.coturnPort then handlePacketFromCoturn cfg st buf n
  else if (read buf).isStunExtensionRelayHeader then handlePacketFromCoturn cfg st buf n
  else some (handlePacketFromClient cfg st srcip srcport buf n)

end Proxy
end TurnCluster
