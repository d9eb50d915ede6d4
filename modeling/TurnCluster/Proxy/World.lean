import TurnCluster.Lib.Run
import TurnCluster.Proxy.Sources

namespace TurnCluster
namespace Proxy

open StunCustomHeader

/-- A client is the source address its datagrams carry. -/
structure Client where
  ip : UInt32
  port : UInt16
  deriving DecidableEq, Repr

/-- A request that the proxy passed on to coturn. -/
structure Request where
  client : Client
  tid : List UInt8
  method : UInt16
  peers : List IoaAddr
  deriving DecidableEq, Repr

/-- Where a datagram comes from and, when coturn sent it, what it is meant for. -/
inductive Origin where
  /-- Any host, clients included. -/
  | outside (ip : UInt32) (port : UInt16)
  /-- The success of a CreatePermission request. -/
  | grant (request : Request)
  /-- Another answer to a request. -/
  | reply (request : Request)
  /-- Data from a peer for the allocation of a client. -/
  | data (client : Client) (peer : IoaAddr)
  /-- A frame that answers nobody. -/
  | notice
  deriving DecidableEq, Repr

structure Event where
  origin : Origin
  buf : Memory
  len : Nat

/-- What has passed through the proxy, as far as it concerns recorded allocations. -/
inductive Milestone where
  | allocated (key : List Char)
  | permitted (key : List Char)
  deriving DecidableEq, Repr

/-- The proxy together with what coturn and the clients know: the requests
passed on, the permissions confirmed to clients, the milestones, newest first. -/
structure World where
  proxy : State
  asked : List Request
  granted : List (Client × IoaAddr)
  history : List Milestone

def World.init : World := ⟨.init, [], [], []⟩

/-- Routing key of a peer. -/
def peerKey (peer : IoaAddr) : List Char := addrKey peer.ip4 peer.port

/-- Client that a request record names. -/
def RequestInfo.client (request : RequestInfo) : Client := ⟨request.srcip, request.srcport⟩

/-- Client that a route leads to. -/
def ProxyInfo.client (info : ProxyInfo) : Client := ⟨info.srcip, info.srcport⟩

/-- All peers that a CreatePermission request lists. -/
def requestPeers (buf : Memory) (n : Nat) : List IoaAddr :=
  (stunAttrs buf n).filterMap (fun attr =>
    if stunAttrGetType buf attr = stunAttributeXorPeerAddress then stunAttrGetAddrStr [] buf attr none
    else none)

def Event.sourceIp (cfg : Config) (ev : Event) : UInt32 :=
  match ev.origin with
  | .outside ip _ => ip
  | _ => cfg.coturnIp

def Event.sourcePort (cfg : Config) (ev : Event) : UInt16 :=
  match ev.origin with
  | .outside _ port => port
  | _ => cfg.coturnPort

/-- The header of an answer repeats the client address of the request. -/
def Echoes (client : Client) (buf : Memory) : Prop :=
  (read buf).srcIp = client.ip ∧ (read buf).srcPort = client.port

/-- A data frame names its peer: ChannelData in the header, an indication in its attribute. -/
def NamesPeer (peer : IoaAddr) (buf : Memory) (n : Nat) : Prop :=
  (frameKind buf n = .channelData ∧ (read buf).dstIp = nswap32 peer.ip4 ∧
      (read buf).dstPort = nswap16 peer.port) ∨
    (frameKind buf n = .dataIndication ∧
      getStunAttrAddress (payload buf) (payloadLen n) stunAttributeXorPeerAddress = peer)

/-- The answer to a request carries its transaction id and method. -/
def Answers (request : Request) (buf : Memory) (n : Nat) : Prop :=
  frameTid buf = request.tid ∧ payloadMethod buf n = request.method ∧ Echoes request.client buf

/-- What the surroundings may present: anything from other hosts, and from
coturn answers to requests it was asked and data for permissions it confirmed. -/
def Genuine (cfg : Config) (w : World) (ev : Event) : Prop :=
  match ev.origin with
  | .outside ip port => ¬ (ip = cfg.coturnIp ∧ port = cfg.coturnPort)
  | .grant request =>
    request ∈ w.asked ∧ Answers request ev.buf ev.len ∧ frameKind ev.buf ev.len = .permissionSuccess
  | .reply request =>
    request ∈ w.asked ∧ Answers request ev.buf ev.len ∧
      frameKind ev.buf ev.len ∈
        [FrameKind.allocateSuccess, .otherSuccess, .permissionError, .otherError]
  | .data client peer => (client, peer) ∈ w.granted ∧ NamesPeer peer ev.buf ev.len
  | .notice => frameKind ev.buf ev.len ∈ [FrameKind.release, .relayed, .ignored]

/-- The request that an event makes the proxy pass on. -/
def Event.request (cfg : Config) (ev : Event) : List Request :=
  match ev.origin with
  | .outside ip port =>
    if port ≠ cfg.coturnPort ∧ (read ev.buf).isStunExtensionRelayHeader = false ∧
        stunIsRequestStr ev.buf ev.len = true ∧ ev.len + stunCustomHeaderLen < 1500 then
      [⟨⟨ip, port⟩, stunTidFromMessageStr ev.buf, stunGetMethodStr ev.buf ev.len,
        requestPeers ev.buf ev.len⟩]
    else []
  | _ => []

/-- The permissions that an event confirms to a client. -/
def Event.grants (ev : Event) : List (Client × IoaAddr) :=
  match ev.origin with
  | .grant request => request.peers.map (fun peer => (request.client, peer))
  | _ => []

def Event.milestones (cfg : Config) (w : World) (ev : Event) : List Milestone :=
  if ev.sourcePort cfg = cfg.coturnPort then
    match frameKind ev.buf ev.len with
    | .allocateSuccess => [.allocated (mappedKey ev.buf ev.len)]
    | .permissionSuccess =>
      match w.proxy.mapRequests (frameTid ev.buf) with
      | none => []
      | some request => [.permitted (addrKey request.srcip request.srcport)]
    | _ => []
  else []

/-- One datagram through the proxy. -/
def deliver (cfg : Config) (w : World) (ev : Event) : Option (World × List Send) :=
  match packetCallbackAsync cfg w.proxy (ev.sourceIp cfg) (ev.sourcePort cfg) ev.buf ev.len with
  | none => none
  | some (st, sends) =>
    some (⟨st, ev.request cfg ++ w.asked, ev.grants ++ w.granted, ev.milestones cfg w ++ w.history⟩, sends)

/-- The proxy among its clients and a genuine coturn. -/
def machine (cfg : Config) : Machine World Event (List Send) where
  init w := w = .init
  enabled := Genuine cfg
  next := deliver cfg

instance (client : Client) (buf : Memory) : Decidable (Echoes client buf) :=
  inferInstanceAs (Decidable (_ ∧ _))

instance (peer : IoaAddr) (buf : Memory) (n : Nat) : Decidable (NamesPeer peer buf n) :=
  inferInstanceAs (Decidable ((_ ∧ _ ∧ _) ∨ (_ ∧ _)))

instance (request : Request) (buf : Memory) (n : Nat) : Decidable (Answers request buf n) :=
  inferInstanceAs (Decidable (_ ∧ _ ∧ _))

instance (cfg : Config) (w : World) (ev : Event) : Decidable (Genuine cfg w ev) :=
  match ev with
  | ⟨.outside _ _, _, _⟩ => inferInstanceAs (Decidable (¬ (_ ∧ _)))
  | ⟨.grant _, _, _⟩ => inferInstanceAs (Decidable (_ ∧ _ ∧ _))
  | ⟨.reply _, _, _⟩ => inferInstanceAs (Decidable (_ ∧ _ ∧ _ ∈ _))
  | ⟨.data _ _, _, _⟩ => inferInstanceAs (Decidable (_ ∧ _))
  | ⟨.notice, _, _⟩ => inferInstanceAs (Decidable (_ ∈ _))

instance (cfg : Config) (w : World) (ev : Event) : Decidable ((machine cfg).enabled w ev) :=
  inferInstanceAs (Decidable (Genuine cfg w ev))

theorem deliver_some {cfg : Config} {w w' : World} {ev : Event} {sends : List Send}
    (run : deliver cfg w ev = some (w', sends)) :
    packetCallbackAsync cfg w.proxy (ev.sourceIp cfg) (ev.sourcePort cfg) ev.buf ev.len =
        some (w'.proxy, sends) ∧
      w'.granted = ev.grants ++ w.granted ∧ w'.history = ev.milestones cfg w ++ w.history := by
  unfold deliver at run
  split at run
  · cases run
  · rename_i st sent result
    cases Option.some.inj run
    exact ⟨result, rfl, rfl⟩

end Proxy
end TurnCluster
