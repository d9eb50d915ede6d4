import TurnCluster.Proxy.Transparency
import TurnCluster.Server.PeerTransparency

namespace TurnCluster
namespace Cluster

open StunCustomHeader Server

/-- The two ways in which a client hands data to its relay. -/
inductive Form where
  | send
  | channelData (chnum : UInt16)
  deriving DecidableEq, Repr

/-- What the node of the client makes of a message. -/
def Form.run (form : Form) (ctx : SendContext) (input : NetData) : Option Datagram :=
  match form with
  | .send => (handleTurnSend ctx input).2
  | .channelData _ => readClientChannel ctx input

/-- The message asks to relay `d` to the peer. -/
def Form.Asks (form : Form) (ctx : SendContext) (input : NetData) (peer : IoaAddr) (d : List UInt8) : Prop :=
  match form with
  | .send =>
    (allocationGetPermission ctx.allocation peer).isSome = true ∧
      SendMessage ctx (input.nbh.view input.nbh.data) input.nbh.getSize peer d ∧
      stunIsIndicationStr (input.nbh.view input.nbh.data) input.nbh.getSize = true ∧
      stunGetMethodStr (input.nbh.view input.nbh.data) input.nbh.getSize = stunMethodSend
  | .channelData chnum =>
    BoundTo ctx.allocation chnum peer ∧ stunValidChannel chnum = true ∧
      ChannelMessage (input.nbh.view input.nbh.data) input.nbh.getSize chnum d

/-- A datagram of at most 1500 bytes from the client of the allocation with the
IPv4 address `relay`, on another node than the peer. -/
structure OtherNode (ctx : SendContext) (input : NetData) (relay peer : IoaAddr) : Prop where
  valid : ctx.allocation.isValid = true
  udp : ctx.isTcpRelay = false
  ttl : input.recvTtl ≠ 0
  received : Received input.nbh
  fits : input.nbh.len ≤ 1500
  relaySocket : ctx.relaySocket .inet = some relay
  relayInet : relay = .inet relay.ip4 relay.port
  peerInet : peer.family = .inet
  known : addrAny peer = false
  elsewhere : peer.ip4 ≠ ctx.clientLocalIp

/-- The header of a frame between nodes. -/
def nodeHeader (relay peer : IoaAddr) : StunCustomHeader :=
  ⟨customDataIdentifier, relay.ip4, relay.port, peer.ip4, peer.port⟩

/-- The buffer that travels: ChannelData is cut to its length. -/
def Form.buffer (form : Form) (nbh : StunBuffer) (d : List UInt8) : StunBuffer :=
  match form with
  | .send => nbh
  | .channelData _ => nbh.setSize (d.length + 4)

/-- What the message reads as where it arrives. -/
def Form.Reads (form : Form) (message : Memory) (len : Nat) (d : List UInt8) : Prop :=
  match form with
  | .send =>
    stunIsIndicationStr message len = true ∧ stunGetMethodStr message len = stunMethodSend ∧
      ∃ attr, stunAttrGetFirstByTypeStr message len stunAttributeData = some attr ∧
        message.slice (attr + 4) (stunAttrGetLen message attr) = d
  | .channelData _ =>
    isChannelMsgStr message len = true ∧ len = d.length + 4 ∧ message.slice 4 d.length = d

variable {form : Form} {ctx : SendContext} {relay peer : IoaAddr} {header : StunCustomHeader} {message : List UInt8}
  {input : NetData} {m buf : Memory} {chnum : UInt16} {d : List UInt8} {n : Nat}

theorem sendScan_reply (message : SendMessage ctx (input.nbh.view input.nbh.data) input.nbh.getSize peer d)
    (permitted : (allocationGetPermission ctx.allocation peer).isSome = true) (known : addrAny peer = false) :
    ∃ len value, (sendScanned ctx input (sendScan ctx input.nbh)).2 = sendToPeer ctx input peer len value := by
  have collected := sendScan_collected message
  obtain ⟨address, attr, len, place, value, within⟩ := collected.found message
  rw [← address] at permitted known
  rw [sendScanned_of_found input collected.scan len permitted, if_pos known, address]
  exact ⟨_, _, rfl⟩

theorem Form.Asks.run (asks : form.Asks ctx input peer d) (other : OtherNode ctx input relay peer) :
    form.run ctx input =
      some (sendToNode relay peer (form.buffer input.nbh d) ((input.recvTtl : Int) - 1) input.recvTos) := by
  cases form with
  | send =>
    obtain ⟨permitted, message, _, _⟩ := asks
    obtain ⟨len, value, scanned⟩ := sendScan_reply message permitted other.known
    have handled : handleTurnSend ctx input = sendScanned ctx input (sendScan ctx input.nbh) := by
      unfold handleTurnSend
      rw [if_neg (by simp [other.udp]), if_pos ⟨other.valid, other.ttl⟩]
    show (handleTurnSend ctx input).2 = _
    rw [handled, scanned]
    unfold sendToPeer
    rw [other.peerInet, other.relaySocket]
    exact if_neg other.elsewhere
  | channelData chnum =>
    obtain ⟨bound, valid, message⟩ := asks
    obtain ⟨size, _, _⟩ := other.received.getSize
    have fits := other.fits
    have covered : d.length + 4 ≤ input.nbh.getSize := by
      obtain ⟨lower, _, _⟩ := roundUp4_spec d.length
      rcases message.total with plain | padded <;> omega
    show readClientChannel ctx input = _
    rw [readClientChannel_of_parsed (message.parsed valid (by omega) _) other.udp covered,
      writeToPeerchannel_of_bound { input with nbh := input.nbh.setSize (d.length + 4) } other.ttl other.valid bound]
    unfold sendToChannel
    rw [other.peerInet, other.relaySocket]
    exact if_neg other.elsewhere

theorem Form.buffer_mem (form : Form) (nbh : StunBuffer) (d : List UInt8) : (form.buffer nbh d).mem = nbh.mem := by
  cases form <;> rfl

theorem sendToNode_data {b : StunBuffer} (offset : b.offset = 0) (coffset : b.coffset = 0) (length : b.len = n)
    (small : n ≤ 70000) (relay peer : IoaAddr) (ttl : Int) (tos : Nat) :
    (sendToNode relay peer b ttl tos).data = (nodeHeader relay peer).bytes ++ (b.view 18).slice 0 n := by
  have start : b.dataOrigin + 14 = 18 := by
    simp [StunBuffer.dataOrigin, offset, coffset, stunChannelHeaderLength]
  have same := writeHeader_view offset coffset (nodeHeader relay peer)
  have sent := frame_sent (nodeHeader relay peer) length small ttl tos
    (.inet peer.ip4 (read (b.view b.dataOrigin)).dstPort)
  rw [start] at sent
  rw [← same, view_slice]
  exact sent

/-- How much of the buffer arrives in a receive buffer of 1500 bytes, behind the header. -/
def Form.carried (form : Form) (nbh : StunBuffer) (d : List UInt8) : Nat := min 1486 (form.buffer nbh d).len

/-- What a receive buffer of 1500 bytes holds of a datagram. -/
def Holds (bytes : List UInt8) (buf : Memory) (n : Nat) : Prop :=
  n = min 1500 bytes.length ∧ buf.slice 0 n = bytes.take 1500

theorem Holds.framed {len : Nat} (holds : Holds (header.bytes ++ m.slice 0 len) buf n) :
    Proxy.Framed header.bytes (m.slice 0 (min 1486 len)) buf n := by
  obtain ⟨total, bytes⟩ := holds
  have fourteen := header_length header
  constructor
  · rw [total, List.length_append, fourteen, Memory.length_slice, Memory.length_slice]
    omega
  · rw [bytes, List.take_append, List.take_of_length_le (by omega), fourteen, Memory.take_slice]

theorem framed_same {k : Nat} (framed : Proxy.Framed header.bytes (m.slice 0 k) buf n) :
    ∀ i, i < k → buf (14 + i) = m i := by
  intro i inside
  have slice := framed.message_slice
  rw [Memory.length_slice] at slice
  have byte := Memory.apply_of_slice_eq slice inside
  rw [Nat.zero_add] at byte
  exact byte

theorem firstData_of_message (message : SendMessage ctx buf n peer d) :
    ∃ attr : Nat, stunAttrGetFirstByTypeStr buf n stunAttributeData = some attr ∧
      buf.slice (attr + 4) (stunAttrGetLen buf attr) = d ∧ attr + 4 + stunAttrGetLen buf attr ≤ n ∧
      ∃ bufLen, stunGetCommandMessageLenStr buf n = some bufLen := by
  obtain ⟨attr, only, value⟩ := message.data
  have found : stunAttrGetFirstByTypeStr buf n stunAttributeData = some attr := by
    unfold stunAttrGetFirstByTypeStr
    rw [← List.head?_filter]
    exact congrArg List.head? only
  have member := List.mem_of_find?_eq_some found
  exact ⟨attr, found, value, stunAttrs_within member, announced_of_attr member⟩

theorem Form.carried_channelData (asks : (Form.channelData chnum).Asks ctx input peer d)
    (other : OtherNode ctx input relay peer) : (Form.channelData chnum).carried input.nbh d = d.length + 4 := by
  obtain ⟨_, _, message⟩ := asks
  obtain ⟨size, _, _⟩ := other.received.getSize
  obtain ⟨lower, _, _⟩ := roundUp4_spec d.length
  have fits := other.fits
  have short : d.length + 4 ≤ 1486 := by
    rcases message.total with plain | padded <;> omega
  show min 1486 ((d.length + 4) % 2 ^ 64) = d.length + 4
  omega

/-- What arrives of the message still reads as the message. -/
theorem Form.Asks.reads (asks : form.Asks ctx input peer d) (other : OtherNode ctx input relay peer)
    (same : ∀ i, i < form.carried input.nbh d → m i = input.nbh.view 18 i) :
    form.Reads m (form.carried input.nbh d) d := by
  obtain ⟨_, front⟩ := other.received.data
  cases form with
  | send =>
    obtain ⟨_, message, indication, method⟩ := asks
    rw [front] at message indication method
    obtain ⟨size, _, _⟩ := other.received.getSize
    obtain ⟨attr, found, value, within, bufLen, announced⟩ := firstData_of_message message
    have fits := other.fits
    have more : input.nbh.getSize ≤ Form.send.carried input.nbh d :=
      Nat.le_min.mpr ⟨by omega, show input.nbh.getSize ≤ input.nbh.len by omega⟩
    generalize input.nbh.getSize = n at *
    have inside (i : Nat) (before : i < n) : m i = input.nbh.view 18 i := same i (by omega)
    have word : net16 m 0 = net16 (input.nbh.view 18) 0 :=
      net16_congr (inside 0 (by omega)) (inside (0 + 1) (by omega))
    have length : stunAttrGetLen m attr = stunAttrGetLen (input.nbh.view 18) attr :=
      stunAttrGetLen_congr inside (by omega)
    refine ⟨?_, ?_, attr, ?_, ?_⟩
    · exact (stunIsClassStr_congr word (show 4 ≤ n by omega) (by omega)).trans indication
    · exact (stunGetMethodStr_congr word (show 4 ≤ n by omega) (by omega)).trans method
    · exact (stunAttrGetFirstByTypeStr_congr inside more announced _).trans found
    · rw [length, ← value]
      apply Memory.slice_congr
      intro i before
      exact inside _ (by omega)
  | channelData chnum =>
    have length := Form.carried_channelData asks other
    obtain ⟨_, valid, message⟩ := asks
    rw [front] at message
    rw [length] at same ⊢
    have word : net16 m 0 = chnum := by
      rw [← message.channel]
      exact net16_congr (same 0 (by omega)) (same (0 + 1) (by omega))
    refine ⟨?_, rfl, ?_⟩
    · simp [isChannelMsgStr, word, valid]
    · refine Eq.trans ?_ message.data
      apply Memory.slice_congr
      intro i before
      exact same _ (by omega)

theorem packetCallbackAsync_forwards (framed : Proxy.Framed (nodeHeader relay peer).bytes message buf n)
    (small : n ≤ 1500) (reads : form.Reads (Proxy.payload buf) message.length d) (cfg : Proxy.Config)
    (st : Proxy.State) (srcip : UInt32) (srcport : UInt16) :
    Proxy.packetCallbackAsync cfg st srcip srcport buf n =
      some (st, [⟨Proxy.hopIp cfg peer.ip4, nswap16 peer.port, n, (nodeHeader relay peer).bytes ++ message⟩]) := by
  have relayed : (read buf).isStunExtensionRelayHeader = true := by
    rw [framed.read_eq]
    rfl
  have length : Proxy.payloadLen n = message.length := Proxy.payloadLen_of_framed framed (by omega)
  have forwardable : Proxy.forwardable buf n = true := by
    unfold Proxy.forwardable Proxy.payloadMethod
    rw [length]
    cases form with
    | send =>
      obtain ⟨indication, method, _⟩ := reads
      simp [indication, method]
    | channelData chnum => simp [reads.1]
  have kind : Proxy.frameKind buf n = .relayed := by
    simp [Proxy.frameKind, relayed, forwardable]
  have sent : Proxy.forwarded cfg buf n =
      ⟨Proxy.hopIp cfg peer.ip4, nswap16 peer.port, n, (nodeHeader relay peer).bytes ++ message⟩ := by
    have whole := framed.bytes
    simp only [Proxy.forwarded, Proxy.sendToByAddr, framed.read_eq, getDstIntIp, getDstPort, nodeHeader,
      nswap32_nswap32, intOfSize_of_small (show n < 2 ^ 31 by omega), Int.toNat_natCast]
    rw [whole]
    rfl
  have handled : Proxy.handlePacketFromCoturn cfg st buf n = some (st, [Proxy.forwarded cfg buf n]) := by
    rw [Proxy.handlePacketFromCoturn_eq, kind]
  rw [Proxy.packetCallbackAsync, if_pos relayed, ite_self, handled, sent]

/-- A datagram of the proxy at a relay socket. -/
structure Arrives (bytes : List UInt8) (input : NetData) : Prop where
  datagram : PeerDatagram input bytes
  ttl : input.recvTtl ≠ 0
  source : ∃ ip port, input.srcAddr = .inet ip port

theorem Arrives.framed (arrives : Arrives (header.bytes ++ message) input) :
    Proxy.Framed header.bytes message (input.nbh.view 4) input.nbh.len where
  length := by rw [arrives.datagram.length, List.length_append]
  bytes := by
    rw [view_slice, arrives.datagram.length]
    exact arrives.datagram.bytes

theorem Arrives.getSize (arrives : Arrives (header.bytes ++ message) input) (small : message.length ≤ 1486) :
    input.nbh.getSize = message.length := by
  have total := arrives.framed.length
  rw [header_length] at total
  have fits : 14 ≤ input.nbh.len := by omega
  have size : input.nbh.getSize = input.nbh.len - 14 := sizeSub_of_le fits (by omega)
  omega

theorem Arrives.adjust (arrives : Arrives ((nodeHeader relay peer).bytes ++ message) input)
    (relayInet : relay = .inet relay.ip4 relay.port) (ilen : Int) :
    adjust input.nbh input.srcAddr ilen = adjustData input.nbh relay ilen := by
  obtain ⟨ip, port, source⟩ := arrives.source
  have header : read (input.nbh.view input.nbh.dataOrigin) = nodeHeader relay peer := by
    rw [arrives.datagram.dataOrigin]
    exact arrives.framed.read_eq
  have marked : (nodeHeader relay peer).identifier = customDataIdentifier := rfl
  have named : adjustSrcAddr input.nbh input.srcAddr = relay := by
    unfold adjustSrcAddr
    rw [header, source]
    dsimp only
    rw [if_pos marked, relayInet]
    rfl
  unfold Server.adjust
  rw [header, if_pos marked, named]

theorem moved_datagram {bytes : List UInt8} (datagram : PeerDatagram input bytes) {place : Nat}
    (value : input.nbh.mem.byte.slice place d.length = d) (small : d.length ≤ 1486) (src : IoaAddr) :
    PeerDatagram { input with
      nbh := (input.nbh.move 4 place d.length).addOffsetSize 0 0 d.length, srcAddr := src } d := by
  have limit : stunBufferSize = 65507 := rfl
  have offset : (input.nbh.move 4 place d.length).offset = 0 := datagram.offset
  have coffset : (input.nbh.move 4 place d.length).coffset = 0 := datagram.coffset
  have moved := addOffsetSize_forward offset coffset (show 0 < 2 ^ 16 by omega) d.length
  have word : d.length % 2 ^ 64 = d.length := by omega
  rw [word, if_neg (by omega)] at moved
  rw [moved]
  refine ⟨rfl, rfl, rfl, ?_⟩
  refine Eq.trans ?_ value
  apply Memory.slice_congr
  intro i inside
  simp [StunBuffer.move, Traced.copy, inside]

/-- What node B takes over of a frame: the data, unless it is the empty data of a Send
indication; then nothing is found to unwrap and the frame itself counts as data. -/
def Form.taken (form : Form) (frame d : List UInt8) : List UInt8 :=
  if form = .send ∧ d = [] then frame else d

theorem Form.Reads.taken_length (reads : form.Reads m message.length d) (small : message.length ≤ 1486)
    (header : StunCustomHeader) : (form.taken (header.bytes ++ message) d).length ≤ 1500 ∧ d.length ≤ 1486 := by
  have short : d.length ≤ 1486 := by
    cases form with
    | send =>
      obtain ⟨_, _, attr, found, value⟩ := reads
      obtain ⟨_, within⟩ := stunAttrGetFirstByTypeStr_bounds found
      have size := congrArg List.length value
      rw [Memory.length_slice] at size
      omega
    | channelData chnum =>
      obtain ⟨_, length, _⟩ := reads
      omega
  refine ⟨?_, short⟩
  unfold Form.taken
  split
  · rw [List.length_append, header_length]
    omega
  · omega

/-- The handler has taken over `d` from the source `src`. -/
structure TakenOver (input : NetData) (a : Adjusted) (src : IoaAddr) (d : List UInt8) : Prop where
  srcAddr : a.srcAddr = src
  ilen : a.ilen = d.length
  datagram : PeerDatagram { input with nbh := a.nbh, srcAddr := a.srcAddr } d

theorem Form.Reads.unwrapChannel (arrives : Arrives ((nodeHeader relay peer).bytes ++ message) input)
    (small : message.length ≤ 1486) (reads : (Form.channelData chnum).Reads (input.nbh.view 18) message.length d) :
    TakenOver input (unwrapChannel input.nbh relay) relay d := by
  obtain ⟨_, length, value⟩ := reads
  rw [view_slice] at value
  have origin := arrives.datagram.dataOrigin
  have front : input.nbh.data = 18 := by
    unfold StunBuffer.data
    rw [origin]
    rfl
  have rest : sizeSub input.nbh.getSize stunChannelHeaderLength = d.length := by
    have four : stunChannelHeaderLength = 4 := rfl
    rw [arrives.getSize small, length, four, sizeSub_of_le (by omega) (by omega)]
    omega
  have moved := moved_datagram arrives.datagram value (by omega) relay
  unfold Server.unwrapChannel
  rw [rest, origin, front]
  exact ⟨rfl, intOfSize_of_small (by omega), moved⟩

theorem Form.Reads.unwrapSend {attr : Nat} (arrives : Arrives ((nodeHeader relay peer).bytes ++ message) input)
    (short : d.length ≤ 1486)
    (value : (input.nbh.view 18).slice (attr + 4) (stunAttrGetLen (input.nbh.view 18) attr) = d) :
    TakenOver input (unwrapSend input.nbh relay (attr + 4)) relay d := by
  have length : stunAttrGetLen (input.nbh.view 18) attr = d.length := by
    rw [← value, Memory.length_slice]
  rw [length, view_slice] at value
  have origin := arrives.datagram.dataOrigin
  have front : input.nbh.data = 18 := by
    unfold StunBuffer.data
    rw [origin]
    rfl
  have announced : (net16 (input.nbh.view 18) (attr + 4 - 2)).toNat = d.length := length
  have moved := moved_datagram arrives.datagram value short relay
  unfold Server.unwrapSend
  rw [front, announced, origin]
  exact ⟨rfl, rfl, moved⟩

/-- The block that unwraps frames, for a frame that carries `d`. -/
theorem Form.Reads.adjustData (arrives : Arrives ((nodeHeader relay peer).bytes ++ message) input)
    (small : message.length ≤ 1486) (reads : form.Reads (input.nbh.view 18) message.length d) :
    TakenOver input (adjustData input.nbh relay (input.nbh.len : Nat)) relay
      (form.taken ((nodeHeader relay peer).bytes ++ message) d) := by
  have size := arrives.getSize small
  have front : input.nbh.data = 18 := by
    unfold StunBuffer.data
    rw [arrives.datagram.dataOrigin]
    rfl
  unfold Server.adjustData
  rw [size, front]
  cases form with
  | channelData chnum =>
    have whole : (Form.channelData chnum).taken ((nodeHeader relay peer).bytes ++ message) d = d :=
      if_neg (fun both => nomatch both.1)
    rw [if_pos reads.1, whole]
    exact reads.unwrapChannel arrives small
  | send =>
    obtain ⟨_, short⟩ := reads.taken_length small (nodeHeader relay peer)
    obtain ⟨indication, method, attr, found, value⟩ := reads
    have length : stunAttrGetLen (input.nbh.view 18) attr = d.length := by
      rw [← value, Memory.length_slice]
    have first : sendValue (input.nbh.view 18) message.length =
        if d.length < 1 then none else some (attr + 4) := by
      unfold sendValue firstData stunAttrGetValue
      rw [if_pos ⟨indication, method⟩, found]
      dsimp only
      rw [length]
    rw [if_neg (by simp [not_isChannelMsgStr_of_class indication]), first]
    by_cases empty : d = []
    · have frame : Form.send.taken ((nodeHeader relay peer).bytes ++ message) d =
          (nodeHeader relay peer).bytes ++ message := if_pos ⟨rfl, empty⟩
      rw [if_pos (by simp [empty]), frame]
      refine ⟨rfl, ?_, ⟨arrives.datagram.offset, arrives.datagram.coffset, arrives.datagram.length,
        arrives.datagram.bytes⟩⟩
      exact congrArg Nat.cast arrives.datagram.length
    · have whole : Form.send.taken ((nodeHeader relay peer).bytes ++ message) d = d :=
        if_neg (fun both => empty both.2)
      have positive : 0 < d.length := List.length_pos_iff.mpr empty
      rw [if_neg (by omega), whole]
      exact Form.Reads.unwrapSend arrives short value

/-- The client gets `d` in ChannelData of the channel of the source, or in a DATA
indication that names the source. -/
def Delivers (ctx : PeerContext) (input : NetData) (client src : IoaAddr) (d : List UInt8) : Prop :=
  ∃ frame, (peerInputHandler ctx input).frame = some frame ∧
    ((∃ chnum, ChannelOf ctx.allocation src chnum ∧ frame.sent client = channelBytes src chnum d) ∨
      IndicationBytes src d (frame.sent client))

theorem TakenOver.delivers_iff {ctx : PeerContext} {len : Nat} {src : IoaAddr} {w : List UInt8}
    (ready : PeerReady ctx input) (size : input.nbh.len = len) (small : len ≤ 1500)
    (takenOver : TakenOver input (adjust input.nbh input.srcAddr len) src w) (short : w.length ≤ 1500)
    (unmapped : ctx.mapping = []) (permitted : (allocationGetPermission ctx.allocation src).isSome = true)
    (six : src.ip6.length = 16) (client : IoaAddr) (d : List UInt8) : Delivers ctx input client src d ↔ d = w := by
  obtain ⟨tinfo, found⟩ := Option.isSome_iff_exists.mp permitted
  have source := takenOver.srcAddr
  obtain ⟨frame, result, bound, unbound⟩ := peerFrame_sent takenOver.datagram takenOver.ilen (by omega) ready.udp unmapped
    (source.symm ▸ found) (source.symm ▸ six) client
  rw [← peerInputHandler_adjusted ready size (by omega) rfl (source.symm ▸ found)] at result
  rw [source] at bound unbound
  constructor
  · rintro ⟨other, again, delivered⟩
    cases Option.some.inj (result.symm.trans again)
    by_cases channel : ∃ chnum, ChannelOf ctx.allocation src chnum
    · obtain ⟨chnum, channelOf⟩ := channel
      rw [bound chnum channelOf] at delivered
      rcases delivered with ⟨number, numberOf, bytes⟩ | indication
      · cases channelOf.unique numberOf
        exact (channelBytes_injective bytes).symm
      · exact absurd indication (IndicationBytes.not_channel channelOf.valid)
    · rcases delivered with ⟨number, numberOf, _⟩ | indication
      · exact absurd ⟨number, numberOf⟩ channel
      · exact indication.unique (unbound (fun chnum channelOf => channel ⟨chnum, channelOf⟩))
  · rintro rfl
    refine ⟨frame, result, ?_⟩
    by_cases channel : ∃ chnum, ChannelOf ctx.allocation src chnum
    · obtain ⟨chnum, channelOf⟩ := channel
      exact Or.inl ⟨chnum, channelOf, bound chnum channelOf⟩
    · exact Or.inr (unbound (fun chnum channelOf => channel ⟨chnum, channelOf⟩))

/-- The frame that travels between the nodes, as far as a proxy takes it in. -/
def Form.frame (form : Form) (nbh : StunBuffer) (relay peer : IoaAddr) (d : List UInt8) : List UInt8 :=
  (nodeHeader relay peer).bytes ++ (nbh.view 18).slice 0 (form.carried nbh d)

theorem Form.carried_le (form : Form) (nbh : StunBuffer) (d : List UInt8) : form.carried nbh d ≤ 1486 :=
  Nat.min_le_left _ _

theorem Form.frame_ne_nil (form : Form) (nbh : StunBuffer) (relay peer : IoaAddr) (d : List UInt8) :
    form.frame nbh relay peer d ≠ [] := by
  intro empty
  have length := congrArg List.length empty
  simp [Form.frame, header_length] at length

section Crossing

variable {form : Form} {ctx : SendContext} {atA : NetData} {relay peer : IoaAddr} {d : List UInt8}

theorem Form.Asks.forwards (asks : form.Asks ctx atA peer d) (other : OtherNode ctx atA relay peer) {buf : Memory}
    {n : Nat} {ttl : Int} {tos : Nat}
    (holds : Holds (sendToNode relay peer (form.buffer atA.nbh d) ttl tos).data buf n) (cfg : Proxy.Config)
    (st : Proxy.State) (srcip : UInt32) (srcport : UInt16) :
    Proxy.packetCallbackAsync cfg st srcip srcport buf n =
      some (st, [⟨Proxy.hopIp cfg peer.ip4, nswap16 peer.port, n, form.frame atA.nbh relay peer d⟩]) := by
  have offset : (form.buffer atA.nbh d).offset = 0 := by
    cases form <;> exact other.received.offset
  have coffset : (form.buffer atA.nbh d).coffset = 0 := by
    cases form <;> exact other.received.coffset
  have small : (form.buffer atA.nbh d).len ≤ 70000 := by
    cases form with
    | send =>
      have fits := other.fits
      show atA.nbh.len ≤ 70000
      omega
    | channelData chnum =>
      have length := Form.carried_channelData asks other
      have short := (Form.channelData chnum).carried_le atA.nbh d
      show (d.length + 4) % 2 ^ 64 ≤ 70000
      omega
  have view : (form.buffer atA.nbh d).view 18 = atA.nbh.view 18 := by
    unfold StunBuffer.view
    rw [form.buffer_mem]
  rw [sendToNode_data offset coffset rfl small, view] at holds
  have total := holds.1
  have framed := holds.framed
  have same := framed_same framed
  have reads : form.Reads (Proxy.payload buf) (form.carried atA.nbh d) d := asks.reads other same
  have length : ((atA.nbh.view 18).slice 0 (form.carried atA.nbh d)).length = form.carried atA.nbh d :=
    Memory.length_slice _ _ _
  rw [← length] at reads
  exact packetCallbackAsync_forwards framed (by omega) reads cfg st srcip srcport

theorem Form.Asks.delivers_iff (asks : form.Asks ctx atA peer d) (other : OtherNode ctx atA relay peer)
    {ctxB : PeerContext} (ready : ∀ input : NetData, input.recvTtl ≠ 0 → PeerReady ctxB input)
    (unmapped : ctxB.mapping = []) (permitted : (allocationGetPermission ctxB.allocation relay).isSome = true)
    {atB : NetData} (arrives : Arrives (form.frame atA.nbh relay peer d) atB) (client : IoaAddr) :
    Delivers ctxB atB client relay d ↔ (form ≠ .send ∨ 0 < d.length) := by
  have short := form.carried_le atA.nbh d
  have length : ((atA.nbh.view 18).slice 0 (form.carried atA.nbh d)).length = form.carried atA.nbh d :=
    Memory.length_slice _ _ _
  have total := arrives.framed.length
  rw [header_length, length] at total
  have same (i : Nat) (inside : i < form.carried atA.nbh d) : atB.nbh.view 18 i = atA.nbh.view 18 i := by
    refine Eq.trans ?_ (framed_same arrives.framed i inside)
    show atB.nbh.mem.byte (18 + i) = atB.nbh.mem.byte (4 + (14 + i))
    congr 1
    omega
  have reads := asks.reads other same
  rw [← length] at reads
  have takenOver := reads.adjustData arrives (by omega)
  rw [← arrives.adjust other.relayInet] at takenOver
  obtain ⟨bound, _⟩ := reads.taken_length (by omega) (nodeHeader relay peer)
  have six : relay.ip6.length = 16 := by
    rw [other.relayInet]
    rfl
  rw [takenOver.delivers_iff (ready atB arrives.ttl) rfl (by omega) bound unmapped permitted six client d]
  unfold Form.taken
  by_cases lost : form = .send ∧ d = []
  · rw [if_pos lost]
    obtain ⟨isSend, empty⟩ := lost
    constructor
    · intro all
      exact absurd (all.symm.trans empty) (form.frame_ne_nil atA.nbh relay peer d)
    · rintro (notSend | positive)
      · exact absurd isSend notSend
      · simp [empty] at positive
  · rw [if_neg lost]
    simp only [true_iff]
    by_cases isSend : form = .send
    · exact Or.inr (List.length_pos_iff.mpr (fun empty => lost ⟨isSend, empty⟩))
    · exact Or.inl isSend

end Crossing

/-- The message leaves node A for the proxy at the peer's host, the proxy passes it
on to the peer's relay, and node B hands exactly `d` to its client, from `relay`. -/
def CrossesExactly (form : Form) (ctxA : SendContext) (atA : NetData) (cfg : Proxy.Config) (ctxB : PeerContext)
    (relay peer client : IoaAddr) (d : List UInt8) : Prop :=
  ∃ datagram, form.run ctxA atA = some datagram ∧
    datagram.dest = .inet peer.ip4 (read (atA.nbh.view atA.nbh.dataOrigin)).dstPort ∧
    ∀ (st : Proxy.State) (srcip : UInt32) (srcport : UInt16) (buf : Memory) (n : Nat), Holds datagram.data buf n →
      ∃ sent : Proxy.Send, Proxy.packetCallbackAsync cfg st srcip srcport buf n = some (st, [sent]) ∧
        sent.ip = peer.ip4 ∧ sent.port = nswap16 peer.port ∧
        ∀ atB, Arrives sent.data atB → Delivers ctxB atB client relay d

theorem exists_holds (bytes : List UInt8) : ∃ buf n, Holds bytes buf n := by
  refine ⟨.ofList (bytes.take 1500), min 1500 bytes.length, rfl, ?_⟩
  have length : (bytes.take 1500).length = min 1500 bytes.length := List.length_take
  rw [← length]
  exact Memory.slice_ofList _

theorem exists_arrives (bytes : List UInt8) : ∃ atB, Arrives bytes atB := by
  refine ⟨⟨.received (.ofList bytes) bytes.length, .inet 0 0, 64, 0⟩, ⟨rfl, rfl, rfl, ?_⟩, by simp, 0, 0, rfl⟩
  refine Eq.trans ?_ (Memory.slice_ofList bytes)
  apply Memory.slice_congr
  intro i _
  show bytes.getD (4 + i - 4) 0 = bytes.getD (0 + i) 0
  congr 1
  omega

theorem hopIp_eq_iff (cfg : Proxy.Config) (ip : UInt32) :
    Proxy.hopIp cfg ip = ip ↔ (ip ≠ cfg.localUdpIp ∨ ip = Proxy.loopbackIp) := by
  unfold Proxy.hopIp
  by_cases here : ip = cfg.localUdpIp
  · rw [if_pos here]
    simp only [here, ne_eq, not_true_eq_false, false_or]
    exact eq_comm
  · simp [here]

section Conditions

variable {form : Form} {ctxA : SendContext} {atA : NetData} {cfg : Proxy.Config} {ctxB : PeerContext}
  {relay peer client : IoaAddr} {d : List UInt8}

theorem CrossesExactly.conditions (crosses : CrossesExactly form ctxA atA cfg ctxB relay peer client d)
    (other : OtherNode ctxA atA relay peer) (asks : form.Asks ctxA atA peer d)
    (ready : ∀ input : NetData, input.recvTtl ≠ 0 → PeerReady ctxB input) (unmapped : ctxB.mapping = [])
    (permitted : (allocationGetPermission ctxB.allocation relay).isSome = true) :
    (form ≠ .send ∨ 0 < d.length) ∧ Proxy.hopIp cfg peer.ip4 = peer.ip4 := by
  obtain ⟨datagram, made, _, onward⟩ := crosses
  cases Option.some.inj ((asks.run other).symm.trans made)
  obtain ⟨buf, n, holds⟩ := exists_holds
    (sendToNode relay peer (form.buffer atA.nbh d) ((atA.recvTtl : Int) - 1) atA.recvTos).data
  obtain ⟨sent, passed, ip, _, delivered⟩ := onward .init 0 0 buf n holds
  rw [asks.forwards other holds cfg .init 0 0] at passed
  cases (List.cons.inj (Prod.mk.inj (Option.some.inj passed)).2).1
  obtain ⟨atB, arrives⟩ := exists_arrives (form.frame atA.nbh relay peer d)
  exact ⟨(asks.delivers_iff other ready unmapped permitted arrives client).mp (delivered atB arrives), ip⟩

/-- Data crosses from one node to the other unchanged exactly if it is not the empty
data of a Send indication, and the proxy does not take the peer's address for its own. -/
theorem crosses_exactly_iff (other : OtherNode ctxA atA relay peer) (asks : form.Asks ctxA atA peer d)
    (ready : ∀ input : NetData, input.recvTtl ≠ 0 → PeerReady ctxB input) (unmapped : ctxB.mapping = [])
    (permitted : (allocationGetPermission ctxB.allocation relay).isSome = true) :
    CrossesExactly form ctxA atA cfg ctxB relay peer client d ↔
      (form ≠ .send ∨ 0 < d.length) ∧ (peer.ip4 ≠ cfg.localUdpIp ∨ peer.ip4 = Proxy.loopbackIp) := by
  rw [← hopIp_eq_iff]
  constructor
  · intro crosses
    exact crosses.conditions other asks ready unmapped permitted
  · rintro ⟨carried, direct⟩
    refine ⟨_, asks.run other, ?_, ?_⟩
    · cases form <;> rfl
    · intro st srcip srcport buf n holds
      refine ⟨_, asks.forwards other holds cfg st srcip srcport, direct, rfl, ?_⟩
      intro atB arrives
      exact (asks.delivers_iff other ready unmapped permitted arrives client).mpr carried

end Conditions

/-- The relay 10.0.0.9:49152 on node A; its peer is on 10.0.0.1. -/
def otherRelay : IoaAddr := .inet 0x0900000A (nswap16 49152)

def otherContext : SendContext :=
  { hostContext with clientLocalIp := 0x0900000A, relaySocket := fun _ => some otherRelay }

theorem otherContext_otherNode (fits : (sendIndication d).length ≤ 1500)
    (headed : stunCustomHeaderLen ≤ (sendIndication d).length) :
    OtherNode otherContext (sendArrives d) otherRelay hostPeer where
  valid := rfl
  udp := rfl
  ttl := by simp [sendArrives]
  received := ⟨rfl, rfl, headed, Nat.le_trans fits (by decide)⟩
  fits := fits
  relaySocket := rfl
  relayInet := rfl
  peerInet := rfl
  known := by decide
  elsewhere := by decide

theorem exampleContext_ready (input : NetData) (ttl : input.recvTtl ≠ 0) : PeerReady exampleContext input :=
  ⟨ttl, rfl, rfl, rfl, rfl, rfl, rfl⟩

theorem shortData_asks : Form.send.Asks otherContext (sendArrives shortData) hostPeer shortData :=
  ⟨by decide, ⟨⟨20, by decide, by decide⟩, ⟨32, by decide, by decide⟩, by decide⟩, by decide, by decide⟩

theorem noData_asks : Form.send.Asks otherContext (sendArrives []) hostPeer [] :=
  ⟨by decide, ⟨⟨20, by decide, by decide⟩, ⟨32, by decide, by decide⟩, by decide⟩, by decide, by decide⟩

theorem crosses_exactly_iff_four :
    CrossesExactly .send otherContext (sendArrives shortData) Proxy.exampleConfig exampleContext otherRelay hostPeer
        .any shortData ↔
      (Form.send ≠ .send ∨ 0 < shortData.length) ∧
        (hostPeer.ip4 ≠ Proxy.exampleConfig.localUdpIp ∨ hostPeer.ip4 = Proxy.loopbackIp) :=
  crosses_exactly_iff (otherContext_otherNode (by decide) (by decide)) shortData_asks exampleContext_ready rfl
    (by decide)

/-- Empty data sent in an indication does not cross: node B hands the frame itself to its client. -/
theorem empty_send_is_not_unwrapped :
    ¬ ∀ (form : Form) (ctxA : SendContext) (atA : NetData) (cfg : Proxy.Config) (ctxB : PeerContext)
      (relay peer client : IoaAddr) (d : List UInt8), OtherNode ctxA atA relay peer → form.Asks ctxA atA peer d →
      (∀ input : NetData, input.recvTtl ≠ 0 → PeerReady ctxB input) → ctxB.mapping = [] →
      (allocationGetPermission ctxB.allocation relay).isSome = true → peer.ip4 ≠ cfg.localUdpIp →
      CrossesExactly form ctxA atA cfg ctxB relay peer client d := by
  intro always
  have other : OtherNode otherContext (sendArrives []) otherRelay hostPeer :=
    otherContext_otherNode (by decide) (by decide)
  have crosses := always .send otherContext (sendArrives []) Proxy.exampleConfig exampleContext otherRelay hostPeer .any
    [] other noData_asks exampleContext_ready rfl (by decide) (by decide)
  obtain ⟨carried, _⟩ := crosses.conditions other noData_asks exampleContext_ready rfl (by decide)
  simp at carried

end Cluster
end TurnCluster
