import TurnCluster.Cluster.Crossing
import TurnCluster.Proxy.Keys
import TurnCluster.Proxy.Release
import TurnCluster.Server.Expiry
import TurnCluster.Server.FamilyError
import TurnCluster.Server.IpRange
import TurnCluster.Server.PeerLength
import TurnCluster.Server.RelayedAddress

namespace TurnCluster
namespace Cluster

open StunCustomHeader Server Proxy

variable {peer : IoaAddr} {ctx : PeerContext} {header : StunCustomHeader} {input : NetData} {after : SuperSession}
  {attrType : UInt16} {m : Memory} {b : StunBuffer} {frame : PeerFrame} {buf received : Memory} {s : RelaySocket}
  {client : IoaAddr} (cfg : Config) {a : Adjusted} {len : Nat} {bytes : List UInt8} {notice : Memory} {n : Nat}

theorem framed_of_short (holds : Holds (header.bytes ++ m.slice 0 len) buf n)
    (short : (header.bytes ++ m.slice 0 len).length ≤ 1500) :
    Framed header.bytes (m.slice 0 len) buf n ∧ n < 2 ^ 31 := by
  have framed := holds.framed
  have total := holds.1
  rw [List.length_append, header_length, Memory.length_slice] at short total
  rw [Nat.min_eq_right (show len ≤ 1486 by omega)] at framed
  exact ⟨framed, by omega⟩

/-- Whatever arrives of a frame starts with its header. -/
theorem framed_of_sent {ttl : Int} {tos : Nat} (small : b.len ≤ 70000)
    (holds : Holds (sendDataFromIoaSocketNbh client (b.writeHeader header) ttl tos).data buf n) :
    ∃ message, Framed header.bytes message buf n := by
  have behind := view_slice (b.writeHeader header) (b.dataOrigin + 14) 0 b.len
  rw [Nat.add_zero] at behind
  rw [frame_sent header rfl small, ← behind] at holds
  exact ⟨_, holds.framed⟩

theorem namesFirst_of_framed {addr : IoaAddr} (framed : Framed header.bytes (m.slice 0 len) buf n)
    (small : n < 2 ^ 31) (names : NamesFirst attrType m len addr) :
    NamesFirst attrType (payload buf) (payloadLen n) addr := by
  have length := payloadLen_of_framed framed small
  rw [Memory.length_slice] at length
  rw [length]
  exact names.congr (framed_same framed)

theorem getStunAttrAddress_of_namesFirst {addr : IoaAddr} (names : NamesFirst attrType m len addr)
    (four : addr.family = .inet) :
    (getStunAttrAddress m len attrType).ip4 = addr.ip4 ∧ (getStunAttrAddress m len attrType).port = addr.port := by
  obtain ⟨attr, found, first, decoded, same⟩ := names
  obtain ⟨_, family, port, ip, _⟩ := addrEq_iff.mp same
  have read : getStunAttrAddress m len attrType = found := by
    unfold getStunAttrAddress
    rw [first]
    dsimp only
    rw [decoded]
    rfl
  rw [read]
  exact ⟨ip (family.trans four), port⟩

/-- What the handler makes of a datagram before it looks for a permission. -/
def handled (input : NetData) : Adjusted :=
  adjust input.nbh input.srcAddr (min (intOfSize input.nbh.getSizeOrigin)
    (udpStunBufferSize - stunChannelHeaderLength : Nat))

/-- A datagram of a relay socket that is taken to come from the peer. If another node
has put a header in front of it, it came in with all of that. -/
structure ArrivesFrom (peer : IoaAddr) (input : NetData) : Prop where
  received : ∃ received n, input.nbh = .received received n ∧ n ≤ udpStunBufferSize ∧
    (wrapping received n = .plain ∨ stunCustomHeaderLen ≤ n)
  source : adjustSrcAddr input.nbh input.srcAddr = peer

theorem ArrivesFrom.prepared (arrives : ArrivesFrom peer input) :
    (handled input).srcAddr = peer ∧ ∃ received len, len ≤ 16380 ∧ Prepared received (handled input) len := by
  obtain ⟨⟨received, n, nbh, small, whole⟩, source⟩ := arrives
  have capacity : udpStunBufferSize = 16384 := rfl
  have custom : stunCustomHeaderLen = 14 := rfl
  unfold handled
  rw [nbh] at source ⊢
  rw [adjust_received, source]
  cases wrapped : wrapping received n with
  | plain => exact ⟨rfl, received, min n 16380, Nat.min_le_right _ _, plain_prepared received small peer⟩
  | channel =>
    rw [wrapped] at whole
    have long : stunCustomHeaderLen ≤ n := whole.resolve_left (fun same => nomatch same)
    obtain ⟨size, _⟩ := (channel_copies small wrapped).1 long
    obtain ⟨moved, ilen⟩ := @unwrapChannel_moved received n (n - 18) peer size
    rw [intOfSize_of_small (by omega)] at ilen
    exact ⟨rfl, received, n - 18, by omega, (unwrapped_prepared (by omega) moved ilen).1⟩
  | send value =>
    rw [wrapped] at whole
    have long : stunCustomHeaderLen ≤ n := whole.resolve_left (fun same => nomatch same)
    have fits := (sendLength_within small wrapped).2 long
    obtain ⟨moved, ilen, _⟩ := unwrapSend_moved received n value peer
    exact ⟨rfl, received, sendLength received value, by omega, (unwrapped_prepared (by omega) moved ilen).1⟩

theorem peerInputHandler_frame (sent : (peerInputHandler ctx input).frame = some frame) :
    (∃ chnum, frame.nbh = (Server.channelFrame ctx (handled input) chnum).1) ∨
      frame.nbh = (indicationFrame ctx (handled input)).1 := by
  have either {chnum : UInt16} (made : (peerFrame ctx input (handled input) chnum).frame = some frame) :
      (∃ chnum, frame.nbh = (Server.channelFrame ctx (handled input) chnum).1) ∨
        frame.nbh = (indicationFrame ctx (handled input)).1 := by
    unfold peerFrame at made
    split at made
    · exact Or.inl ⟨chnum, by rw [← Option.some.inj made]⟩
    · exact Or.inr (by rw [← Option.some.inj made])
  unfold peerInputHandler at sent
  dsimp only at sent
  split at sent
  · cases sent
  · split at sent
    · cases sent
    · split at sent
      · exact either sent
      · split at sent
        · exact either sent
        · cases sent

theorem channelFrame_headed (ctx : PeerContext) (prepared : Prepared received a len) (small : len ≤ 16380)
    (chnum : UInt16) :
    ∃ b : StunBuffer, (Server.channelFrame ctx a chnum).1 = b.writeHeader (peerHeader a.srcAddr) ∧ b.len ≤ 70000 := by
  obtain ⟨unsigned, signed⟩ := sizes_of_small small
  unfold Server.channelFrame
  dsimp only
  rw [prepared.ilen, unsigned, signed]
  refine ⟨_, rfl, ?_⟩
  show (stunInitChannelMessageStr _ _ _ _ _ _).2 % 2 ^ 64 ≤ 70000
  have bounded (b : StunBuffer) (pos : Nat) :
      (stunInitChannelMessageStr chnum b pos len len ctx.clientSocketStream).2 ≤ 70000 := by
    unfold stunInitChannelMessageStr
    dsimp only
    split
    · show len ≤ 70000
      omega
    · dsimp only
      split <;> omega
  exact (Nat.mod_le _ _).trans (bounded _ _)

theorem channelKey_of_framed {message : List UInt8} (framed : Framed (peerHeader peer).bytes message buf n)
    (set : peer.ip4 ≠ 0) : channelKey buf = peerKey peer := by
  have header := framed.read_eq
  refine channelKey_of_set (by rw [header]; rfl) (by rw [header]; rfl) ?_
  rw [header]
  intro zero
  have swapped : nswap32 (nswap32 peer.ip4) = nswap32 0 := congrArg nswap32 zero
  rw [nswap32_nswap32] at swapped
  exact set swapped

theorem indicationFrame_names (prepared : Prepared received a len) (small : len ≤ 16380) (unmapped : ctx.mapping = [])
    (ip : a.srcAddr.IsIp) (ttl : Int) (tos : Nat) (client : IoaAddr) :
    ∃ d, IndicationBytes a.srcAddr d (sendDataFromIoaSocketNbh client (indicationFrame ctx a).1 ttl tos).data := by
  have length : (a.nbh.mem.byte.slice 4 len).length = len := Memory.length_slice _ _ _
  have datagram : PeerDatagram ⟨{ a.nbh with len := len }, a.srcAddr, 0, 0⟩ (a.nbh.mem.byte.slice 4 len) :=
    ⟨prepared.offset, prepared.coffset, length.symm, by rw [length]⟩
  have same : indicationFrame ctx a =
      indicationFrame ctx (PeerDatagram.adjusted ⟨{ a.nbh with len := len }, a.srcAddr, 0, 0⟩
        (a.nbh.mem.byte.slice 4 len)) := by
    unfold indicationFrame PeerDatagram.adjusted
    rw [prepared.ilen, length]
    rfl
  rw [same]
  exact ⟨_, indicationFrame_sent datagram (by omega) unmapped ip.known ip.six ttl tos client⟩

theorem dataKey_of_indication {d : List UInt8} (indication : IndicationBytes peer d bytes)
    (four : peer.family = .inet) (holds : Holds bytes buf n) (short : bytes.length ≤ 1500) :
    Proxy.dataKey buf n = peerKey peer := by
  obtain ⟨message, len, rfl, indication⟩ := indication
  obtain ⟨framed, small⟩ := framed_of_short holds short
  obtain ⟨ip, port⟩ := getStunAttrAddress_of_namesFirst (namesFirst_of_framed framed small indication.peerAddr) four
  unfold Proxy.dataKey peerKey
  dsimp only
  rw [ip, port]

theorem ArrivesFrom.channelKey (arrives : ArrivesFrom peer input) (set : peer.ip4 ≠ 0) (chnum : UInt16)
    (made : frame.nbh = (Server.channelFrame ctx (handled input) chnum).1) (holds : Holds (frame.sent client) buf n) :
    Proxy.channelKey buf = peerKey peer := by
  obtain ⟨source, received, len, small, prepared⟩ := arrives.prepared
  obtain ⟨b, headed, short⟩ := channelFrame_headed ctx prepared small chnum
  unfold PeerFrame.sent at holds
  rw [made, headed, source] at holds
  obtain ⟨message, framed⟩ := framed_of_sent short holds
  exact channelKey_of_framed framed set

theorem ArrivesFrom.dataKey (arrives : ArrivesFrom peer input) (ip : peer.IsIp) (four : peer.family = .inet)
    (unmapped : ctx.mapping = []) (made : frame.nbh = (indicationFrame ctx (handled input)).1)
    (short : (frame.sent client).length ≤ 1500) (holds : Holds (frame.sent client) buf n) :
    Proxy.dataKey buf n = peerKey peer := by
  obtain ⟨source, received, len, small, prepared⟩ := arrives.prepared
  rw [← source] at ip
  obtain ⟨d, indication⟩ := indicationFrame_names prepared small unmapped ip frame.ttl frame.tos client
  unfold PeerFrame.sent at short holds
  rw [made] at short holds
  rw [source] at indication
  exact dataKey_of_indication indication four holds short

theorem request_recorded (st : State) (client : Client) (four : peer.family = .inet)
    (request : stunIsRequestStr buf n = true) (method : stunGetMethodStr buf n = stunMethodCreatePermission)
    (fits : n + stunCustomHeaderLen < 1500) (names : NamesFirst stunAttributeXorPeerAddress buf n peer) :
    (handlePacketFromClient cfg st client.ip client.port buf n).1.mapRequests (stunTidFromMessageStr buf) =
      some ⟨client.ip, client.port, peer.ip4, peer.port⟩ := by
  obtain ⟨ip, port⟩ := getStunAttrAddress_of_namesFirst names four
  unfold handlePacketFromClient
  dsimp only
  rw [if_pos fits, request, method, ip, port]
  simp

theorem success_installs {st : State} {pending : RequestInfo} (kind : frameKind buf n = .permissionSuccess)
    (recorded : st.mapRequests (frameTid buf) = some pending) :
    ∃ st' sends, handlePacketFromCoturn cfg st buf n = some (st', sends) ∧
      st'.mapPeerInfo = Function.update st.mapPeerInfo pending.routeKey (some ⟨0, pending.srcip, pending.srcport⟩) := by
  refine ⟨settlePermission st (frameTid buf), [sendToEchoed cfg buf n], ?_, ?_⟩
  · rw [handlePacketFromCoturn_eq, kind]
  · unfold settlePermission
    rw [recorded]
    exact installPermission_peerInfo st (frameTid buf) pending

/-- The notice that coturn sends when a session with this relay socket is released. -/
def ReleaseNotice (s : RelaySocket) (notice : Memory) : Prop :=
  ∃ ss nbh client ttl tos n, ss.relay4.s = some s ∧ notifyReleaseRelaySession ss = some nbh ∧
    Holds (sendDataFromIoaSocketNbh client nbh ttl tos).data notice n

theorem ReleaseNotice.releaseKey (released : ReleaseNotice s notice) :
    Proxy.releaseKey notice = addrKey s.localAddr.ip4 (nswap16 s.localAddr.port) := by
  obtain ⟨ss, nbh, client, ttl, tos, n, relay, notified, holds⟩ := released
  unfold notifyReleaseRelaySession at notified
  rw [relay] at notified
  cases Option.some.inj notified
  obtain ⟨message, framed⟩ := framed_of_sent (show StunBuffer.ioaNetworkBufferAllocate.len ≤ 70000 by decide) holds
  have header := framed.read_eq
  simp [Proxy.releaseKey, addrKey, getDstIntIp, getDstPort, header, releaseHeader]

/-- What coturn sends of a response, behind a header. -/
def responseBytes (front : StunCustomHeader) (response : StunBuffer × Nat) : List UInt8 :=
  front.bytes ++ (response.1.view 18).slice 0 response.2

/-- An Allocate success that reaches the proxy whole, of a session with the IPv4 relay
socket `s` on a server without an external address and without a mapping of addresses. -/
structure SuccessFrame (after : SuperSession) (s : RelaySocket) (buf : Memory) (n : Nat) : Prop where
  relay : after.relay4.s = some s
  ip : s.localAddr.IsIp
  four : s.localAddr.family = .inet
  kind : frameKind buf n = .allocateSuccess
  sent : ∃ server sur before m header remoteAddr front,
    let response := finishResponse sur (allocateResponse server sur before after m header remoteAddr)
    server.externalIpSet = false ∧ server.mapping = [] ∧ (responseBytes front response).length ≤ 1500 ∧
      Holds (responseBytes front response) buf n

theorem method_of_allocateSuccess (kind : frameKind buf n = .allocateSuccess) :
    payloadMethod buf n = stunMethodAllocate := by
  unfold frameKind at kind
  split_ifs at kind
  rename_i allocate
  exact allocate

theorem not_overwritten {front : StunCustomHeader} (framed : Framed front.bytes ((b.view 18).slice 0 len) buf n)
    (kind : frameKind buf n = .allocateSuccess) : ¬ Overwritten b len := by
  intro overwritten
  have first : payload buf 0 = b.mem.byte 18 := framed_same framed 0 overwritten.long
  refine method_of_overwritten (m := payload buf) ?_ (payloadLen n) (method_of_allocateSuccess kind)
  rw [first]
  exact overwritten.first

/-- A noted failure makes coturn write an empty address, which reads as 0.0.0.0 with port 0. -/
theorem relayedAddr_shown {server : TurnServer} (unset : server.externalIpSet = false) (sur : Surroundings)
    (b : StunBuffer) (tid : List UInt8) (failure : Bool) {r : RelayEndpointSession} (relay : r.s = some s)
    (second : Option IoaAddr) (remoteAddr : IoaAddr) (fields : List Attribute) :
    stunSetAllocateResponseStr [] b 18 tid (relayedAddr server sur failure r) second remoteAddr fields =
      stunSetAllocateResponseStr [] b 18 tid (some (bif failure then .inet 0 0 else s.localAddr)) second remoteAddr
        fields := by
  cases failure with
  | true => rfl
  | false =>
    unfold relayedAddr
    rw [if_neg (by decide), relay, Option.map_some, if_neg (by simp [unset])]
    rfl

theorem SuccessFrame.relayInfo (success : SuccessFrame after s buf n) :
    Proxy.relayInfo buf n =
      bif after.relayFailure4 then ⟨0, 0⟩ else ⟨s.localAddr.ip4, s.localAddr.port⟩ := by
  obtain ⟨server, sur, before, m, header, remoteAddr, front, unset, unmapped, short, holds⟩ := success.sent
  obtain ⟨framed, small⟩ := framed_of_short holds short
  have errors : addressErrors server sur.env before m = (0, 0) := by
    by_contra errors
    exact not_overwritten framed success.kind (allocateResponse_overwritten errors).finish
  have built : allocateResponse server sur before after m header remoteAddr =
      stunSetAllocateResponseStr [] (responseBuffer header) 18 m.tid
        (some (bif after.relayFailure4 then .inet 0 0 else s.localAddr))
        (relayedAddr server sur after.relayFailure6 after.relay6) remoteAddr
        (allocateResponseFields server sur before after m) := by
    unfold allocateResponse
    rw [errors, unmapped]
    dsimp only
    rw [addFamilyError_zero, addFamilyError_zero, relayedAddr_shown unset sur _ _ _ success.relay]
  have shown : (bif after.relayFailure4 then IoaAddr.inet 0 0 else s.localAddr).family = .inet ∧
      (bif after.relayFailure4 then IoaAddr.inet 0 0 else s.localAddr).ip6.length = 16 := by
    cases after.relayFailure4 with
    | true => exact ⟨rfl, rfl⟩
    | false => exact ⟨success.four, success.ip.six⟩
  have message : MessageAt (allocateResponse server sur before after m header remoteAddr).1 18
      (allocateResponse server sur before after m header remoteAddr).2 := by
    rw [built]
    exact stunSetAllocateResponseStr_message _ _ _ _ _ _ _ _
  have names := stunSetAllocateResponseStr_namesFirst _ _ _ _ _ _ rfl (by rw [shown.1]; exact Family.noConfusion) shown.2
    built.symm (finishResponse_extended sur message)
  obtain ⟨ip, port⟩ := getStunAttrAddress_of_namesFirst (namesFirst_of_framed framed small names) shown.1
  unfold Proxy.relayInfo
  dsimp only
  rw [ip, port]
  cases after.relayFailure4 <;> rfl

/-- The keys that the proxy computes for a peer are one and the same: from every frame that coturn sends for
a datagram of the peer, and from the success of a CreatePermission that names it. -/
structure PeerKeysAgree (peer : IoaAddr) : Prop where
  frames : ∀ {ctx input frame}, ArrivesFrom peer input → (peerInputHandler ctx input).frame = some frame →
      ((∃ chnum, frame.nbh = (Server.channelFrame ctx (handled input) chnum).1) ∧
        ∀ client buf n, Holds (frame.sent client) buf n → channelKey buf = peerKey peer) ∨
      (frame.nbh = (indicationFrame ctx (handled input)).1 ∧
        (ctx.mapping = [] → ∀ client buf n, (frame.sent client).length ≤ 1500 → Holds (frame.sent client) buf n →
          dataKey buf n = peerKey peer))
  permission : ∀ {cfg st} {client : Client} {buf n}, stunIsRequestStr buf n = true →
    stunGetMethodStr buf n = stunMethodCreatePermission → n + stunCustomHeaderLen < 1500 →
    NamesFirst stunAttributeXorPeerAddress buf n peer →
    ∀ {later answer len}, later.mapRequests (stunTidFromMessageStr buf) =
        (handlePacketFromClient cfg st client.ip client.port buf n).1.mapRequests (stunTidFromMessageStr buf) →
      frameKind answer len = .permissionSuccess → frameTid answer = stunTidFromMessageStr buf →
      ∃ st' sends, handlePacketFromCoturn cfg later answer len = some (st', sends) ∧
        st'.mapPeerInfo = Function.update later.mapPeerInfo (peerKey peer) (some ⟨0, client.ip, client.port⟩)

theorem peerKeysAgree (ip : peer.IsIp) (four : peer.family = .inet) (set : peer.ip4 ≠ 0) : PeerKeysAgree peer := by
  constructor
  · intro ctx input frame arrives sent
    rcases peerInputHandler_frame sent with ⟨chnum, made⟩ | made
    · exact Or.inl ⟨⟨chnum, made⟩, fun _ _ _ holds => arrives.channelKey set chnum made holds⟩
    · exact Or.inr ⟨made, fun unmapped _ _ _ short holds => arrives.dataKey ip four unmapped made short holds⟩
  · intro cfg st client buf n request method fits names later answer len kept kind tid
    have key : RequestInfo.routeKey ⟨client.ip, client.port, peer.ip4, peer.port⟩ = peerKey peer := rfl
    rw [request_recorded cfg st client four request method fits names, ← tid] at kept
    rw [← key]
    exact success_installs cfg kind kept

/-- The key under which the relay of an Allocate success is entered is the one of its release notice,
unless coturn has noted a failure for the family and the success names no relay. -/
theorem relayKey_eq_releaseKey_iff (success : SuccessFrame after s buf n) (released : ReleaseNotice s notice) :
    (relayInfo buf n).relayKey = releaseKey notice ↔
      after.relayFailure4 = false ∨ s.localAddr.ip4 = 0 ∧ s.localAddr.port = 0 := by
  rw [success.relayInfo, released.releaseKey]
  cases after.relayFailure4 with
  | false => simp [AddrInfo.relayKey]
  | true =>
    have zero : nswap16 0 = 0 := by decide
    have swapped : nswap16 s.localAddr.port = 0 ↔ s.localAddr.port = 0 := by
      constructor
      · intro same
        rw [← nswap16_nswap16 s.localAddr.port, same, zero]
      · intro same
        rw [same, zero]
    show addrKey 0 (nswap16 0) = _ ↔ _
    rw [zero, eq_comm, addrKey_zero_iff, swapped]
    simp

/-- Coturn and the proxy agree on the keys of a peer, and on the key of a relay exactly when the
Allocate success names it. -/
theorem coturn_and_proxy_agree_on_keys {peer : IoaAddr} (ip : peer.IsIp) (four : peer.family = .inet)
    (set : peer.ip4 ≠ 0) :
    PeerKeysAgree peer ∧
      ∀ (after : SuperSession) (s : RelaySocket) (buf notice : Memory) (n : Nat),
        SuccessFrame after s buf n → ReleaseNotice s notice →
        (∀ (st : State) (tid : List UInt8) (request : RequestInfo), request.client.key = mappedKey buf n →
          st.mapLocalRemote (relayInfo buf n).relayKey = none →
          (installPermission (recordAllocation st buf n) tid request).mapLocalRemote =
            Function.update st.mapLocalRemote (relayInfo buf n).relayKey (some ⟨request.peerip, request.peerport⟩)) ∧
        ((relayInfo buf n).relayKey = releaseKey notice ↔
          after.relayFailure4 = false ∨ s.localAddr.ip4 = 0 ∧ s.localAddr.port = 0) := by
  refine ⟨peerKeysAgree ip four set, ?_⟩
  intro after s buf notice n success released
  refine ⟨?_, relayKey_eq_releaseKey_iff success released⟩
  intro st tid request owner absent
  have recorded : (recordAllocation st buf n).mapAllocInfo request.client.key = some (relayInfo buf n) := by
    rw [owner]
    exact Function.update_self _ _ _
  rw [installPermission_localRemote_of_recorded tid recorded, if_neg]
  · rfl
  · show ¬ (st.mapLocalRemote (relayInfo buf n).relayKey).isSome = true
    rw [absent]
    decide

theorem holds_ofList (short : bytes.length ≤ 1500) : Holds bytes (.ofList bytes) bytes.length := by
  refine ⟨(Nat.min_eq_right short).symm, ?_⟩
  rw [Memory.slice_ofList, List.take_of_length_le short]

/-- The notice for the IPv4 relay socket of a session. -/
def noticeBytes (s : RelaySocket) : List UInt8 :=
  (sendDataFromIoaSocketNbh .any (StunBuffer.ioaNetworkBufferAllocate.writeHeader (releaseHeader s.localAddr)) 64 0).data

/-- The session after an Allocate that opens a socket at 10.0.0.1:192, and what it is told. -/
def openedSession (before : SuperSession) : SuperSession :=
  (allocateStep exampleServer before (.allocate exampleOneName exampleSurroundings)).1

def openedBytes (before : SuperSession) : List UInt8 :=
  responseBytes ⟨customIdentifier, 0, 0, 0, 0⟩ (finishResponse exampleSurroundings
    (allocateResponse exampleServer exampleSurroundings before (openedSession before) exampleOneName
      ⟨customIdentifier, 0, 0, 0, 0⟩ exampleReflexive))

def openedRelay : RelaySocket := ⟨.inet 0x0100000A 49152, false, false⟩

theorem openedBytes_success {before : SuperSession} (relay : (openedSession before).relay4.s = some openedRelay)
    (short : (openedBytes before).length ≤ 1500)
    (kind : frameKind (.ofList (openedBytes before)) (openedBytes before).length = .allocateSuccess) :
    SuccessFrame (openedSession before) openedRelay (.ofList (openedBytes before)) (openedBytes before).length where
  relay := relay
  ip := ⟨Family.noConfusion, rfl⟩
  four := rfl
  kind := kind
  sent := ⟨exampleServer, exampleSurroundings, before, exampleOneName, ⟨customIdentifier, 0, 0, 0, 0⟩, exampleReflexive,
    ⟨customIdentifier, 0, 0, 0, 0⟩, rfl, rfl, short, holds_ofList short⟩

theorem noticeBytes_released {ss : SuperSession} (relay : ss.relay4.s = some s)
    (short : (noticeBytes s).length ≤ 1500) : ReleaseNotice s (.ofList (noticeBytes s)) := by
  refine ⟨ss, _, .any, 64, 0, (noticeBytes s).length, relay, ?_, holds_ofList short⟩
  unfold notifyReleaseRelaySession
  rw [relay]

/-- A peer at 10.0.0.9:4000, and the relay of an Allocate that succeeds at once. -/
theorem coturn_and_proxy_agree_on_keys_first :
    PeerKeysAgree (.inet 0x0900000A (nswap16 4000)) ∧
      (relayInfo (.ofList (openedBytes exampleKeyed)) (openedBytes exampleKeyed).length).relayKey =
        releaseKey (.ofList (noticeBytes openedRelay)) := by
  have relay : (openedSession exampleKeyed).relay4.s = some openedRelay := by decide +kernel
  have success := openedBytes_success relay (by decide +kernel) (by decide +kernel)
  have released := noticeBytes_released relay (by decide +kernel)
  obtain ⟨peers, relays⟩ := @coturn_and_proxy_agree_on_keys (.inet 0x0900000A (nswap16 4000))
    ⟨Family.noConfusion, rfl⟩ rfl (by decide)
  exact ⟨peers, (relays _ _ _ _ _ success released).2.mpr (Or.inl (by decide +kernel))⟩

/-- An Allocate fails, the next one opens a socket: the proxy enters 0.0.0.0:0, the release names 10.0.0.1:192. -/
theorem retried_allocate_splits_keys :
    ¬ ∀ (after : SuperSession) (s : RelaySocket) (buf notice : Memory) (n : Nat),
      (allocateMachine exampleServer).Reach (fun _ _ => True) after → SuccessFrame after s buf n →
        ReleaseNotice s notice → (relayInfo buf n).relayKey = releaseKey notice := by
  intro claimed
  obtain ⟨failed, failedAt⟩ : ∃ failed, failed =
      (allocateStep exampleServer exampleKeyed (.allocate exampleOneName exampleNoSocket)).1 := ⟨_, rfl⟩
  have start : (allocateMachine exampleServer).Reach (fun _ _ => True) exampleKeyed :=
    .start ⟨1, ⟨.inet, false, false⟩, rfl⟩
  have reached : (allocateMachine exampleServer).Reach (fun _ _ => True) failed := by
    rw [failedAt]
    exact .next (e := .allocate exampleOneName exampleNoSocket) start trivial trivial rfl
  have again : (allocateMachine exampleServer).Reach (fun _ _ => True) (openedSession failed) :=
    .next (e := .allocate exampleOneName exampleSurroundings) reached trivial trivial rfl
  have relay : (openedSession failed).relay4.s = some openedRelay := by
    rw [failedAt]
    decide +kernel
  have success := openedBytes_success relay (by rw [failedAt]; decide +kernel) (by rw [failedAt]; decide +kernel)
  have released := noticeBytes_released relay (by decide +kernel)
  have same := claimed _ _ _ _ _ again success released
  rcases (relayKey_eq_releaseKey_iff success released).mp same with unfailed | zero
  · have noted : (openedSession failed).relayFailure4 = true := by
      rw [failedAt]
      decide +kernel
    exact absurd (noted.symm.trans unfailed) (by decide)
  · exact absurd zero.1 (by decide)

end Cluster
end TurnCluster
