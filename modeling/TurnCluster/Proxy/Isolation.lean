import TurnCluster.Proxy.Abort

namespace TurnCluster
namespace Proxy

open StunCustomHeader

/-- The pending CreatePermission request that a datagram settles. -/
def settledRequest (cfg : Config) (w : World) (ev : Event) : Option RequestInfo :=
  if ev.sourcePort cfg = cfg.coturnPort ∧ frameKind ev.buf ev.len = .permissionSuccess then
    w.proxy.mapRequests (frameTid ev.buf)
  else none

/-- Key of the route that a request installs. -/
def RequestInfo.routeKey (request : RequestInfo) : List Char := addrKey request.peerip request.peerport

/-- The route that a step installs goes to the only client with a permission
for a peer of that key, and the peers a step confirms have no route to another
client that stays. -/
def Exclusive (cfg : Config) (w : World) (ev : Event) : Prop :=
  (∀ g ∈ ev.grants ++ w.granted, ∀ request ∈ settledRequest cfg w ev,
    peerKey g.2 = request.routeKey → g.1 = request.client) ∧
  (∀ g ∈ ev.grants, (∀ request ∈ settledRequest cfg w ev, request.routeKey ≠ peerKey g.2) →
    ∀ info ∈ w.proxy.mapPeerInfo (peerKey g.2), info.client = g.1)

instance (cfg : Config) (w : World) (ev : Event) : Decidable (Exclusive cfg w ev) :=
  inferInstanceAs (Decidable (_ ∧ _))

/-- Client that a frame of coturn is meant for. -/
def Origin.owner : Origin → Option Client
  | .grant request => some request.client
  | .reply request => some request.client
  | .data client _ => some client
  | _ => none

/-- The datagram is addressed to the client. -/
def SentTo (cfg : Config) (client : Client) (s : Send) : Prop :=
  s.ip = hopIp cfg client.ip ∧ s.port = client.port

/-- Every route for a permitted peer leads to the client with the permission. -/
structure RoutesOwned (w : World) : Prop where
  owned : ∀ g ∈ w.granted, ∀ info, w.proxy.mapPeerInfo (peerKey g.2) = some info → info.client = g.1
  dotted : ∀ key info, w.proxy.mapPeerInfo key = some info → '.' ∈ key

theorem dot_mem_addrKey (ip : UInt32) (port : UInt16) : '.' ∈ addrKey ip port := by
  simp [addrKey, ip2string]

theorem dot_not_mem_decimal (n : Nat) : '.' ∉ decimal n := by
  intro member
  have digit := Nat.isDigit_of_mem_toDigits (by decide) (by decide) member
  exact absurd digit (by decide)

theorem installPermission_peerInfo (st : State) (tid : List UInt8) (request : RequestInfo) :
    (installPermission st tid request).mapPeerInfo =
      Function.update st.mapPeerInfo request.routeKey (some ⟨0, request.srcip, request.srcport⟩) := by
  unfold installPermission
  dsimp only
  split <;> rfl

variable {cfg : Config} {w : World} {st : State} {client : Client} {peer : IoaAddr} {buf : Memory} {ev : Event}
  {n : Nat} {sends : List Send} {key : List Char} {info : ProxyInfo}

theorem releaseRelay_peerInfo {header : StunCustomHeader}
    (route : (releaseRelay st header).mapPeerInfo key = some info) : st.mapPeerInfo key = some info := by
  unfold releaseRelay at route
  dsimp only at route
  split at route
  · exact route
  · rename_i peer _
    by_cases erased : key = addrKey peer.ip peer.port
    · simp [erased] at route
    · simpa [Function.update_of_ne erased] using route

theorem deliver_installs {w' : World} {request : RequestInfo} (run : deliver cfg w ev = some (w', sends))
    (settles : settledRequest cfg w ev = some request) :
    w'.proxy.mapPeerInfo = Function.update w.proxy.mapPeerInfo request.routeKey
      (some ⟨0, request.srcip, request.srcport⟩) := by
  unfold settledRequest at settles
  split at settles
  case isFalse => cases settles
  rename_i frame
  obtain ⟨fromPort, kind⟩ := frame
  obtain ⟨proxyRun, _, _⟩ := deliver_some run
  unfold packetCallbackAsync at proxyRun
  rw [if_pos fromPort, handlePacketFromCoturn_eq] at proxyRun
  simp only [kind, settlePermission, settles, Option.some.injEq, Prod.mk.injEq] at proxyRun
  rw [← proxyRun.1, installPermission_peerInfo]

theorem packetCallbackAsync_adds_no_route
    (run : packetCallbackAsync cfg w.proxy (ev.sourceIp cfg) (ev.sourcePort cfg) ev.buf ev.len =
      some (st, sends)) (nothing : settledRequest cfg w ev = none) (route : st.mapPeerInfo key = some info) :
    w.proxy.mapPeerInfo key = some info := by
  by_cases fromPort : ev.sourcePort cfg = cfg.coturnPort
  · unfold packetCallbackAsync at run
    rw [if_pos fromPort, handlePacketFromCoturn_eq] at run
    cases kind : frameKind ev.buf ev.len <;> simp only [kind] at run
    case allocateSuccess =>
      split at run
      · cases run
      · cases Option.some.inj run
        exact route
    case permissionSuccess =>
      unfold settledRequest at nothing
      rw [if_pos ⟨fromPort, kind⟩] at nothing
      rw [settlePermission_of_unknown (by simp [nothing])] at run
      cases Option.some.inj run
      exact route
    case release =>
      cases Option.some.inj run
      exact releaseRelay_peerInfo route
    all_goals
      cases Option.some.inj run
      exact route
  · obtain ⟨st', sent, outsideRun, recorded⟩ :=
      packetCallbackAsync_outside w.proxy (ev.sourceIp cfg) ev.buf ev.len fromPort
    cases Option.some.inj (outsideRun.symm.trans run)
    rw [recorded.1] at route
    exact route

theorem RoutesOwned.init : RoutesOwned .init where
  owned := by
    intro g member
    cases member
  dotted := by
    intro key info route
    cases route

theorem RoutesOwned.deliver {w' : World} (routes : RoutesOwned w) (exclusive : Exclusive cfg w ev)
    (run : deliver cfg w ev = some (w', sends)) : RoutesOwned w' := by
  obtain ⟨proxyRun, granted, _⟩ := deliver_some run
  obtain ⟨installed, confirmed⟩ := exclusive
  cases settles : settledRequest cfg w ev with
  | some request =>
    have table := deliver_installs run settles
    constructor
    · intro g member info route
      rw [granted] at member
      rw [table] at route
      by_cases here : peerKey g.2 = request.routeKey
      · rw [here, Function.update_self] at route
        rw [installed g member request settles here, ← Option.some.inj route]
        rfl
      · rw [Function.update_of_ne here] at route
        rcases List.mem_append.mp member with new | old
        · refine confirmed g new ?_ info route
          intro other settlesOther same
          cases Option.some.inj (settles.symm.trans settlesOther)
          exact here same.symm
        · exact routes.owned g old info route
    · intro key info route
      rw [table] at route
      by_cases here : key = request.routeKey
      · rw [here]
        exact dot_mem_addrKey _ _
      · rw [Function.update_of_ne here] at route
        exact routes.dotted key info route
  | none =>
    constructor
    · intro g member info route
      rw [granted] at member
      have before := packetCallbackAsync_adds_no_route proxyRun settles route
      rcases List.mem_append.mp member with new | old
      · refine confirmed g new ?_ info before
        intro request settled
        cases settles.symm.trans settled
      · exact routes.owned g old info before
    · intro key info route
      exact routes.dotted key info (packetCallbackAsync_adds_no_route proxyRun settles route)

theorem routes_owned (reach : (machine cfg).Reach (Exclusive cfg) w) : RoutesOwned w := by
  refine Machine.Reach.invariant (P := RoutesOwned) ?_ ?_ reach
  · rintro w rfl
    exact .init
  · intro w w' ev sends routes _ exclusive run
    exact routes.deliver exclusive run

theorem RoutesOwned.sendToRoute (routes : RoutesOwned w) (member : (client, peer) ∈ w.granted) {s : Send}
    (sent : s ∈ sendToRoute cfg w.proxy (peerKey peer) buf n) : SentTo cfg client s := by
  unfold Proxy.sendToRoute at sent
  split at sent
  · cases sent
  · rename_i info route
    have owner : info.client = client := routes.owned (client, peer) member info route
    rw [List.mem_singleton] at sent
    rw [sent, ← owner]
    exact ⟨rfl, rfl⟩

theorem channelKey_of_set (ip : (read buf).dstIp = nswap32 peer.ip4) (port : (read buf).dstPort = nswap16 peer.port)
    (set : (read buf).dstIp ≠ 0) : channelKey buf = peerKey peer := by
  unfold channelKey getDstIp
  rw [if_neg set]
  simp [peerKey, addrKey, ip, getDstPort, port]

/-- The header of ChannelData for a peer gives the key of that peer, or a key without a dot. -/
theorem channelKey_of_namesPeer (ip : (read buf).dstIp = nswap32 peer.ip4)
    (port : (read buf).dstPort = nswap16 peer.port) : channelKey buf = peerKey peer ∨ '.' ∉ channelKey buf := by
  by_cases zero : (read buf).dstIp = 0
  · right
    unfold channelKey getDstIp
    simpa [zero] using dot_not_mem_decimal _
  · left
    exact channelKey_of_set ip port zero

theorem sendToEchoed_sentTo (echoes : Echoes client buf) : SentTo cfg client (sendToEchoed cfg buf n) := by
  obtain ⟨ip, port⟩ := echoes
  simp [SentTo, sendToEchoed, sendToByAddr, getSrcIntIp, getSrcPort, ip, port]

theorem answer_sends_echoed {st' : State} (run : handlePacketFromCoturn cfg st buf n = some (st', sends))
    (kind : frameKind buf n ∈
      [FrameKind.permissionSuccess, .allocateSuccess, .otherSuccess, .permissionError, .otherError]) :
    sends = [sendToEchoed cfg buf n] := by
  rw [handlePacketFromCoturn_eq] at run
  simp only [List.mem_cons, List.not_mem_nil, or_false] at kind
  rcases kind with kind | kind | kind | kind | kind <;> simp only [kind] at run
  case inr.inl =>
    split at run
    · cases run
    · exact (Prod.mk.inj (Option.some.inj run)).2.symm
  all_goals exact (Prod.mk.inj (Option.some.inj run)).2.symm

theorem answer_sentTo {st' : State} (run : handlePacketFromCoturn cfg st buf n = some (st', sends))
    (echoes : Echoes client buf) (kind : frameKind buf n ∈
      [FrameKind.permissionSuccess, .allocateSuccess, .otherSuccess, .permissionError, .otherError]) :
    ∀ s ∈ sends, SentTo cfg client s := by
  intro s sent
  rw [answer_sends_echoed run kind, List.mem_singleton] at sent
  rw [sent]
  exact sendToEchoed_sentTo echoes

theorem RoutesOwned.data_sentTo (routes : RoutesOwned w) (member : (client, peer) ∈ w.granted)
    (run : handlePacketFromCoturn cfg w.proxy buf n = some (st, sends)) (names : NamesPeer peer buf n) :
    ∀ s ∈ sends, SentTo cfg client s := by
  intro s sent
  rw [handlePacketFromCoturn_eq] at run
  rcases names with ⟨kind, ip, port⟩ | ⟨kind, named⟩
  · simp only [kind] at run
    rw [← (Prod.mk.inj (Option.some.inj run)).2] at sent
    rcases channelKey_of_namesPeer ip port with key | undotted
    · rw [key] at sent
      exact routes.sendToRoute member sent
    · unfold Proxy.sendToRoute at sent
      split at sent
      · cases sent
      · rename_i info route
        exact absurd (routes.dotted _ _ route) undotted
  · simp only [kind] at run
    rw [← (Prod.mk.inj (Option.some.inj run)).2] at sent
    have key : dataKey buf n = peerKey peer := by rw [← named]; rfl
    rw [key] at sent
    exact routes.sendToRoute member sent

theorem sourcePort_of_owner (cfg : Config) (owner : ev.origin.owner = some client) :
    ev.sourcePort cfg = cfg.coturnPort := by
  obtain ⟨origin, buf, n⟩ := ev
  cases origin with
  | outside ip port => cases owner
  | _ => rfl

/-- In every run whose steps are all exclusive, a frame that coturn emits for a
client is sent to no other client. -/
theorem frame_reaches_only_owner {cfg : Config} {w w' : World} {ev : Event} {sends : List Send}
    {client : Client} (reach : (machine cfg).Reach (Exclusive cfg) w) (genuine : Genuine cfg w ev)
    (owner : ev.origin.owner = some client) (run : deliver cfg w ev = some (w', sends)) :
    ∀ s ∈ sends, SentTo cfg client s := by
  obtain ⟨proxyRun, _, _⟩ := deliver_some run
  unfold packetCallbackAsync at proxyRun
  rw [if_pos (sourcePort_of_owner cfg owner)] at proxyRun
  obtain ⟨origin, buf, n⟩ := ev
  cases origin with
  | outside ip port => cases owner
  | notice => cases owner
  | grant request =>
    cases Option.some.inj owner
    refine answer_sentTo proxyRun genuine.2.1.2.2 ?_
    rw [genuine.2.2]
    exact .head _
  | reply request =>
    cases Option.some.inj owner
    exact answer_sentTo proxyRun genuine.2.1.2.2 (.tail _ genuine.2.2)
  | data X peer =>
    cases Option.some.inj owner
    exact (routes_owned reach).data_sentTo genuine.1 proxyRun genuine.2

/-- A second client, 10.0.0.3:5001. -/
def otherClient : Client := ⟨0x0300000A, 5001⟩

/-- The peer 10.0.0.9:4000. -/
def sharedPeer : IoaAddr := .inet 0x0900000A (nswap16 4000)

/-- A CreatePermission request for the shared peer. -/
def permissionRequest : List UInt8 :=
  [0x00, 0x08, 0x00, 0x0C, 0x21, 0x12, 0xA4, 0x42] ++ exampleTid ++
    [0x00, 0x12, 0x00, 0x08, 0x00, 0x01, 0x2E, 0xB2, 0x2B, 0x12, 0xA4, 0x4B]

/-- Its success, with the header that echoes a client. -/
def permissionAnswer (client : Client) : List UInt8 :=
  (StunCustomHeader.mk customIdentifier client.ip client.port 0 0).bytes ++
    [0x01, 0x08, 0x00, 0x00, 0x21, 0x12, 0xA4, 0x42] ++ exampleTid

/-- ChannelData with four bytes from the shared peer. -/
def channelFrame : List UInt8 :=
  (StunCustomHeader.mk customIdentifier 0 0 (nswap32 sharedPeer.ip4) (nswap16 sharedPeer.port)).bytes ++
    [0x40, 0x00, 0x00, 0x04, 1, 2, 3, 4]

def permissionAsked (client : Client) : Event :=
  ⟨.outside client.ip client.port, .ofList permissionRequest, permissionRequest.length⟩

def permissionGranted (client : Client) : Event :=
  ⟨.grant ⟨client, exampleTid, stunMethodCreatePermission, [sharedPeer]⟩,
    .ofList (permissionAnswer client), (permissionAnswer client).length⟩

def channelArrives (client : Client) : Event :=
  ⟨.data client sharedPeer, .ofList channelFrame, channelFrame.length⟩

theorem frame_reaches_only_owner_single :
    ∃ w, (machine exampleConfig).Reach (Exclusive exampleConfig) w ∧
      Genuine exampleConfig w (channelArrives exampleClient) ∧
      (∃ w' s, deliver exampleConfig w (channelArrives exampleClient) = some (w', [s])) ∧
      ∀ w' sends, deliver exampleConfig w (channelArrives exampleClient) = some (w', sends) →
        ∀ s ∈ sends, SentTo exampleConfig exampleClient s := by
  obtain ⟨w, reach, passed⟩ : ∃ w, (machine exampleConfig).Reach (Exclusive exampleConfig) w ∧
      (decide (Genuine exampleConfig w (channelArrives exampleClient)) &&
        ((deliver exampleConfig w (channelArrives exampleClient)).map
          (fun r => r.2.length) == some 1)) = true :=
    Machine.Reach.exists_of_replay World.init
      [permissionAsked exampleClient, permissionGranted exampleClient] rfl (by decide)
  simp only [Bool.and_eq_true, decide_eq_true_eq, beq_iff_eq] at passed
  obtain ⟨genuine, one⟩ := passed
  refine ⟨w, reach, genuine, ?_, fun w' sends run => frame_reaches_only_owner reach genuine rfl run⟩
  cases run : deliver exampleConfig w (channelArrives exampleClient) with
  | none => simp [run] at one
  | some result =>
    obtain ⟨w', sends⟩ := result
    simp only [run, Option.map_some, Option.some.injEq] at one
    obtain ⟨s, rfl⟩ := List.length_eq_one_iff.mp one
    exact ⟨w', s, rfl⟩

/-- Two clients hold a permission for one peer; data for the first reaches the second. -/
theorem shared_peer_misroutes :
    ¬ ∀ (cfg : Config) (w w' : World) (ev : Event) (sends : List Send) (client : Client),
      (machine cfg).Reach (fun _ _ => True) w → Genuine cfg w ev → ev.origin.owner = some client →
      deliver cfg w ev = some (w', sends) → ∀ s ∈ sends, SentTo cfg client s := by
  intro claimed
  obtain ⟨w, reach, fails⟩ : ∃ w, (machine exampleConfig).Reach (fun _ _ => True) w ∧
      (decide (Genuine exampleConfig w (channelArrives exampleClient)) &&
        ((deliver exampleConfig w (channelArrives exampleClient)).map
          (fun r => r.2.map Send.port) == some [otherClient.port])) = true :=
    Machine.Reach.exists_of_replay World.init
      [permissionAsked exampleClient, permissionGranted exampleClient,
        permissionAsked otherClient, permissionGranted otherClient] rfl (by decide)
  simp only [Bool.and_eq_true, decide_eq_true_eq, beq_iff_eq] at fails
  obtain ⟨genuine, ports⟩ := fails
  cases run : deliver exampleConfig w (channelArrives exampleClient) with
  | none => simp [run] at ports
  | some result =>
    obtain ⟨w', sends⟩ := result
    have toOwner := claimed exampleConfig w w' _ sends exampleClient reach genuine rfl run
    simp only [run, Option.map_some, Option.some.injEq] at ports
    obtain ⟨s, rest, rfl⟩ : ∃ s rest, sends = s :: rest := by
      cases sends with
      | nil => simp at ports
      | cons s rest => exact ⟨s, rest, rfl⟩
    have misrouted : s.port = otherClient.port := (List.cons.inj ports).1
    exact absurd (misrouted.symm.trans (toOwner s (.head _)).2) (by decide)

end Proxy
end TurnCluster
