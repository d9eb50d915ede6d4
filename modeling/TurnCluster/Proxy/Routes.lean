import TurnCluster.Proxy.Isolation

namespace TurnCluster
namespace Proxy

open StunCustomHeader

/-- The proxy among its clients, with the peers that coturn has accepted: every
peer of a CreatePermission, and the last one that a ChannelBind names. -/
structure RouteWorld where
  world : World
  accepted : List (Client × IoaAddr)

def RouteWorld.init : RouteWorld := ⟨.init, []⟩

def Event.accepts (ev : Event) : List (Client × IoaAddr) :=
  match ev.origin with
  | .grant request => request.peers.map (fun peer => (request.client, peer))
  | .reply request =>
    if request.method = stunMethodChannelBind then
      request.peers.getLast?.toList.map (fun peer => (request.client, peer))
    else []
  | _ => []

/-- The part of a CreatePermission or ChannelBind that the proxy sees: the request, or its success. -/
def Exchange (cfg : Config) (ev : Event) : Prop :=
  match ev.origin with
  | .outside _ _ => ∃ request ∈ ev.request cfg,
      request.method = stunMethodCreatePermission ∨ request.method = stunMethodChannelBind
  | .grant _ => True
  | .reply request => request.method = stunMethodChannelBind ∧ frameKind ev.buf ev.len = .otherSuccess
  | _ => False

def routeStep (cfg : Config) (s : RouteWorld) (ev : Event) : Option (RouteWorld × List Send) :=
  (deliver cfg s.world ev).map (fun r => (⟨r.1, ev.accepts ++ s.accepted⟩, r.2))

def routeMachine (cfg : Config) : Machine RouteWorld Event (List Send) where
  init s := s = .init
  enabled s ev := Genuine cfg s.world ev ∧ Exchange cfg ev
  next := routeStep cfg

/-- Every accepted IPv4 peer has a route. -/
def RoutesComplete (s : RouteWorld) : Prop :=
  ∀ g ∈ s.accepted, g.2.family = .inet → (s.world.proxy.mapPeerInfo (peerKey g.2)).isSome

/-- Key of the only peer that the proxy takes from a CreatePermission request. -/
def firstPeerKey (buf : Memory) (n : Nat) : List Char :=
  peerKey (getStunAttrAddress buf n stunAttributeXorPeerAddress)

/-- A CreatePermission names one IPv4 peer, first, and does not reuse the
transaction id of a pending one for another peer; a ChannelBind is for a peer
that a CreatePermission was confirmed for before. -/
def OnePeer (cfg : Config) (s : RouteWorld) (ev : Event) : Prop :=
  match ev.origin with
  | .outside _ _ => ∀ request ∈ ev.request cfg, request.method = stunMethodCreatePermission →
      (∀ peer ∈ request.peers, peer.family = .inet → peerKey peer = firstPeerKey ev.buf ev.len) ∧
      (∀ pending ∈ s.world.proxy.mapRequests request.tid, pending.routeKey = firstPeerKey ev.buf ev.len)
  | .reply request => ∀ peer ∈ request.peers.getLast?, peer.family = .inet →
      ∃ g ∈ s.world.granted, g.2.family = .inet ∧ peerKey g.2 = peerKey peer
  | _ => True

/-- A request still has its record, or its peer has a route. -/
def Awaited (st : State) (request : Request) : Prop :=
  request.method = stunMethodCreatePermission → ∀ peer ∈ request.peers, peer.family = .inet →
    (∃ pending, st.mapRequests request.tid = some pending ∧ pending.routeKey = peerKey peer) ∨
      (st.mapPeerInfo (peerKey peer)).isSome

structure RoutesKept (s : RouteWorld) : Prop where
  awaited : ∀ request ∈ s.world.asked, Awaited s.world.proxy request
  granted : ∀ g ∈ s.world.granted, g.2.family = .inet → (s.world.proxy.mapPeerInfo (peerKey g.2)).isSome
  complete : RoutesComplete s

instance (cfg : Config) (ev : Event) : Decidable (Exchange cfg ev) :=
  match ev with
  | ⟨.outside ip port, buf, n⟩ =>
    inferInstanceAs (Decidable (∃ request ∈ Event.request cfg ⟨.outside ip port, buf, n⟩,
      request.method = stunMethodCreatePermission ∨ request.method = stunMethodChannelBind))
  | ⟨.grant _, _, _⟩ => inferInstanceAs (Decidable True)
  | ⟨.reply _, _, _⟩ => inferInstanceAs (Decidable (_ ∧ _))
  | ⟨.data _ _, _, _⟩ => inferInstanceAs (Decidable False)
  | ⟨.notice, _, _⟩ => inferInstanceAs (Decidable False)

instance (cfg : Config) (s : RouteWorld) (ev : Event) : Decidable (OnePeer cfg s ev) :=
  match ev with
  | ⟨.outside ip port, buf, n⟩ =>
    inferInstanceAs (Decidable (∀ request ∈ Event.request cfg ⟨.outside ip port, buf, n⟩, _ → _ ∧ _))
  | ⟨.reply request, _, _⟩ =>
    inferInstanceAs (Decidable (∀ peer ∈ request.peers.getLast?, peer.family = .inet →
      ∃ g ∈ s.world.granted, g.2.family = .inet ∧ peerKey g.2 = peerKey peer))
  | ⟨.grant _, _, _⟩ => inferInstanceAs (Decidable True)
  | ⟨.data _ _, _, _⟩ => inferInstanceAs (Decidable True)
  | ⟨.notice, _, _⟩ => inferInstanceAs (Decidable True)

instance (cfg : Config) (s : RouteWorld) (ev : Event) : Decidable ((routeMachine cfg).enabled s ev) :=
  inferInstanceAs (Decidable (_ ∧ _))

variable {cfg : Config} {s s' : RouteWorld} {w : World} {ip : UInt32} {w' : World} {port : UInt16} {buf : Memory}
  {n : Nat} {ev : Event} {st : State} {sends : List Send} {tid : List UInt8}

theorem deliver_asked (run : deliver cfg w ev = some (w', sends)) : w'.asked = ev.request cfg ++ w.asked := by
  unfold deliver at run
  split at run
  · cases run
  · cases Option.some.inj run
    rfl

theorem request_eq_singleton {request : Request} (asks : request ∈ ev.request cfg) : ev.request cfg = [request] := by
  unfold Event.request at asks ⊢
  split at asks
  · split at asks
    · rename_i passed
      rw [List.mem_singleton] at asks
      rw [asks, if_pos passed]
    · cases asks
  · cases asks

theorem request_client {request : Request} (asks : request ∈ Event.request cfg ⟨.outside ip port, buf, n⟩) :
    request.client = ⟨ip, port⟩ := by
  unfold Event.request at asks
  dsimp only at asks
  split at asks
  · rw [List.mem_singleton.mp asks]
  · cases asks

theorem deliver_request {request : Request} (asks : request ∈ Event.request cfg ⟨.outside ip port, buf, n⟩)
    (run : deliver cfg w ⟨.outside ip port, buf, n⟩ = some (w', sends)) :
    w'.proxy.mapPeerInfo = w.proxy.mapPeerInfo ∧
      w'.proxy.mapRequests =
        if request.method = stunMethodCreatePermission then
          Function.update w.proxy.mapRequests request.tid
            (some ⟨ip, port, (getStunAttrAddress buf n stunAttributeXorPeerAddress).ip4,
              (getStunAttrAddress buf n stunAttributeXorPeerAddress).port⟩)
        else w.proxy.mapRequests := by
  obtain ⟨proxyRun, _, _⟩ := deliver_some run
  unfold Event.request at asks
  dsimp only at asks
  split at asks
  · rename_i passed
    obtain ⟨fromClient, notRelay, isRequest, fits⟩ := passed
    rw [List.mem_singleton] at asks
    have handled : packetCallbackAsync cfg w.proxy ip port buf n =
        some (handlePacketFromClient cfg w.proxy ip port buf n) := by
      unfold packetCallbackAsync
      rw [if_neg fromClient, if_neg (by simp [notRelay])]
    have result := handled.symm.trans proxyRun
    unfold handlePacketFromClient at result
    dsimp only at result
    rw [if_pos fits, isRequest, Bool.true_and] at result
    rw [asks]
    by_cases permission : stunGetMethodStr buf n = stunMethodCreatePermission
    · rw [permission] at result
      obtain ⟨state, -⟩ := Prod.mk.inj (Option.some.inj result)
      rw [← state]
      simp [permission]
    · rw [if_neg (by simp [permission])] at result
      obtain ⟨state, -⟩ := Prod.mk.inj (Option.some.inj result)
      rw [← state]
      simp [permission]
  · cases asks

theorem method_of_permissionSuccess (kind : frameKind buf n = .permissionSuccess) :
    payloadMethod buf n = stunMethodCreatePermission := by
  unfold frameKind at kind
  by_contra other
  simp only [other, if_false] at kind
  repeat' split at kind
  all_goals cases kind

theorem deliver_success (fromPort : ev.sourcePort cfg = cfg.coturnPort) (run : deliver cfg w ev = some (w', sends)) :
    (frameKind ev.buf ev.len = .permissionSuccess →
        w'.proxy = settlePermission w.proxy (frameTid ev.buf)) ∧
      (frameKind ev.buf ev.len = .otherSuccess → w'.proxy = w.proxy) := by
  obtain ⟨proxyRun, _, _⟩ := deliver_some run
  unfold packetCallbackAsync at proxyRun
  rw [if_pos fromPort, handlePacketFromCoturn_eq] at proxyRun
  constructor <;> intro kind <;> simp only [kind, Option.some.injEq, Prod.mk.injEq] at proxyRun
  · exact proxyRun.1.symm
  · exact proxyRun.1.symm

theorem settlePermission_keeps_routes (tid : List UInt8) {key : List Char} (routed : (st.mapPeerInfo key).isSome) :
    ((settlePermission st tid).mapPeerInfo key).isSome := by
  unfold settlePermission
  split
  · exact routed
  · rename_i request _
    rw [installPermission_peerInfo]
    by_cases here : key = request.routeKey
    · simp [here]
    · rw [Function.update_of_ne here]
      exact routed

theorem settlePermission_routes {request : RequestInfo} (pending : st.mapRequests tid = some request) :
    ((settlePermission st tid).mapPeerInfo request.routeKey).isSome := by
  simp only [settlePermission, pending, installPermission_peerInfo, Function.update_self, Option.isSome_some]

theorem settlePermission_requests_of_ne {other : List UInt8} (differ : other ≠ tid) :
    (settlePermission st tid).mapRequests other = st.mapRequests other := by
  unfold settlePermission
  split
  · rfl
  · rw [installPermission_requests, Function.update_of_ne differ]

theorem Awaited.settle {request : Request} (awaited : Awaited st request) (tid : List UInt8) :
    Awaited (settlePermission st tid) request := by
  intro permission peer member inet
  rcases awaited permission peer member inet with ⟨pending, found, key⟩ | routed
  · by_cases here : request.tid = tid
    · right
      rw [here] at found
      rw [← key]
      exact settlePermission_routes found
    · left
      exact ⟨pending, by rw [settlePermission_requests_of_ne here, found], key⟩
  · exact .inr (settlePermission_keeps_routes tid routed)

theorem Awaited.routed {request : Request} (awaited : Awaited st request)
    (permission : request.method = stunMethodCreatePermission) {peer : IoaAddr} (member : peer ∈ request.peers)
    (inet : peer.family = .inet) : ((settlePermission st request.tid).mapPeerInfo (peerKey peer)).isSome := by
  rcases awaited permission peer member inet with ⟨pending, found, key⟩ | routed
  · rw [← key]
    exact settlePermission_routes found
  · exact settlePermission_keeps_routes _ routed

theorem RoutesKept.init : RoutesKept .init where
  awaited := by
    intro request member
    cases member
  granted := by
    intro g member
    cases member
  complete := by
    intro g member
    cases member

theorem routeStep_some (run : routeStep cfg s ev = some (s', sends)) :
    deliver cfg s.world ev = some (s'.world, sends) ∧ s'.accepted = ev.accepts ++ s.accepted := by
  unfold routeStep at run
  obtain ⟨result, delivered, same⟩ := Option.map_eq_some_iff.mp run
  obtain ⟨state, sent⟩ := Prod.mk.inj same
  rw [delivered, ← state, ← sent]
  exact ⟨rfl, rfl⟩

/-- Another request of a client keeps a request awaited, if it does not take its
transaction id for another peer. -/
theorem Awaited.overwritten {st' : State} {request : Request} (awaited : Awaited st request) {info : RequestInfo}
    (routes : st'.mapPeerInfo = st.mapPeerInfo)
    (written : st'.mapRequests = Function.update st.mapRequests tid (some info))
    (agrees : ∀ pending ∈ st.mapRequests tid, pending.routeKey = info.routeKey) : Awaited st' request := by
  intro permission peer member inet
  rw [routes, written]
  rcases awaited permission peer member inet with ⟨pending, found, key⟩ | routed
  · left
    by_cases here : request.tid = tid
    · rw [here] at found ⊢
      exact ⟨info, Function.update_self .., by rw [← agrees pending found, key]⟩
    · exact ⟨pending, by rw [Function.update_of_ne here, found], key⟩
  · exact .inr routed

theorem RoutesKept.request (kept : RoutesKept s) (exchange : Exchange cfg ⟨.outside ip port, buf, n⟩)
    (one : OnePeer cfg s ⟨.outside ip port, buf, n⟩)
    (run : routeStep cfg s ⟨.outside ip port, buf, n⟩ = some (s', sends)) : RoutesKept s' := by
  obtain ⟨delivered, accepted⟩ := routeStep_some run
  obtain ⟨_, granted, _⟩ := deliver_some delivered
  obtain ⟨request, asks, _⟩ := exchange
  obtain ⟨routes, requests⟩ := deliver_request asks delivered
  have single := request_eq_singleton asks
  constructor
  · intro other member
    rw [deliver_asked delivered, single] at member
    by_cases permission : request.method = stunMethodCreatePermission
    · rw [if_pos permission] at requests
      obtain ⟨peers, agrees⟩ := one request asks permission
      rcases List.mem_cons.mp member with new | old
      · rw [new]
        intro _ peer listed inet
        left
        refine ⟨_, by rw [requests, Function.update_self], ?_⟩
        rw [peers peer listed inet]
        rfl
      · exact (kept.awaited other old).overwritten routes requests agrees
    · rw [if_neg permission] at requests
      rcases List.mem_cons.mp member with new | old
      · rw [new]
        intro isPermission
        exact absurd isPermission permission
      · intro isPermission peer listed inet
        rw [routes, requests]
        exact kept.awaited other old isPermission peer listed inet
  · intro g member inet
    rw [granted] at member
    rw [routes]
    exact kept.granted g member inet
  · intro g member inet
    rw [accepted] at member
    rw [routes]
    exact kept.complete g member inet

theorem RoutesKept.grant {request : Request} (kept : RoutesKept s)
    (genuine : Genuine cfg s.world ⟨.grant request, buf, n⟩)
    (run : routeStep cfg s ⟨.grant request, buf, n⟩ = some (s', sends)) : RoutesKept s' := by
  obtain ⟨delivered, accepted⟩ := routeStep_some run
  obtain ⟨_, granted, _⟩ := deliver_some delivered
  obtain ⟨asked, ⟨tid, method, _⟩, kind⟩ := genuine
  have settled := (deliver_success rfl delivered).1 kind
  dsimp only at tid method kind settled
  rw [tid] at settled
  have permission : request.method = stunMethodCreatePermission :=
    method.symm.trans (method_of_permissionSuccess kind)
  have confirmed (g : Client × IoaAddr)
      (member : g ∈ request.peers.map (fun peer => (request.client, peer))) (inet : g.2.family = .inet) :
      (s'.world.proxy.mapPeerInfo (peerKey g.2)).isSome := by
    obtain ⟨peer, listed, same⟩ := List.mem_map.mp member
    rw [← same] at inet ⊢
    rw [settled]
    exact (kept.awaited request asked).routed permission listed inet
  constructor
  · intro other member
    rw [deliver_asked delivered] at member
    rw [settled]
    exact (kept.awaited other member).settle request.tid
  · intro g member inet
    rw [granted] at member
    rcases List.mem_append.mp member with new | old
    · exact confirmed g new inet
    · rw [settled]
      exact settlePermission_keeps_routes _ (kept.granted g old inet)
  · intro g member inet
    rw [accepted] at member
    rcases List.mem_append.mp member with new | old
    · exact confirmed g new inet
    · rw [settled]
      exact settlePermission_keeps_routes _ (kept.complete g old inet)

theorem RoutesKept.bound {request : Request} (kept : RoutesKept s) (exchange : Exchange cfg ⟨.reply request, buf, n⟩)
    (one : OnePeer cfg s ⟨.reply request, buf, n⟩) (run : routeStep cfg s ⟨.reply request, buf, n⟩ = some (s', sends)) :
    RoutesKept s' := by
  obtain ⟨delivered, accepted⟩ := routeStep_some run
  obtain ⟨_, granted, _⟩ := deliver_some delivered
  obtain ⟨bind, kind⟩ := exchange
  have same := (deliver_success rfl delivered).2 kind
  constructor
  · intro other member
    rw [deliver_asked delivered] at member
    rw [same]
    exact kept.awaited other member
  · intro g member inet
    rw [granted] at member
    rw [same]
    exact kept.granted g member inet
  · intro g member inet
    rw [accepted] at member
    rw [same]
    rcases List.mem_append.mp member with new | old
    · simp only [Event.accepts, bind, if_true] at new
      obtain ⟨peer, last, pair⟩ := List.mem_map.mp new
      rw [← pair] at inet ⊢
      obtain ⟨earlier, member, earlierInet, key⟩ := one peer (Option.mem_toList.mp last) inet
      rw [← key]
      exact kept.granted earlier member earlierInet
    · exact kept.complete g old inet

/-- In every run whose requests name one peer each, and bind channels only to
peers with a confirmed permission, every accepted IPv4 peer has a route. -/
theorem accepted_peers_routed {cfg : Config} {s : RouteWorld}
    (reach : (routeMachine cfg).Reach (OnePeer cfg) s) : RoutesComplete s := by
  have kept : RoutesKept s := by
    refine Machine.Reach.invariant (P := RoutesKept) ?_ ?_ reach
    · rintro s rfl
      exact .init
    · intro s s' ev sends kept enabled one run
      obtain ⟨genuine, exchange⟩ := enabled
      obtain ⟨origin, buf, n⟩ := ev
      cases origin with
      | outside ip port => exact kept.request exchange one run
      | grant request => exact kept.grant genuine run
      | reply request => exact kept.bound exchange one run
      | data client peer => exact exchange.elim
      | notice => exact exchange.elim
  exact kept.complete

/-- A ChannelBind request of channel 0x4000 for the shared peer. -/
def bindRequest : List UInt8 :=
  [0x00, 0x09, 0x00, 0x14, 0x21, 0x12, 0xA4, 0x42] ++ exampleTid ++
    [0x00, 0x0C, 0x00, 0x04, 0x40, 0x00, 0x00, 0x00] ++
    [0x00, 0x12, 0x00, 0x08, 0x00, 0x01, 0x2E, 0xB2, 0x2B, 0x12, 0xA4, 0x4B]

def bindAnswer (client : Client) : List UInt8 :=
  (StunCustomHeader.mk customIdentifier client.ip client.port 0 0).bytes ++
    [0x01, 0x09, 0x00, 0x00, 0x21, 0x12, 0xA4, 0x42] ++ exampleTid

def bindAsked (client : Client) : Event :=
  ⟨.outside client.ip client.port, .ofList bindRequest, bindRequest.length⟩

def bindGranted (client : Client) : Event :=
  ⟨.reply ⟨client, exampleTid, stunMethodChannelBind, [sharedPeer]⟩,
    .ofList (bindAnswer client), (bindAnswer client).length⟩

theorem accepted_peers_routed_bound :
    ∃ s, (routeMachine exampleConfig).Reach (OnePeer exampleConfig) s ∧
      s.accepted = [(exampleClient, sharedPeer), (exampleClient, sharedPeer)] ∧ RoutesComplete s := by
  obtain ⟨s, reach, passed⟩ : ∃ s, (routeMachine exampleConfig).Reach (OnePeer exampleConfig) s ∧
      decide (s.accepted = [(exampleClient, sharedPeer), (exampleClient, sharedPeer)]) = true :=
    Machine.Reach.exists_of_replay RouteWorld.init
      [permissionAsked exampleClient, permissionGranted exampleClient,
        bindAsked exampleClient, bindGranted exampleClient] rfl (by decide)
  exact ⟨s, reach, of_decide_eq_true passed, accepted_peers_routed reach⟩

/-- A second peer, 10.0.0.8:4000. -/
def secondPeer : IoaAddr := .inet 0x0800000A (nswap16 4000)

/-- A CreatePermission request for the shared peer and a second one. -/
def pairRequest : List UInt8 :=
  [0x00, 0x08, 0x00, 0x18, 0x21, 0x12, 0xA4, 0x42] ++ exampleTid ++
    [0x00, 0x12, 0x00, 0x08, 0x00, 0x01, 0x2E, 0xB2, 0x2B, 0x12, 0xA4, 0x4B] ++
    [0x00, 0x12, 0x00, 0x08, 0x00, 0x01, 0x2E, 0xB2, 0x2B, 0x12, 0xA4, 0x4A]

def pairAsked (client : Client) : Event :=
  ⟨.outside client.ip client.port, .ofList pairRequest, pairRequest.length⟩

def pairGranted (client : Client) : Event :=
  ⟨.grant ⟨client, exampleTid, stunMethodCreatePermission, [sharedPeer, secondPeer]⟩,
    .ofList (permissionAnswer client), (permissionAnswer client).length⟩

/-- The second peer of a CreatePermission is accepted and has no route. -/
theorem second_peer_unrouted :
    ¬ ∀ (cfg : Config) (s : RouteWorld), (routeMachine cfg).Reach (fun _ _ => True) s → RoutesComplete s := by
  intro claimed
  obtain ⟨s, reach, fails⟩ : ∃ s, (routeMachine exampleConfig).Reach (fun _ _ => True) s ∧
      (decide ((exampleClient, secondPeer) ∈ s.accepted) &&
        (s.world.proxy.mapPeerInfo (peerKey secondPeer)).isNone) = true :=
    Machine.Reach.exists_of_replay RouteWorld.init [pairAsked exampleClient, pairGranted exampleClient] rfl
      (by decide)
  simp only [Bool.and_eq_true, decide_eq_true_eq, Option.isNone_iff_eq_none] at fails
  obtain ⟨accepted, missing⟩ := fails
  have routed := claimed exampleConfig s reach _ accepted rfl
  rw [missing] at routed
  cases routed

end Proxy
end TurnCluster
