import TurnCluster.Proxy.Isolation
import TurnCluster.Proxy.Routes

namespace TurnCluster
namespace Proxy

open StunCustomHeader

/-- A CreatePermission request that the proxy passed on. -/
def Request.Permission (request : Request) : Prop := request.method = stunMethodCreatePermission

instance (request : Request) : Decidable request.Permission := inferInstanceAs (Decidable (_ = _))

/-- The client whose CreatePermission request was the last to carry a transaction id. -/
def World.lastAsker (w : World) (tid : List UInt8) : Option Client :=
  (w.asked.find? (fun request => decide (request.Permission ∧ request.tid = tid))).map Request.client

/-- What the client named by a success must find: the route that the success writes points to it, and no
other route is touched. -/
structure RoutesPointTo (client : Client) (st st' : State) (tid : List UInt8) : Prop where
  written : ∀ pending, st.mapRequests tid = some pending →
    ∃ info, st'.mapPeerInfo pending.routeKey = some info ∧ info.client = client
  untouched : ∀ key, (∀ pending, st.mapRequests tid = some pending → key ≠ pending.routeKey) →
    st'.mapPeerInfo key = st.mapPeerInfo key

variable {cfg : Config} {w w' : World} {sends : List Send} {tid : List UInt8} {info : RequestInfo}

theorem requests_of_erased {requests : List UInt8 → Option RequestInfo} {other : List UInt8}
    (found : Function.update requests other none tid = some info) : requests tid = some info := by
  by_cases here : tid = other
  · rw [here, Function.update_self] at found
    cases found
  · rw [Function.update_of_ne here] at found
    exact found

theorem handlePacketFromCoturn_requests {st st' : State} {buf : Memory} {n : Nat}
    (run : handlePacketFromCoturn cfg st buf n = some (st', sends)) (pending : st'.mapRequests tid = some info) :
    st.mapRequests tid = some info := by
  rw [handlePacketFromCoturn_eq] at run
  cases kind : frameKind buf n <;> simp only [kind] at run
  case allocateSuccess =>
    split at run
    · cases run
    · cases Option.some.inj run
      exact pending
  case permissionSuccess =>
    cases Option.some.inj run
    unfold settlePermission at pending
    split at pending
    · exact pending
    · rw [installPermission_requests] at pending
      exact requests_of_erased pending
  case permissionError =>
    cases Option.some.inj run
    exact requests_of_erased pending
  case release =>
    cases Option.some.inj run
    unfold releaseRelay at pending
    dsimp only at pending
    split at pending <;> exact pending
  all_goals
    cases Option.some.inj run
    exact pending

theorem handlePacketFromClient_requests {st : State} {ip : UInt32} {port : UInt16} {buf : Memory} {n : Nat}
    (pending : (handlePacketFromClient cfg st ip port buf n).1.mapRequests tid = some info) :
    st.mapRequests tid = some info ∨
      (n + stunCustomHeaderLen < 1500 ∧ stunIsRequestStr buf n = true ∧
        stunGetMethodStr buf n = stunMethodCreatePermission ∧ stunTidFromMessageStr buf = tid ∧
        info.client = ⟨ip, port⟩) := by
  unfold handlePacketFromClient at pending
  dsimp only at pending
  split at pending
  · rename_i fits
    split at pending
    · rename_i asks
      rw [Bool.and_eq_true, beq_iff_eq] at asks
      dsimp only at pending
      by_cases here : tid = stunTidFromMessageStr buf
      · rw [here, Function.update_self] at pending
        refine Or.inr ⟨fits, asks.1, asks.2, here.symm, ?_⟩
        rw [← Option.some.inj pending]
        rfl
      · rw [Function.update_of_ne here] at pending
        exact Or.inl pending
    · exact Or.inl pending
  · exact Or.inl pending

theorem deliver_requests_origin {ev : Event} (run : deliver cfg w ev = some (w', sends))
    (pending : w'.proxy.mapRequests tid = some info) :
    w.proxy.mapRequests tid = some info ∨
      ∃ request ∈ ev.request cfg, request.Permission ∧ request.tid = tid ∧ request.client = info.client := by
  obtain ⟨proxyRun, _, _⟩ := deliver_some run
  unfold packetCallbackAsync at proxyRun
  split at proxyRun
  · exact Or.inl (handlePacketFromCoturn_requests proxyRun pending)
  · rename_i fromClient
    split at proxyRun
    · exact Or.inl (handlePacketFromCoturn_requests proxyRun pending)
    · rename_i notRelay
      have state : (handlePacketFromClient cfg w.proxy (ev.sourceIp cfg) (ev.sourcePort cfg) ev.buf ev.len).1 =
          w'.proxy := congrArg Prod.fst (Option.some.inj proxyRun)
      rw [← state] at pending
      rcases handlePacketFromClient_requests pending with old | ⟨fits, isRequest, method, sameTid, client⟩
      · exact Or.inl old
      · right
        obtain ⟨origin, buf, n⟩ := ev
        cases origin with
        | outside ip port =>
          have passed : Event.request cfg ⟨.outside ip port, buf, n⟩ =
              [⟨⟨ip, port⟩, stunTidFromMessageStr buf, stunGetMethodStr buf n, requestPeers buf n⟩] :=
            if_pos ⟨fromClient, Bool.eq_false_iff.mpr notRelay, isRequest, fits⟩
          rw [passed]
          exact ⟨_, List.mem_cons_self, method, sameTid, client.symm⟩
        | _ => exact absurd rfl fromClient

/-- A pending request is the last one that carried its transaction id. -/
def PendingLast (w : World) : Prop :=
  ∀ tid info, w.proxy.mapRequests tid = some info → w.lastAsker tid = some info.client

theorem PendingLast.deliver {ev : Event} (inv : PendingLast w) (run : deliver cfg w ev = some (w', sends)) :
    PendingLast w' := by
  intro tid info pending
  unfold World.lastAsker
  rw [deliver_asked run, List.find?_append]
  by_cases asks : ∃ request ∈ ev.request cfg, request.Permission ∧ request.tid = tid
  · obtain ⟨request, member, permission, rfl⟩ := asks
    rw [request_eq_singleton member, List.find?_singleton, if_pos (decide_eq_true ⟨permission, rfl⟩)]
    obtain ⟨origin, buf, n⟩ := ev
    cases origin with
    | outside ip port =>
      have method : request.method = stunMethodCreatePermission := permission
      rw [(deliver_request member run).2, if_pos method, Function.update_self] at pending
      rw [← Option.some.inj pending]
      exact congrArg some (request_client member)
    | _ => cases member
  · have none : (ev.request cfg).find? (fun request => decide (request.Permission ∧ request.tid = tid)) = none := by
      rw [List.find?_eq_none]
      exact fun request member found => asks ⟨request, member, of_decide_eq_true found⟩
    rw [none, Option.none_or]
    rcases deliver_requests_origin run pending with old | ⟨request, member, permission, same, _⟩
    · exact inv tid info old
    · exact absurd ⟨request, member, permission, same⟩ asks

theorem pendingLast_of_reach (reach : (machine cfg).Reach (fun _ _ => True) w) : PendingLast w := by
  refine reach.invariant (P := PendingLast) ?_ ?_
  · rintro w rfl tid info pending
    cases pending
  · intro w w' ev sends inv _ _ run
    exact inv.deliver run

/-- In every run, a CreatePermission success writes routes to the client that its header names, and to no other, if and
only if nothing is pending under its transaction id or that client was the last to send a CreatePermission with it. -/
theorem permission_routes_point_to_answered_iff {cfg : Config} {w w' : World} {request : Request} {buf : Memory}
    {n : Nat} {sends : List Send} (reach : (machine cfg).Reach (fun _ _ => True) w)
    (genuine : Genuine cfg w ⟨.grant request, buf, n⟩)
    (run : deliver cfg w ⟨.grant request, buf, n⟩ = some (w', sends)) :
    RoutesPointTo ⟨(read buf).srcIp, (read buf).srcPort⟩ w.proxy w'.proxy (frameTid buf) ↔
      (w.proxy.mapRequests (frameTid buf) = none ∨
        w.lastAsker (frameTid buf) = some ⟨(read buf).srcIp, (read buf).srcPort⟩) := by
  obtain ⟨_, _, kind⟩ := genuine
  have settles : settledRequest cfg w ⟨.grant request, buf, n⟩ = w.proxy.mapRequests (frameTid buf) :=
    if_pos ⟨rfl, kind⟩
  cases found : w.proxy.mapRequests (frameTid buf) with
  | none =>
    refine iff_of_true ⟨fun pending no => ?_, fun key _ => ?_⟩ (Or.inl rfl)
    · cases found.symm.trans no
    · have table := (deliver_success rfl run).1 kind
      rw [table]
      exact congrArg (fun st => State.mapPeerInfo st key) (settlePermission_of_unknown (by simp [found]))
  | some pending =>
    have installed := deliver_installs run (settles.trans found)
    have last := pendingLast_of_reach reach _ _ found
    constructor
    · intro points
      obtain ⟨info, route, client⟩ := points.written pending found
      rw [installed, Function.update_self] at route
      right
      rw [last, ← client, ← Option.some.inj route]
      rfl
    · rintro (no | asked)
      · cases no
      · refine ⟨fun pending' found' => ?_, fun key other => ?_⟩
        · cases found.symm.trans found'
          rw [installed, Function.update_self]
          exact ⟨_, rfl, Option.some.inj (last.symm.trans asked)⟩
        · rw [installed, Function.update_of_ne (other pending found)]

/-- Another client asked before under the same transaction id, and was answered. -/
theorem permission_routes_point_to_answered_iff_single :
    ∃ w, (machine exampleConfig).Reach (fun _ _ => True) w ∧
      Genuine exampleConfig w (permissionGranted exampleClient) ∧
      (∃ w' sends, deliver exampleConfig w (permissionGranted exampleClient) = some (w', sends)) ∧
      ∀ w' sends, deliver exampleConfig w (permissionGranted exampleClient) = some (w', sends) →
        RoutesPointTo exampleClient w.proxy w'.proxy exampleTid := by
  obtain ⟨w, reach, passed⟩ : ∃ w, (machine exampleConfig).Reach (fun _ _ => True) w ∧
      (decide (Genuine exampleConfig w (permissionGranted exampleClient)) &&
        ((deliver exampleConfig w (permissionGranted exampleClient)).isSome &&
          decide (w.lastAsker exampleTid = some exampleClient))) = true :=
    Machine.Reach.exists_of_replay World.init
      [permissionAsked otherClient, permissionGranted otherClient, permissionAsked exampleClient] rfl (by decide)
  simp only [Bool.and_eq_true, decide_eq_true_eq, Option.isSome_iff_exists] at passed
  obtain ⟨genuine, ⟨⟨w', sends⟩, run⟩, asked⟩ := passed
  have named : (⟨(read (Memory.ofList (permissionAnswer exampleClient))).srcIp,
      (read (Memory.ofList (permissionAnswer exampleClient))).srcPort⟩ : Client) = exampleClient := by decide
  have tid : frameTid (.ofList (permissionAnswer exampleClient)) = exampleTid := by decide
  refine ⟨w, reach, genuine, ⟨w', sends, run⟩, fun w' sends run => ?_⟩
  have points := permission_routes_point_to_answered_iff reach genuine run
  rw [named, tid] at points
  exact points.mpr (Or.inr asked)

/-- Two clients ask under one transaction id; the success for the first writes a route to the second. -/
theorem shared_tid_misattributes :
    ¬ ∀ (cfg : Config) (w w' : World) (request : Request) (buf : Memory) (n : Nat) (sends : List Send),
      (machine cfg).Reach (fun _ _ => True) w → Genuine cfg w ⟨.grant request, buf, n⟩ →
      deliver cfg w ⟨.grant request, buf, n⟩ = some (w', sends) →
      RoutesPointTo ⟨(read buf).srcIp, (read buf).srcPort⟩ w.proxy w'.proxy (frameTid buf) := by
  intro claimed
  obtain ⟨w, reach, fails⟩ : ∃ w, (machine exampleConfig).Reach (fun _ _ => True) w ∧
      (decide (Genuine exampleConfig w (permissionGranted exampleClient)) &&
        ((w.proxy.mapRequests exampleTid).map RequestInfo.routeKey == some (peerKey sharedPeer) &&
          ((deliver exampleConfig w (permissionGranted exampleClient)).map
            (fun r => (r.1.proxy.mapPeerInfo (peerKey sharedPeer)).map ProxyInfo.client) ==
              some (some otherClient)))) = true :=
    Machine.Reach.exists_of_replay World.init
      [permissionAsked exampleClient, permissionAsked otherClient] rfl (by decide)
  simp only [Bool.and_eq_true, decide_eq_true_eq, beq_iff_eq, Option.map_eq_some_iff] at fails
  obtain ⟨genuine, ⟨pending, found, key⟩, ⟨w', sends⟩, run, info, route, client⟩ := fails
  have tid : frameTid (.ofList (permissionAnswer exampleClient)) = exampleTid := by decide
  have pointed := claimed exampleConfig w w' _ _ _ sends reach genuine run
  rw [tid] at pointed
  obtain ⟨written, named, other⟩ := pointed.written pending found
  rw [key, route] at named
  rw [← Option.some.inj named, client] at other
  exact absurd other (by decide)

end Proxy
end TurnCluster
