import Mathlib.Data.List.TakeDrop
import TurnCluster.Lib.Run
import TurnCluster.Server.TcpStream

namespace TurnCluster
namespace Tcp

open Relay Server

/-- `TC_STATE` -/
inductive TcState
  | unknown
  | clientToPeerConnecting
  | peerConnecting
  | peerConnected
  | ready
  | failed
  deriving DecidableEq

section Unsent

variable {B : Type}

def maxUnsentBufferSize : Nat := 0x10

/-- An `unsent_buffer`. A buffer that was sent leaves `NULL` behind. -/
abbrev UnsentBuffer (B : Type) := List (Option B)

def addUnsentBuffer (ub : UnsentBuffer B) (nbh : B) : UnsentBuffer B :=
  if maxUnsentBufferSize ≤ ub.length then ub else ub ++ [some nbh]

def topUnsentBuffer : UnsentBuffer B → Option B
  | [] => none
  | some nbh :: _ => some nbh
  | none :: rest => topUnsentBuffer rest

def popUnsentBuffer : UnsentBuffer B → UnsentBuffer B
  | [] => []
  | some _ :: rest => none :: rest
  | none :: rest => none :: popUnsentBuffer rest

/-- The buffers that are still to be sent. -/
def waiting (ub : UnsentBuffer B) : List B := ub.filterMap id

theorem topUnsentBuffer_eq (ub : UnsentBuffer B) : topUnsentBuffer ub = (waiting ub).head? := by
  induction ub with
  | nil => rfl
  | cons slot rest ih =>
    cases slot with
    | none => exact ih
    | some nbh => rfl

theorem waiting_popUnsentBuffer (ub : UnsentBuffer B) : waiting (popUnsentBuffer ub) = (waiting ub).tail := by
  induction ub with
  | nil => rfl
  | cons slot rest ih =>
    cases slot with
    | none => exact ih
    | some nbh => rfl

end Unsent

/-- A message to the client about the connection, on the connection of its allocation. -/
inductive Control
  | connectSuccess
  | connectError (errCode : Nat)
  | connectionAttempt

/-- A `tcp_connection` with its sockets and timers. -/
structure DataRelay where
  state : TcState
  clientS : Option Stream
  peerS : Option Stream
  ubToClient : UnsentBuffer StunBuffer
  /-- The timers that are set. -/
  peerConnTimeout : Bool
  connBindTimeout : Bool
  /-- `conn_cb` of the connecting socket. -/
  connCb : Bool
  /-- The sockets whose input goes to `tcp_peer_input_handler` and `tcp_client_input_handler_rfc6062data`. -/
  peerRead : Bool
  clientRead : Bool
  /-- It is in `tcp_relay_connections`. -/
  inMap : Bool

/-- A buffer is sent to the client; a socket that fails is to be closed. It is then asked whether it goes on. -/
def deliverBuffer (s : Stream) (env : SendEnv) (nbh : StunBuffer) : Stream × Bool :=
  let sent := s.send env nbh
  let s := if sent.2 < 0 then sent.1.close else sent.1
  let closed := s.socket.ioaSocketToBeClosed env
  (⟨closed.1, s.written⟩, closed.2)

/-- `tcp_deliver_delayed_buffer`, with the surroundings of each round. -/
def tcpDeliverDelayedBuffer :
    Nat → (Nat → SendEnv) → UnsentBuffer StunBuffer → Stream → UnsentBuffer StunBuffer × Stream
  | 0, _, ub, s => (ub, s)
  | rounds + 1, env, ub, s =>
    match topUnsentBuffer ub with
    | none => (ub, s)
    | some nbh =>
      let (s, closed) := deliverBuffer s (env 0) nbh
      if closed = true then (popUnsentBuffer ub, s)
      else tcpDeliverDelayedBuffer rounds (fun i => env (i + 1)) (popUnsentBuffer ub) s

/-- `tcp_peer_input_handler` -/
def tcpPeerInputHandler (tc : DataRelay) (nbh : StunBuffer) (env : SendEnv) : DataRelay :=
  match tc.clientS with
  | none => { tc with ubToClient := addUnsentBuffer tc.ubToClient nbh }
  | some s =>
    if tc.state ≠ .ready then { tc with ubToClient := addUnsentBuffer tc.ubToClient nbh }
    else
      let sent := s.send env nbh
      { tc with clientS := some sent.1, peerS := if sent.2 < 0 then tc.peerS.map Stream.close else tc.peerS }

/-- `tcp_client_input_handler_rfc6062data` -/
def tcpClientInputHandlerRfc6062data (tc : DataRelay) (nbh : StunBuffer) (env : SendEnv) : DataRelay :=
  if tc.state ≠ .ready then tc
  else
    match tc.peerS with
    | none => tc
    | some p =>
      let sent := p.send env nbh
      { tc with peerS := some sent.1, clientS := if sent.2 < 0 then tc.clientS.map Stream.close else tc.clientS }

/-- `register_callback_on_ioa_socket` gives a stream socket its `bev`. -/
def Stream.register (s : Stream) : Stream := { s with socket := { s.socket with bev := true } }

/-- `tcp_peer_connection_completed_callback`: the connection, unless it is deleted, and the answer to the Connect. -/
def tcpPeerConnectionCompletedCallback (tc : DataRelay) (success register : Bool) : Option DataRelay × Control :=
  if success = true then
    if register = true then
      (some { tc with
        state := .peerConnected, peerS := tc.peerS.map Stream.register, peerConnTimeout := false, connBindTimeout := true
        peerRead := true }, .connectSuccess)
    else (none, .connectError 500)
  else (none, .connectError 447)

/-- `connect_eventcb` clears the callback before it calls it. -/
def connectEventcb (tc : DataRelay) (success register : Bool) : Option DataRelay × Control :=
  let connect (s : Stream) : Stream := if success = true then { s with socket := { s.socket with connected := true } } else s
  tcpPeerConnectionCompletedCallback { tc with connCb := false, peerS := tc.peerS.map connect } success register

theorem connectEventcb_goesOn {tc tc' : DataRelay} {success register : Bool}
    (goesOn : (connectEventcb tc success register).1 = some tc') : success = true ∧ register = true := by
  cases success with
  | false => cases goesOn
  | true =>
    cases register with
    | false => cases goesOn
    | true => exact ⟨rfl, rfl⟩

/-- What `turnserver_accept_tcp_client_data_connection` finds before it binds: an owner that is missing or to be closed
or a failed check of the credentials, a key that has to be waited for, or neither. -/
inductive BindCheck
  | refused (errCode : Nat)
  | postponed
  | passed
  deriving DecidableEq

/-- What `register_callback_on_ioa_socket` does; it can mark the socket to be closed when it fails. -/
inductive Register
  | done
  | failed (tobeclosed : Bool)
  deriving DecidableEq

/-- The socket that brings a ConnectionBind becomes one for data. -/
def clientDataSocket (s : SendSocket) : SendSocket :=
  { s with tcpData := true, bandwidth := { s.bandwidth with sat := .other } }

/-- `turnserver_accept_tcp_client_data_connection` for a connection that was found, with the response for each error
code. `again` is the second attempt to register the socket, for the error response. -/
def acceptTcpClientData (respond : Nat → StunBuffer) (tc : DataRelay) (s : SendSocket) (check : BindCheck)
    (register : Register) (again : Bool) (env : SendEnv) (delayed : Nat → SendEnv) : DataRelay :=
  if tc.state = .ready ∨ tc.clientS.isSome = true then { tc with inMap := false }
  else
    match check with
    | .refused _ => { tc with inMap := false }
    | .postponed => tc
    | .passed =>
      let client : Stream := ⟨clientDataSocket s, []⟩
      match register with
      | .done =>
        let answered := (client.register.send env (respond 0)).1
        -- `i++` is compared with the limit after each round
        let delivered := tcpDeliverDelayedBuffer (maxUnsentBufferSize + 1) delayed tc.ubToClient answered
        { tc with state := .ready, clientS := some delivered.2, ubToClient := delivered.1, connBindTimeout := false,
                  clientRead := true, inMap := false }
      | .failed tobeclosed =>
        let client := if tobeclosed = true then client.close else client
        let answered := if again = true then (client.register.send env (respond 500)).1 else client
        { tc with state := .ready, clientS := some answered, inMap := false }

/-- The connection that `tcp_start_connection_to_peer` leaves behind, with the socket that is connecting. -/
def tcpStartConnectionToPeer (s : SendSocket) : DataRelay :=
  ⟨.clientToPeerConnecting, none, some ⟨s, []⟩, [], true, false, true, false, false, true⟩

/-- The connection that `tcp_peer_accept_connection` leaves behind. -/
def tcpPeerAcceptConnection (s : SendSocket) (register : Bool) : DataRelay :=
  if register = true then
    ⟨.peerConnected, none, some (Stream.register ⟨s, []⟩), [], false, true, false, true, false, true⟩
  else ⟨.unknown, none, none, [], false, false, false, false, false, true⟩

/-- A new socket for the data of a peer. -/
structure NewData (s : SendSocket) : Prop extends s.Open where
  tcpData : s.tcpData = true
  unlimited : s.bandwidth.sat = .other

/-- A connection until it is deleted, and the messages about it. -/
structure RelayWorld where
  tc : Option DataRelay
  control : List Control
  /-- What was read from the peer before a client was bound and behind, and from the client; no code reads these. -/
  early : List Read
  late : List Read
  fromClient : List Read

namespace RelayWorld

/-- A client asked for the connection. -/
def connecting (s : SendSocket) : RelayWorld := ⟨some (tcpStartConnectionToPeer s), [], [], [], []⟩

/-- A peer connected. -/
def accepted (s : SendSocket) (register : Bool) : RelayWorld :=
  ⟨some (tcpPeerAcceptConnection s register), if register = true then [.connectionAttempt] else [], [], [], []⟩

/-- How a connection begins. -/
inductive Start : RelayWorld → Prop
  | connecting {s : SendSocket} : NewData s → Start (connecting s)
  | accepted {s : SendSocket} (register : Bool) : NewData s → s.connected = true → Start (accepted s register)

end RelayWorld

inductive RelayEvent
  | connected (success register : Bool)
  | peerConnTimeout
  | connBindTimeout
  | peerInput (r : Read) (env : SendEnv)
  | clientInput (r : Read) (env : SendEnv)
  | bind (s : SendSocket) (check : BindCheck) (register : Register) (again : Bool) (env : SendEnv)
      (delayed : Nat → SendEnv)
  /-- A socket or the allocation is closed. -/
  | delete

/-- The event can happen to the connection. The socket of a client is connected. -/
def DataRelay.expects (tc : DataRelay) : RelayEvent → Bool
  | .connected _ _ => tc.connCb
  | .peerConnTimeout => tc.peerConnTimeout
  | .connBindTimeout => tc.connBindTimeout
  | .peerInput _ _ => tc.peerRead
  | .clientInput _ _ => tc.clientRead
  | .bind s _ _ _ _ _ => tc.inMap && s.connected
  | .delete => true

section Machine

variable (respond : Nat → StunBuffer)

def relayStep (w : RelayWorld) (tc : DataRelay) : RelayEvent → RelayWorld
  | .connected success register =>
    let done := connectEventcb tc success register
    { w with tc := done.1, control := w.control ++ [done.2] }
  | .peerConnTimeout =>
    let done := tcpPeerConnectionCompletedCallback tc false false
    { w with tc := done.1, control := w.control ++ [done.2] }
  | .connBindTimeout => { w with tc := none }
  | .peerInput r env =>
    let w := { w with tc := some (tcpPeerInputHandler tc r.buffer env) }
    if tc.clientS.isSome = true then { w with late := w.late ++ [r] } else { w with early := w.early ++ [r] }
  | .clientInput r env =>
    { w with tc := some (tcpClientInputHandlerRfc6062data tc r.buffer env), fromClient := w.fromClient ++ [r] }
  | .bind s check register again env delayed =>
    { w with tc := some (acceptTcpClientData respond tc s check register again env delayed) }
  | .delete => { w with tc := none }

/-- The life of a connection. -/
def relayMachine : Machine RelayWorld RelayEvent Unit where
  init := RelayWorld.Start
  enabled w e := ∃ tc ∈ w.tc, tc.expects e = true
  next w e := w.tc.map (fun tc => (relayStep respond w tc e, ()))

instance (w : RelayWorld) (e : RelayEvent) : Decidable ((relayMachine respond).enabled w e) :=
  inferInstanceAs (Decidable (∃ tc ∈ w.tc, tc.expects e = true))

variable {respond}

theorem relayMachine_next {w w' : RelayWorld} {e : RelayEvent} {o : Unit} (enabled : (relayMachine respond).enabled w e)
    (run : (relayMachine respond).next w e = some (w', o)) :
    ∃ tc, w.tc = some tc ∧ tc.expects e = true ∧ w' = relayStep respond w tc e := by
  obtain ⟨tc, there, result⟩ := Option.map_eq_some_iff.mp run
  obtain ⟨_, member, expects⟩ := enabled
  cases result
  cases there.symm.trans member
  exact ⟨tc, there, expects, rfl⟩

end Machine

/-- A client is bound only to a connection that is there, by a socket that can be registered. -/
def Settled (w : RelayWorld) : RelayEvent → Prop
  | .bind _ check register _ _ _ => check = .passed → register = .done ∧ ∀ tc ∈ w.tc, tc.connCb = false
  | _ => True

instance (w : RelayWorld) (e : RelayEvent) : Decidable (Settled w e) := by
  cases e <;> unfold Settled <;> infer_instance

section Deliver

variable {s : Stream} {sent : List StunBuffer}

theorem Stream.Carries.deliverBuffer (carries : s.Carries sent) (env : SendEnv) (nbh : StunBuffer) :
    let delivered := Tcp.deliverBuffer s env nbh
    delivered.1.Carries (sent ++ [nbh]) ∧ (delivered.2 = true → ¬ delivered.1.socket.Open) := by
  have sends := carries.send env nbh
  have kept : (if (s.send env nbh).2 < 0 then (s.send env nbh).1.close else (s.send env nbh).1).Carries
      (sent ++ [nbh]) := by
    split
    · exact sends.close
    · exact sends
  unfold Tcp.deliverBuffer
  dsimp only
  revert kept
  generalize (if (s.send env nbh).2 < 0 then (s.send env nbh).1.close else (s.send env nbh).1) = q
  intro kept
  rcases ioaSocketToBeClosed_cases q.socket env with ⟨_, goesOn⟩ | ⟨_, notOpen, marked⟩
  · rw [goesOn]
    exact ⟨kept, fun no => (nomatch no)⟩
  · have stopped := kept.stop marked notOpen []
    rw [List.append_nil] at stopped
    exact ⟨stopped, fun _ => notOpen⟩

/-- What waits is delivered, unless the socket closes. -/
theorem Stream.Carries.deliver {rounds : Nat} {env : Nat → SendEnv} {ub : UnsentBuffer StunBuffer}
    (carries : s.Carries sent) (enough : (waiting ub).length ≤ rounds) :
    (tcpDeliverDelayedBuffer rounds env ub s).2.Carries (sent ++ waiting ub) := by
  induction rounds generalizing env ub s sent with
  | zero =>
    rw [List.eq_nil_of_length_eq_zero (Nat.le_zero.mp enough), List.append_nil]
    exact carries
  | succ rounds ih =>
    unfold tcpDeliverDelayedBuffer
    rw [topUnsentBuffer_eq]
    cases front : waiting ub with
    | nil => simpa using carries
    | cons nbh rest =>
      have left : waiting (popUnsentBuffer ub) = rest := by rw [waiting_popUnsentBuffer, front, List.tail_cons]
      obtain ⟨delivered, closes⟩ := carries.deliverBuffer (env 0) nbh
      simp only [List.head?_cons]
      rw [List.append_cons]
      split
      · rename_i closed
        exact delivered.stop (.refl _) (closes closed) rest
      · rw [← left]
        refine ih delivered ?_
        rw [left]
        simpa [front] using enough

theorem waiting_map_some {B : Type} (buffers : List B) : waiting (buffers.map some) = buffers := by
  simp [waiting, List.filterMap_map]

theorem Stream.Carries.marked {q : Option Stream} {ret : Int} {p : Stream}
    (there : (if ret < 0 then q.map Stream.close else q) = some p) (carries : ∀ p, q = some p → p.Carries sent) :
    p.Carries sent := by
  split at there
  · obtain ⟨p', found, rfl⟩ := Option.map_eq_some_iff.mp there
    exact (carries p' found).close
  · exact carries p there

end Deliver

section Data

variable {respond : Nat → StunBuffer} {w : RelayWorld} {tc : DataRelay} {early late fromClient : List Read}

/-- Until a client is bound, the first reads of the peer wait for it. It is sent the response, those that waited and
those that came behind; the peer is sent what came from the client. -/
structure Relayed (respond : Nat → StunBuffer) (early late fromClient : List Read) (tc : DataRelay) : Prop where
  unbound : tc.clientS = none →
    tc.ubToClient = ((early.map Read.buffer).take maxUnsentBufferSize).map some ∧ late = [] ∧ tc.clientRead = false
  bound : ∀ s, tc.clientS = some s → tc.state = .ready ∧ tc.connCb = false ∧
    s.Carries (respond 0 :: (early.take maxUnsentBufferSize ++ late).map Read.buffer)
  connecting : tc.connCb = true → fromClient = [] ∧
    ∀ p, tc.peerS = some p → p.socket.tcpData = true ∧ p.socket.bandwidth.sat = .other ∧ p.written = []
  relaying : tc.connCb = false → ∀ p, tc.peerS = some p → p.Carries (fromClient.map Read.buffer)

theorem Relayed.clientInput (relayed : Relayed respond early late fromClient tc) (reads : tc.clientRead = true)
    (r : Read) (env : SendEnv) :
    Relayed respond early late (fromClient ++ [r]) (tcpClientInputHandlerRfc6062data tc r.buffer env) := by
  have some : ∃ s, tc.clientS = some s := by
    rw [← Option.ne_none_iff_exists']
    intro none
    exact absurd ((relayed.unbound none).2.2.symm.trans reads) Bool.false_ne_true
  obtain ⟨s, client⟩ := some
  obtain ⟨ready, there, _⟩ := relayed.bound s client
  have connects : tc.connCb ≠ true := Bool.eq_false_iff.mp there
  unfold tcpClientInputHandlerRfc6062data
  rw [if_neg (fun other => other ready)]
  cases peer : tc.peerS with
  | none =>
    refine ⟨relayed.unbound, relayed.bound, fun connecting => absurd connecting connects, fun _ p found => ?_⟩
    cases peer.symm.trans found
  | some p =>
    refine ⟨fun none => ?_, fun s' bound => ⟨ready, there, ?_⟩, fun connecting => absurd connecting connects, ?_⟩
    · dsimp only at none
      rw [client] at none
      split at none <;> cases none
    · exact .marked bound fun q found => (relayed.bound q found).2.2
    · rintro _ _ ⟨⟩
      rw [List.map_append]
      exact (relayed.relaying there p peer).send env r.buffer

theorem Relayed.bind (relayed : Relayed respond early late fromClient tc) {s : SendSocket}
    (connected : s.connected = true) {check : BindCheck} {register : Register} {again : Bool} {env : SendEnv}
    {delayed : Nat → SendEnv} (settled : check = .passed → register = .done ∧ tc.connCb = false) :
    Relayed respond early late fromClient (acceptTcpClientData respond tc s check register again env delayed) := by
  have unbound : Relayed respond early late fromClient { tc with inMap := false } :=
    ⟨relayed.unbound, relayed.bound, relayed.connecting, relayed.relaying⟩
  unfold acceptTcpClientData
  split
  · exact unbound
  · rename_i free
    have none : tc.clientS = none := by
      rw [← Option.not_isSome_iff_eq_none]
      exact fun bound => free (Or.inr bound)
    cases check with
    | refused errCode => exact unbound
    | postponed => exact relayed
    | passed =>
      obtain ⟨rfl, there⟩ := settled rfl
      obtain ⟨waits, rfl, _⟩ := relayed.unbound none
      have connects : tc.connCb ≠ true := Bool.eq_false_iff.mp there
      have new : (Stream.register ⟨clientDataSocket s, []⟩).Carries [] := .new ⟨connected, rfl, rfl, rfl⟩
      have answered := new.send env (respond 0)
      have waiting : waiting tc.ubToClient = (early.take maxUnsentBufferSize).map Read.buffer := by
        rw [waits, waiting_map_some, List.map_take]
      refine ⟨fun no => (nomatch no), ?_, fun connecting => absurd connecting connects, relayed.relaying⟩
      rintro _ ⟨⟩
      refine ⟨rfl, there, ?_⟩
      rw [List.append_nil, ← waiting]
      refine answered.deliver ?_
      rw [waiting, List.length_map]
      exact Nat.le_succ_of_le (List.length_take_le ..)

theorem Relayed.connected (relayed : Relayed respond early late fromClient tc) (connects : tc.connCb = true)
    {success register : Bool} {tc' : DataRelay} (goesOn : (connectEventcb tc success register).1 = some tc') :
    Relayed respond early late fromClient tc' := by
  obtain ⟨nothing, new⟩ := relayed.connecting connects
  obtain ⟨rfl, rfl⟩ := connectEventcb_goesOn goesOn
  cases goesOn
  refine ⟨relayed.unbound, fun s bound => ?_, fun no => (nomatch no), fun _ p peer => ?_⟩
  -- no client is bound as long as the callback of the connecting socket is there
  · exact absurd connects (Bool.eq_false_iff.mp (relayed.bound s bound).2.1)
  · simp only [Option.map_map, Option.map_eq_some_iff, Function.comp_apply, if_true] at peer
    obtain ⟨⟨socket, written⟩, found, rfl⟩ := peer
    obtain ⟨tcpData, unlimited, unwritten⟩ := new _ found
    cases unwritten
    rw [nothing]
    exact .new ⟨rfl, rfl, tcpData, unlimited⟩

theorem Relayed.peer (relayed : Relayed respond early late fromClient tc) {p : Stream} (peer : tc.peerS = some p) :
    Begins p.written fromClient ∧ (p.socket.Open → p.written = fromClient.map Read.body) := by
  cases connects : tc.connCb with
  | false => exact (relayed.relaying connects p peer).relayed
  | true =>
    -- nothing is written to a socket that is connecting
    obtain ⟨rfl, new⟩ := relayed.connecting connects
    rw [(new p peer).2.2]
    exact ⟨⟨[], List.prefix_rfl, fun _ no => (nomatch no), rfl⟩, fun _ => rfl⟩

end Data

/-- A socket for the data of a peer that is connected or not, or one of a client. -/
def exampleDataSocket (connected : Bool) : SendSocket :=
  { exampleClientSocket with
    connected := connected, child := false, tcpData := true, bandwidth := .new .other 0 }

theorem exampleDataSocket_new (connected : Bool) : NewData (exampleDataSocket connected) :=
  ⟨⟨rfl, rfl, rfl, rfl, Int.natCast_nonneg 5⟩, rfl, rfl⟩

/-- A message of twenty bytes. -/
def exampleResponse (_ : Nat) : StunBuffer := .received (.ofList (List.replicate 34 0)) 34

section Announced

variable {respond : Nat → StunBuffer} {w : RelayWorld}

/-- The client has not been told before the connection to the peer is there or has failed. -/
structure Told (w : RelayWorld) : Prop where
  once : w.control.length ≤ 1
  untold : ∀ tc, w.tc = some tc → tc.connCb = true ∨ tc.peerConnTimeout = true → w.control = []

theorem Told.keep (told : Told w) {tc : DataRelay} (there : w.tc = some tc) (tc' : DataRelay)
    (same : (tc'.connCb, tc'.peerConnTimeout) = (tc.connCb, tc.peerConnTimeout)) {w' : RelayWorld}
    (control : w'.control = w.control) (after : w'.tc = some tc') : Told w' := by
  obtain ⟨connCb, timeout⟩ := Prod.mk.inj same
  refine ⟨control ▸ told.once, fun tc'' there' waits => ?_⟩
  cases after.symm.trans there'
  rw [connCb, timeout] at waits
  rw [control]
  exact told.untold tc there waits

theorem Told.step (told : Told w) {tc : DataRelay} (there : w.tc = some tc) {e : RelayEvent}
    (expects : tc.expects e = true) : Told (relayStep respond w tc e) := by
  cases e with
  | connected success register =>
    refine ⟨?_, fun tc' after waits => ?_⟩
    · simp [relayStep, told.untold tc there (Or.inl expects)]
    · obtain ⟨rfl, rfl⟩ := connectEventcb_goesOn after
      cases after
      rcases waits with no | no <;> cases no
  | peerConnTimeout =>
    refine ⟨?_, fun tc' after => (nomatch after)⟩
    simp [relayStep, told.untold tc there (Or.inr expects)]
  | connBindTimeout => exact ⟨told.once, fun tc' after => (nomatch after)⟩
  | peerInput r env =>
    have same : let tc' := tcpPeerInputHandler tc r.buffer env
        (tc'.connCb, tc'.peerConnTimeout) = (tc.connCb, tc.peerConnTimeout) := by
      unfold tcpPeerInputHandler
      split <;> try split
      all_goals rfl
    unfold relayStep
    dsimp only
    split <;> exact told.keep there _ same rfl rfl
  | clientInput r env =>
    refine told.keep there (tcpClientInputHandlerRfc6062data tc r.buffer env) ?_ rfl rfl
    unfold tcpClientInputHandlerRfc6062data
    split_ifs <;> try split
    all_goals rfl
  | bind s check register again env delayed =>
    refine told.keep there (acceptTcpClientData respond tc s check register again env delayed) ?_ rfl rfl
    unfold acceptTcpClientData
    split
    · rfl
    · cases check with
      | refused errCode => rfl
      | postponed => rfl
      | passed => cases register <;> rfl
  | delete => exact ⟨told.once, fun tc' after => (nomatch after)⟩

theorem told_of_reach {guard : RelayWorld → RelayEvent → Prop} (reach : (relayMachine respond).Reach guard w) :
    Told w := by
  refine reach.invariant (P := Told) (fun begins => ?_) ?_
  · cases begins with
    | connecting new => exact ⟨Nat.zero_le 1, fun _ _ _ => rfl⟩
    | accepted register new connected =>
      cases register with
      | false => exact ⟨Nat.zero_le 1, fun _ _ _ => rfl⟩
      | true =>
        refine ⟨Nat.le_refl 1, ?_⟩
        rintro _ ⟨⟩ (no | no) <;> cases no
  · intro w w' e o told enabled _ run
    obtain ⟨tc, there, expects, rfl⟩ := relayMachine_next enabled run
    exact told.step there expects

end Announced

/-- The client is told at most once about a connection, and nothing as long as the socket to the peer is connecting. -/
theorem announced_at_most_once {respond : Nat → StunBuffer} {w : RelayWorld}
    (reach : (relayMachine respond).Reach (fun _ _ => True) w) :
    w.control.length ≤ 1 ∧ ∀ tc, w.tc = some tc → tc.connCb = true → w.control = [] := by
  have told := told_of_reach reach
  exact ⟨told.once, fun tc there connecting => told.untold tc there (Or.inl connecting)⟩

/-- The socket of the client cannot be registered, when the connection to the peer is not there yet. -/
theorem announced_at_most_once_failed :
    ∃ w, (relayMachine exampleResponse).Reach (fun _ _ => True) w ∧
      (w.tc.bind DataRelay.clientS).isSome = true ∧ w.control.length ≤ 1 := by
  obtain ⟨w, reach, bound⟩ : ∃ w, (relayMachine exampleResponse).Reach (fun _ _ => True) w ∧
      (w.tc.bind DataRelay.clientS).isSome = true :=
    Machine.Reach.exists_of_replay (RelayWorld.connecting (exampleDataSocket false))
      [.bind (exampleDataSocket true) .passed (.failed true) true exampleSendEnv (fun _ => exampleSendEnv),
        .connected true true]
      (.connecting (exampleDataSocket_new false)) (by decide +kernel)
  exact ⟨w, reach, bound, (announced_at_most_once reach).1⟩

end Tcp
end TurnCluster
