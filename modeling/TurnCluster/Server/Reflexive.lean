import TurnCluster.Lib.Run
import TurnCluster.Listener.Sockets
import TurnCluster.Server.Binding
import TurnCluster.Server.DualAllocation

namespace TurnCluster
namespace Server

/-- What the surroundings contribute to one command and its response. -/
structure Surroundings where
  env : Env
  rfc5780 : Bool
  otherAddress : Option IoaAddr
  localMtu : Nat
  externalIp : IoaAddr
  /-- `out_reservation_token` of new relay sockets. -/
  reservationToken : Nat
  /-- `s_mobile_id` of the session. -/
  mobileId : List UInt8
  software : List UInt8
  /-- The HMAC for the response to a request that was authenticated. -/
  integrity : Option (List UInt8)
  /-- `ns_crc32`, where a fingerprint is due. -/
  fingerprint : Option (List UInt8 → UInt32)
  bandwidth : Bool
  sendFails : Bool

/-- A session with its client socket. Requests that wait for a key are kept with the
header of their frame. `overwritten` says whether a send has replaced the remote
address of the socket since it was last set from a header; no code reads it. -/
structure ClientWorld where
  node : Node
  listener : Listener.RelayServer
  waiting : List (Lookup × StunCustomHeader)
  overwritten : Bool

def ClientWorld.socket (w : ClientWorld) (handle : Listener.SocketHandle) : Listener.IoaSocket :=
  w.listener.sockets handle

/-- The session as the handlers see it: they ask the socket whether it is to be closed. -/
def ClientWorld.current (w : ClientWorld) (handle : Listener.SocketHandle) : Node :=
  { w.node with ss := { w.node.ss with
      client := w.node.ss.client.map (fun s =>
        { s with toBeClosed := Listener.ioaSocketToBeClosed (w.socket handle) }) } }

def bindingContext (server : TurnServer) (sur : Surroundings) (s : Listener.IoaSocket) (stream : Bool) :
    BindingContext where
  rfc5780 := sur.rfc5780
  mapping := server.mapping
  socketType := if s.ssl then .dtls else if stream then .stream else .udp
  localAddr := s.localAddr
  remoteAddr := s.remoteAddr
  otherAddress := sur.otherAddress
  localMtu := sur.localMtu

/-- The relayed address of a family that an Allocate response names. -/
def relayedAddr (server : TurnServer) (sur : Surroundings) (failure : Bool) (r : RelayEndpointSession) :
    Option IoaAddr :=
  if failure = true then some .any
  else r.s.map (fun s =>
    if server.externalIpSet = true then addrSetPort sur.externalIp (addrGetPort s.localAddr) else s.localAddr)

/-- The fields of an Allocate response: a repeated request is told the time that is left. -/
def allocateResponseFields (server : TurnServer) (sur : Surroundings) (before after : SuperSession) (m : Request) :
    List Attribute :=
  if before.alloc.isValid = true then
    let r := if after.relayFailure4 = true ∨ after.relay4.s.isSome then after.relay4 else after.relay6
    allocateFields (r.expirationTime - sur.env.ctime) server.maxAllocateLifetime 0 sur.mobileId
  else
    let s := scanAttrs AllocateScan.running (AllocateScan.body server before.stream) (.start before) m.attrs
    let lifetime := stunAdjustAllocateLifetime s.lifetime server.maxAllocateLifetime before.maxSessionTimeAuth
    allocateFields lifetime server.maxAllocateLifetime sur.reservationToken sur.mobileId ++
      if after.bps = 0 then [] else [⟨stunAttributeNewBandwidth, bytes32 (nswap32 (UInt32.ofNat (after.bps / 128)))⟩]

/-- The buffer of a response: the header of the request is copied to its front. -/
def responseBuffer (header : StunCustomHeader) : StunBuffer :=
  (StunBuffer.ioaNetworkBufferAllocate.writeHeader header).setSize stunCustomHeaderLen

/-- The error of one family is added with `ioa_network_buffer_get_size`, 14 bytes short of the message. -/
def addFamilyError (built : StunBuffer × Nat) (family : UInt8) (errCode : Nat) : StunBuffer × Nat :=
  if errCode = 0 then built
  else stunAttrAddAddressErrorCode built.1 18 (sizeSub built.2 stunCustomHeaderLen) family errCode

/-- The Allocate success, with its data at place 18. Nothing between the start of the command and the
handler changes the allocation, so `before` may be the session of either. -/
def allocateResponse (server : TurnServer) (sur : Surroundings) (before after : SuperSession) (m : Request)
    (header : StunCustomHeader) (remoteAddr : IoaAddr) : StunBuffer × Nat :=
  let built := stunSetAllocateResponseStr server.mapping (responseBuffer header) 18 m.tid
    (relayedAddr server sur after.relayFailure4 after.relay4) (relayedAddr server sur after.relayFailure6 after.relay6)
    remoteAddr (allocateResponseFields server sur before after m)
  let (errCode4, errCode6) := addressErrors server sur.env before m
  addFamilyError (addFamilyError built 1 errCode4) 2 errCode6

/-- What `handle_turn_command` and `read_client_connection` add to every response. -/
def finishResponse (sur : Surroundings) (built : StunBuffer × Nat) : StunBuffer × Nat :=
  let (b, len) := stunAttrAddBytes built.1 18 built.2 stunAttributeSoftware sur.software
  let (b, len) := match sur.integrity with
    | none => (b, len)
    | some hmac => stunAttrAddBytes b 18 len stunAttributeMessageIntegrity hmac
  match sur.fingerprint with
  | none => (b, len)
  | some nsCrc32 => stunAttrAddFingerprintStr nsCrc32 b 18 len

/-- The reply to a command, and the response if it is a Binding or Allocate success. -/
def success (server : TurnServer) (sur : Surroundings) (s : Listener.IoaSocket) (before : SuperSession) (m : Request)
    (header : StunCustomHeader) (result : CommandResult) : Reply × Option (StunBuffer × Nat) :=
  if m.method = stunMethodBinding ∧ result.entered = true then
    let handled := handleTurnBinding (bindingContext server sur s before.stream) m (responseBuffer header) 18
    (conclude result.outcome.node handled.1, handled.2.map (fun r => finishResponse sur (r.nbh, r.len)))
  else if m.method = stunMethodAllocate ∧ result.outcome.reply.errCode = 0 ∧
      result.outcome.reply.respConstructed = true then
    (result.outcome.reply,
      some (finishResponse sur (allocateResponse server sur before result.outcome.node.ss m header s.remoteAddr)))
  else (result.outcome.reply, none)

/-- Whether a send without a destination replaces the remote address of the socket. -/
def overwrites (s : Listener.IoaSocket) (bandwidth : Bool) : Bool :=
  !s.done && bandwidth && !Listener.ioaSocketToBeClosed s && !s.ssl && s.child

/-- `write_client_connection`, which drops the frame if the client has no socket. -/
def writeClientConnection (handle : Listener.SocketHandle) (bandwidth sendFails : Bool) (w : ClientWorld) :
    ClientWorld :=
  if w.node.ss.client = none then w
  else
    { w with
      listener := Listener.sendDataFromIoaSocketNbh w.listener handle bandwidth sendFails
      overwritten := w.overwritten || overwrites (w.socket handle) bandwidth }

/-- The session after a command, which may have to wait for a key. -/
def ClientWorld.after (w : ClientWorld) (header : StunCustomHeader) (result : CommandResult) : ClientWorld :=
  { w with
    node := result.outcome.node
    waiting := w.waiting ++ result.outcome.lookup.toList.map (fun lookup => (lookup, header)) }

/-- What follows a command: its response, if there is one, is sent. -/
def finishCommand (server : TurnServer) (handle : Listener.SocketHandle) (sur : Surroundings) (w : ClientWorld)
    (m : Request) (header : StunCustomHeader) (result : CommandResult) : ClientWorld × Option (StunBuffer × Nat) :=
  let (reply, response) := success server sur (w.socket handle) (w.current handle).ss m header result
  if reply.respConstructed = true ∧ result.outcome.node.ss.closing = false then
    (writeClientConnection handle sur.bandwidth sur.sendFails (w.after header result), response)
  else (w.after header result, response)

inductive ClientEvent where
  /-- A request of the client, behind the header that the proxy wrote. -/
  | request (m : Request) (header : StunCustomHeader) (sur : Surroundings)
  /-- The user database answers one of the waiting requests. -/
  | userKey (index : Nat) (answer : Option UserKey) (sur : Surroundings)
  /-- The relay sends the client a frame. -/
  | frame (bandwidth sendFails : Bool)

/-- The address that a header names, as the listener reads it. -/
def Names (header : StunCustomHeader) (client : IoaAddr) : Prop :=
  header.srcIp = client.ip4 ∧ nswap16 header.srcPort = client.port

instance (header : StunCustomHeader) (client : IoaAddr) : Decidable (Names header client) :=
  inferInstanceAs (Decidable (_ ∧ _))

/-- The request of an event is handled at once. -/
def handledAtOnce (server : TurnServer) (handle : Listener.SocketHandle) (w : ClientWorld) (m : Request)
    (sur : Surroundings) : CommandResult :=
  readClientConnection server sur.env (w.current handle) m true

/-- `resume_processing_after_username_check`: the address of the client is written back first. A client
without a socket is not answered. -/
def resumeWaiting (server : TurnServer) (handle : Listener.SocketHandle) (w : ClientWorld) (index : Nat)
    (answer : Option UserKey) (sur : Surroundings) : Option (ClientWorld × Option (StunBuffer × Nat)) :=
  match w.waiting[index]? with
  | none => none
  | some (lookup, header) =>
    if w.node.ss.client = none then some ({ w with waiting := w.waiting.eraseIdx index }, none)
    else
      let w := { w with
        waiting := w.waiting.eraseIdx index
        listener := Listener.resumeRemoteAddr w.listener handle header
        overwritten := false }
      some (finishCommand server handle sur w lookup.request header
        (resumeProcessingAfterUsernameCheck server sur.env (w.current handle) lookup answer))

def clientStep (server : TurnServer) (handle : Listener.SocketHandle) (w : ClientWorld) :
    ClientEvent → Option (ClientWorld × Option (StunBuffer × Nat))
  | .request m header sur => some (finishCommand server handle sur w m header (handledAtOnce server handle w m sur))
  | .userKey index answer sur => resumeWaiting server handle w index answer sur
  | .frame bandwidth sendFails => some (writeClientConnection handle bandwidth sendFails w, none)

/-- A session of the client, from the creation of its socket on. It sends Binding and
Allocate requests, and every header names it. -/
def clientMachine (server : TurnServer) (handle : Listener.SocketHandle) (client : IoaAddr) :
    Machine ClientWorld ClientEvent (Option (StunBuffer × Nat)) where
  init w := (w.socket handle).remoteAddr = client ∧ w.waiting = [] ∧ w.overwritten = false
  enabled _ ev := match ev with
    | .request m header _ => (m.method = stunMethodBinding ∨ m.method = stunMethodAllocate) ∧ Names header client
    | _ => True
  next := clientStep server handle

/-- The request is one that the server asks credentials for. -/
def NeedsKey (server : TurnServer) (m : Request) : Prop :=
  server.longTerm = true ∧ (m.method ≠ stunMethodBinding ∨ server.secureStun = true)

instance (server : TurnServer) (m : Request) : Decidable (NeedsKey server m) := inferInstanceAs (Decidable (_ ∧ _))

/-- Nothing was sent since the socket was made or a waiting request was last resumed;
or the request cannot be served before its key has been looked up. -/
def Undisturbed (server : TurnServer) (w : ClientWorld) (ev : ClientEvent) : Prop :=
  match ev with
  | .request m _ _ => w.overwritten = false ∨ NeedsKey server m ∧ ¬ Signed server w.node.ss.credentials m
  | _ => True

instance (server : TurnServer) (w : ClientWorld) (ev : ClientEvent) : Decidable (Undisturbed server w ev) := by
  unfold Undisturbed
  cases ev <;> infer_instance

/-- An Allocate of both families gets both relay sockets or none. -/
def Alike (server : TurnServer) (env : Env) (ss : SuperSession) (m : Request) : Prop :=
  m.method = stunMethodAllocate → (allocateScanned server ss m).af4 = true → (allocateScanned server ss m).af6 = true →
    relayFails env (allocateScanned server ss m) .inet = relayFails env (allocateScanned server ss m) .inet6

/-- The same for the request that an event leads to. -/
def Undivided (server : TurnServer) (w : ClientWorld) (ev : ClientEvent) : Prop :=
  match ev with
  | .request m _ sur => Alike server sur.env w.node.ss m
  | .userKey index _ sur => ∀ entry, w.waiting[index]? = some entry → Alike server sur.env w.node.ss entry.1.request
  | .frame _ _ => True

variable {handle : Listener.SocketHandle} {client : IoaAddr} {s : Listener.IoaSocket} {before : SuperSession}
  {w : ClientWorld} (server : TurnServer) {header : StunCustomHeader} (ss : SuperSession) {built : StunBuffer × Nat}
  {env : Env} {result : CommandResult}

theorem ClientWorld.current_scanned (w : ClientWorld) (handle : Listener.SocketHandle) (m : Request) :
    allocateScanned server (w.current handle).ss m = allocateScanned server w.node.ss m := by
  have stream : (w.current handle).ss.stream = w.node.ss.stream := by
    unfold SuperSession.stream ClientWorld.current
    cases w.node.ss.client <;> rfl
  unfold allocateScanned
  rw [stream]
  rfl

theorem Alike.current {server : TurnServer} {m : Request} (alike : Alike server env w.node.ss m)
    (handle : Listener.SocketHandle) : Alike server env (w.current handle).ss m := by
  unfold Alike
  rw [w.current_scanned]
  exact alike

theorem finishResponse_keeps (sur : Surroundings) {P : StunBuffer → Nat → Prop}
    (adds : ∀ {b len}, P b len → ∀ attr ∈ [stunAttributeSoftware, stunAttributeMessageIntegrity], ∀ value,
      P (stunAttrAddBytes b 18 len attr value).1 (stunAttrAddBytes b 18 len attr value).2)
    (checks : ∀ {b len}, P b len → ∀ nsCrc32,
      P (stunAttrAddFingerprintStr nsCrc32 b 18 len).1 (stunAttrAddFingerprintStr nsCrc32 b 18 len).2)
    {built : StunBuffer × Nat} (start : P built.1 built.2) : P (finishResponse sur built).1 (finishResponse sur built).2 := by
  have named := adds start stunAttributeSoftware (by simp) sur.software
  unfold finishResponse
  dsimp only
  cases sur.integrity with
  | none =>
    cases sur.fingerprint with
    | none => exact named
    | some nsCrc32 => exact checks named nsCrc32
  | some hmac =>
    have signed := adds named stunAttributeMessageIntegrity (by simp) hmac
    cases sur.fingerprint with
    | none => exact signed
    | some nsCrc32 => exact checks signed nsCrc32

theorem finishResponse_extended (sur : Surroundings) (message : MessageAt built.1 18 built.2) :
    Extended built.1 18 (min built.2 128) (finishResponse sur built).1 (finishResponse sur built).2 := by
  refine @finishResponse_keeps sur (fun b len => Extended built.1 18 (min built.2 128) b len) ?_ ?_ built
    ((Extended.refl message).mono (Nat.min_le_left _ _))
  · intro b len extended attr _ value
    exact extended.trans (stunAttrAddBytes_extended extended.message attr value) extended.grown
  · intro b len extended nsCrc32
    have grown := extended.grown
    exact extended.trans (stunAttrAddFingerprintStr_kept nsCrc32 extended.message) (by omega)

theorem finishResponse_reporting {sur : Surroundings} {addr : IoaAddr} (reporting : Reporting built.1 18 built.2 addr) :
    ReportsMapped ((finishResponse sur built).1.view 18) (finishResponse sur built).2 addr :=
  (reporting.extend (finishResponse_extended sur reporting.message) (by omega)).reports

theorem success_reports {server : TurnServer} {sur : Surroundings} {m : Request} {response : StunBuffer × Nat}
    (built : (success server sur s before m header result).2 = some response) (alike : Alike server sur.env before m)
    (unmapped : mapAddrFromPrivateToPublic server.mapping s.remoteAddr = s.remoteAddr)
    (known : s.remoteAddr.family ≠ .unspec) (six : s.remoteAddr.ip6.length = 16) :
    ReportsMapped (response.1.view 18) response.2 s.remoteAddr := by
  unfold success at built
  split at built
  · obtain ⟨r, handled, rfl⟩ := Option.map_eq_some_iff.mp built
    exact finishResponse_reporting
      (@handleTurnBinding_reporting (bindingContext server sur s before.stream) m (responseBuffer header) 18 _ r
        (Prod.ext rfl handled) unmapped known six)
  · split at built
    · rename_i allocated
      cases Option.some.inj built
      have reporting := stunSetAllocateResponseStr_reporting (responseBuffer header) 18 m.tid
        (relayedAddr server sur result.outcome.node.ss.relayFailure4 result.outcome.node.ss.relay4)
        (relayedAddr server sur result.outcome.node.ss.relayFailure6 result.outcome.node.ss.relay6)
        (allocateResponseFields server sur before result.outcome.node.ss m) unmapped known six
      refine finishResponse_reporting ?_
      unfold allocateResponse
      rw [addressErrors_zero (alike allocated.1)]
      exact reporting
    · cases built

theorem writeClientConnection_remote (present : w.node.ss.client ≠ none) (handle : Listener.SocketHandle)
    (bandwidth sendFails : Bool) :
    ((writeClientConnection handle bandwidth sendFails w).socket handle).remoteAddr =
      if overwrites (w.socket handle) bandwidth = true then
        { (w.socket handle).remoteAddr with
          family := .inet, port := 44070, ip4 := (w.socket handle).localAddr.ip4 }
      else (w.socket handle).remoteAddr := by
  unfold writeClientConnection
  rw [if_neg present]
  unfold ClientWorld.socket Listener.sendDataFromIoaSocketNbh overwrites
  dsimp only
  by_cases silent : (w.listener.sockets handle).done = true ∨ bandwidth = false ∨
      Listener.ioaSocketToBeClosed (w.listener.sockets handle) = true
  · have kept : ¬ (!(w.listener.sockets handle).done && bandwidth &&
        !Listener.ioaSocketToBeClosed (w.listener.sockets handle) && !(w.listener.sockets handle).ssl &&
        (w.listener.sockets handle).child) = true := by
      rcases silent with done | slow | closed
      · simp [done]
      · simp [slow]
      · simp [closed]
    rw [if_pos silent, if_neg kept]
  · rw [if_neg silent]
    simp only [not_or, Bool.not_eq_true, Bool.not_eq_false] at silent
    obtain ⟨notDone, fast, isOpen⟩ := silent
    by_cases separate : (w.listener.sockets handle).ssl = true ∨ (w.listener.sockets handle).child = false
    · have kept : ¬ (!(w.listener.sockets handle).ssl && (w.listener.sockets handle).child) = true := by
        rcases separate with ssl | detached
        · simp [ssl]
        · simp [detached]
      rw [if_pos separate]
      simp only [notDone, fast, isOpen, Bool.not_false, Bool.true_and, kept]
      simp [Listener.setSocket]
    · rw [if_neg separate]
      simp only [not_or, Bool.not_eq_true, Bool.not_eq_false] at separate
      obtain ⟨plain, child⟩ := separate
      simp [Listener.setSocket, notDone, fast, isOpen, plain, child]

/-- Where the session stands with the address of its client. -/
structure RemoteKept (handle : Listener.SocketHandle) (client : IoaAddr) (w : ClientWorld) : Prop where
  family : (w.socket handle).remoteAddr.family = .inet
  ip6 : (w.socket handle).remoteAddr.ip6 = client.ip6
  kept : w.overwritten = false → (w.socket handle).remoteAddr = client
  waiting : ∀ entry ∈ w.waiting, Names entry.2 client

theorem RemoteKept.write (remoteKept : RemoteKept handle client w) (bandwidth sendFails : Bool) :
    RemoteKept handle client (writeClientConnection handle bandwidth sendFails w) := by
  by_cases gone : w.node.ss.client = none
  · have dropped : writeClientConnection handle bandwidth sendFails w = w := if_pos gone
    rw [dropped]
    exact remoteKept
  have remote := writeClientConnection_remote gone handle bandwidth sendFails
  unfold writeClientConnection at remote ⊢
  rw [if_neg gone] at remote ⊢
  by_cases replaced : overwrites (w.socket handle) bandwidth = true
  · rw [if_pos replaced] at remote
    refine ⟨by rw [remote], by rw [remote]; exact remoteKept.ip6, ?_, remoteKept.waiting⟩
    intro untouched
    simp [replaced] at untouched
  · rw [if_neg replaced] at remote
    refine ⟨by rw [remote]; exact remoteKept.family, by rw [remote]; exact remoteKept.ip6, ?_, remoteKept.waiting⟩
    intro untouched
    simp only [Bool.or_eq_false_iff] at untouched
    rw [remote]
    exact remoteKept.kept untouched.1

theorem finishCommand_cases (handle : Listener.SocketHandle) (sur : Surroundings) (w : ClientWorld) (m : Request)
    (header : StunCustomHeader) (result : CommandResult) :
    (finishCommand server handle sur w m header result).2 =
        (success server sur (w.socket handle) (w.current handle).ss m header result).2 ∧
      ((finishCommand server handle sur w m header result).1 = w.after header result ∨
        (finishCommand server handle sur w m header result).1 =
          writeClientConnection handle sur.bandwidth sur.sendFails (w.after header result)) := by
  unfold finishCommand
  dsimp only
  split
  · exact ⟨rfl, Or.inr rfl⟩
  · exact ⟨rfl, Or.inl rfl⟩

theorem RemoteKept.after (remoteKept : RemoteKept handle client w) (names : Names header client)
    (result : CommandResult) : RemoteKept handle client (w.after header result) := by
  refine ⟨remoteKept.family, remoteKept.ip6, remoteKept.kept, ?_⟩
  intro entry member
  rcases List.mem_append.mp member with earlier | new
  · exact remoteKept.waiting entry earlier
  · obtain ⟨lookup, _, rfl⟩ := List.mem_map.mp new
    exact names

theorem RemoteKept.finish (remoteKept : RemoteKept handle client w) (names : Names header client)
    (server : TurnServer) (sur : Surroundings) (m : Request) (result : CommandResult) :
    RemoteKept handle client (finishCommand server handle sur w m header result).1 := by
  obtain ⟨_, same | sent⟩ := finishCommand_cases server handle sur w m header result
  · rw [same]
    exact remoteKept.after names result
  · rw [sent]
    exact (remoteKept.after names result).write sur.bandwidth sur.sendFails

/-- A reply that is no success. -/
def Reply.Declines (r : Reply) : Prop := r.errCode ≠ 0 ∨ r.respConstructed = false

theorem Reply.Declines.conclude {r : Reply} (declines : r.Declines) (node : Node) : (conclude node r).Declines := by
  unfold Server.conclude
  split
  · exact declines
  · dsimp only
    by_cases unknown : r.unknownAttrs = []
    · rw [if_neg (not_not.mpr unknown)]
      split
      · exact .inr rfl
      · split
        · exact declines
        · refine .inl ?_
          show (if r.errCode = 0 then 400 else r.errCode) ≠ 0
          split
          · decide
          · assumption
    · rw [if_pos unknown]
      split
      · exact .inr rfl
      · exact .inl (by decide : (420 : Nat) ≠ 0)

theorem authError_declines (errCode : Nat) (reason : Option String) :
    (authError ss errCode reason).reply.Declines := .inr rfl

theorem createChallengeResponse_declines : (createChallengeResponse ss).reply.Declines :=
  .inl (by decide : (401 : Nat) ≠ 0)

theorem checkCredentials_declines (m : Request) (usname realm : List UInt8) (canResume : Bool) :
    (checkCredentials server ss m usname realm canResume).reply.Declines := by
  unfold checkCredentials
  split
  · exact .inr rfl
  · split
    · exact .inr rfl
    · exact createChallengeResponse_declines ss

theorem checkUsername_declines (m : Request) (method : UInt16) (realm : List UInt8) (canResume : Bool) :
    (checkUsername server ss m method realm canResume).reply.Declines := by
  unfold checkUsername
  split
  · exact authError_declines ..
  · dsimp only
    split
    · exact authError_declines ..
    · split
      · split <;> exact authError_declines ..
      · split
        · exact authError_declines ..
        · exact checkCredentials_declines ..

/-- The check of the credentials itself never builds a success. -/
theorem checkStunAuth_declines (env : Env) (ss : SuperSession) (m : Request) (method : UInt16) (canResume : Bool) :
    (checkStunAuth server env ss m method canResume).reply.Declines := by
  unfold checkStunAuth
  split
  · exact .inr rfl
  · dsimp only
    split
    · exact createChallengeResponse_declines _
    · split
      · exact createChallengeResponse_declines _
      · unfold checkRealm
        split
        · exact authError_declines ..
        · dsimp only
          split
          · exact authError_declines ..
          · split
            · exact checkUsername_declines ..
            · split
              · split
                · split <;> exact authError_declines ..
                · exact checkUsername_declines ..
              · exact checkUsername_declines ..

theorem beforeAuth_declines (env : Env) (ss : SuperSession) (m : Request) (method : UInt16) :
    (beforeAuth server env ss m method).2.Declines := by
  have redirected : (redirectReply env method).Declines := by
    unfold redirectReply
    split
    · exact .inl (by decide : (300 : Nat) ≠ 0)
    · exact .inr rfl
  unfold beforeAuth
  dsimp only
  split
  · split
    · exact .inl (by decide : (441 : Nat) ≠ 0)
    · exact redirected
  · split <;> exact redirected

/-- The handler of a command was not entered, and no success was built. -/
structure Unserved (result : CommandResult) : Prop where
  entered : result.entered = false
  declines : result.outcome.reply.Declines

theorem Unserved.concluded (unserved : Unserved result) : Unserved result.concluded :=
  ⟨unserved.entered, unserved.declines.conclude result.outcome.node⟩

theorem ignored_unserved (node : Node) : Unserved (ignored node) := ⟨rfl, .inr rfl⟩

theorem authAndRun_unserved {server : TurnServer} {node : Node} {m : Request} {canResume : Bool}
    (longTerm : server.longTerm = true) (unsigned : ¬ Signed server node.ss.credentials m)
    (method : m.method = stunMethodBinding ∨ m.method = stunMethodAllocate) :
    Unserved (authAndRun server env node m m.method canResume) := by
  have checked : needsAuthHere server node.ss m.method = true ∧ m.method ≠ stunMethodConnectionBind := by
    rcases method with binding | allocate
    · simp [needsAuthHere, binding, stunMethodBinding, stunMethodConnectionBind, stunMethodRefresh]
    · simp [needsAuthHere, allocate, stunMethodAllocate, stunMethodConnectionBind, stunMethodRefresh]
  unfold authAndRun
  rw [if_pos checked.1]
  unfold runChecked
  dsimp only
  split
  · rename_i passes
    have clear := AuthResult.clear_of_passes passes
    obtain ⟨_, reaches⟩ := checkStunAuth_reaches longTerm checked.2 clear.not_refused
    have signed := (reaches.passed clear).1
    rw [renewNonce_credentials] at signed
    exact absurd signed unsigned
  · exact ⟨rfl, checkStunAuth_declines ..⟩

theorem readClientConnection_unserved {server : TurnServer} {node : Node} {m : Request} {canResume : Bool}
    (method : m.method = stunMethodBinding ∨ m.method = stunMethodAllocate) (needsKey : NeedsKey server m)
    (unsigned : ¬ Signed server node.ss.credentials m) :
    Unserved (readClientConnection server env node m canResume) := by
  obtain ⟨longTerm, checked⟩ := needsKey
  have declined : Unserved (processRequest server env node m canResume) := by
    unfold processRequest
    split
    · exact ignored_unserved node
    · split
      · exact ignored_unserved node
      · dsimp only
        split
        · refine authAndRun_unserved longTerm ?_ method
          -- an origin may change the realm of the session, but not its key
          rcases beforeAuth_credentials server env node.ss m m.method with same | ⟨_, _, changed⟩
          · rw [same]
            exact unsigned
          · rw [changed]
            exact unsigned
        · exact ⟨rfl, beforeAuth_declines ..⟩
  unfold readClientConnection
  split
  · exact ignored_unserved node
  · unfold handleTurnCommand
    split
    · exact declined.concluded
    · exact (ignored_unserved node).concluded

theorem success_of_unserved {server : TurnServer} {sur : Surroundings} {m : Request} (unserved : Unserved result) :
    (success server sur s before m header result).2 = none := by
  obtain ⟨entered, declines⟩ := unserved
  unfold success
  rw [if_neg (by simp [entered]), if_neg]
  rintro ⟨_, accepted, constructed⟩
  rcases declines with error | missing
  · exact error accepted
  · rw [constructed] at missing
    cases missing

theorem RemoteKept.resume (remoteKept : RemoteKept handle client w) (inet : client.family = .inet)
    (names : Names header client) (index : Nat) :
    RemoteKept handle client { w with
      waiting := w.waiting.eraseIdx index
      listener := Listener.resumeRemoteAddr w.listener handle header
      overwritten := false } := by
  have restored : ((Listener.resumeRemoteAddr w.listener handle header).sockets handle).remoteAddr = client := by
    obtain ⟨ip, port⟩ := names
    have family : (w.listener.sockets handle).remoteAddr.family = client.family := remoteKept.family.trans inet.symm
    have ip6 : (w.listener.sockets handle).remoteAddr.ip6 = client.ip6 := remoteKept.ip6
    simp [Listener.resumeRemoteAddr, Listener.setSocket, Listener.headerAddr, ip, port, family, ip6]
  refine ⟨?_, ?_, fun _ => restored, ?_⟩
  · show ((Listener.resumeRemoteAddr w.listener handle header).sockets handle).remoteAddr.family = .inet
    rw [restored, inet]
  · show ((Listener.resumeRemoteAddr w.listener handle header).sockets handle).remoteAddr.ip6 = client.ip6
    rw [restored]
  · intro entry member
    exact remoteKept.waiting entry (List.mem_of_mem_eraseIdx member)

theorem clientStep_kept {server : TurnServer} {w' : ClientWorld} {ev : ClientEvent}
    {response : Option (StunBuffer × Nat)} (inet : client.family = .inet) (six : client.ip6.length = 16)
    (unmapped : mapAddrFromPrivateToPublic server.mapping client = client) (remoteKept : RemoteKept handle client w)
    (enabled : (clientMachine server handle client).enabled w ev) (undisturbed : Undisturbed server w ev)
    (undivided : Undivided server w ev) (run : clientStep server handle w ev = some (w', response)) :
    RemoteKept handle client w' ∧ ∀ r, response = some r → ReportsMapped (r.1.view 18) r.2 client := by
  have reports (sur : Surroundings) (w : ClientWorld) (m : Request) (header : StunCustomHeader) (result : CommandResult)
      (r : StunBuffer × Nat) (remote : (w.socket handle).remoteAddr = client) (alike : Alike server sur.env w.node.ss m)
      (sent : (finishCommand server handle sur w m header result).2 = some r) :
      ReportsMapped (r.1.view 18) r.2 client := by
    rw [(finishCommand_cases server handle sur w m header result).1] at sent
    rw [← remote]
    exact success_reports sent (alike.current handle) (by rw [remote, unmapped]) (by rw [remote, inet]; decide) (by rw [remote, six])
  cases ev with
  | request m header sur =>
    obtain ⟨method, names⟩ := enabled
    obtain ⟨world, answer⟩ := Prod.ext_iff.mp (Option.some.inj run)
    subst world answer
    refine ⟨remoteKept.finish names server sur m _, ?_⟩
    intro r sent
    rcases undisturbed with untouched | ⟨needsKey, unsigned⟩
    · exact reports sur w m header _ r (remoteKept.kept untouched) undivided sent
    · rw [(finishCommand_cases server handle sur w m header _).1, success_of_unserved] at sent
      · cases sent
      · exact readClientConnection_unserved method needsKey unsigned
  | userKey index answer sur =>
    change resumeWaiting server handle w index answer sur = some (w', response) at run
    unfold resumeWaiting at run
    split at run
    · cases run
    · rename_i lookup header waits
      split at run
      · cases Option.some.inj run
        refine ⟨⟨remoteKept.family, remoteKept.ip6, remoteKept.kept, ?_⟩, by simp⟩
        exact fun entry member => remoteKept.waiting entry (List.mem_of_mem_eraseIdx member)
      have names : Names header client := remoteKept.waiting _ (List.mem_of_getElem? waits)
      have resumed := remoteKept.resume inet names index
      obtain ⟨world, answer⟩ := Prod.ext_iff.mp (Option.some.inj run)
      subst world answer
      exact ⟨resumed.finish names server sur lookup.request _,
        fun r sent => reports sur _ lookup.request header _ r (resumed.kept rfl) (undivided _ waits) sent⟩
  | frame bandwidth sendFails =>
    cases Option.some.inj run
    exact ⟨remoteKept.write bandwidth sendFails, by simp⟩

/-- In every run in which a request that can be answered at once finds the remote address
as it was set, and no Allocate of two families gets just one, each success reports the
address of the client. -/
theorem reflexive_address_reported {server : TurnServer} {handle : Listener.SocketHandle} {client : IoaAddr}
    {w w' : ClientWorld} {ev : ClientEvent} {r : StunBuffer × Nat} (inet : client.family = .inet)
    (six : client.ip6.length = 16) (unmapped : mapAddrFromPrivateToPublic server.mapping client = client)
    (reach : (clientMachine server handle client).Reach (fun w ev => Undisturbed server w ev ∧ Undivided server w ev) w)
    (enabled : (clientMachine server handle client).enabled w ev) (undisturbed : Undisturbed server w ev)
    (undivided : Undivided server w ev) (run : clientStep server handle w ev = some (w', some r)) : ReportsMapped (r.1.view 18) r.2 client := by
  have remoteKept : RemoteKept handle client w := by
    refine reach.invariant ?_ ?_
    · rintro s ⟨remote, empty, _⟩
      exact ⟨by rw [remote, inet], by rw [remote], fun _ => remote, by simp [empty]⟩
    · intro s s' ev o kept enabled condition run
      exact (clientStep_kept inet six unmapped kept enabled condition.1 condition.2 run).1
  exact (clientStep_kept inet six unmapped remoteKept enabled undisturbed undivided run).2 r rfl

/-- The client 192.168.0.7:5000 behind the proxy at 10.0.0.1, and its socket. -/
def exampleReflexive : IoaAddr := .inet 0x0700A8C0 (nswap16 5000)

def exampleClientHeader : StunCustomHeader := ⟨StunCustomHeader.customIdentifier, 0x0700A8C0, 5000, 0, 0⟩

def exampleSurroundings : Surroundings where
  env := exampleEnv
  rfc5780 := false
  otherAddress := none
  localMtu := 1500
  externalIp := .any
  reservationToken := 0
  mobileId := []
  software := [99]
  integrity := none
  fingerprint := none
  bandwidth := true
  sendFails := false

def exampleClientWorld : ClientWorld where
  node := exampleNode
  listener := Listener.setSocket (Listener.initListener (.inet 0x0100000A 3478)) 1
    (Listener.createIoaSocketFromFd false exampleReflexive (.inet 0x0100000A 3478))
  waiting := []
  overwritten := false

/-- A Binding request of the client. -/
def exampleBinding : ClientEvent :=
  .request (.ofAttributes stunMethodBinding []) exampleClientHeader exampleSurroundings

theorem exampleClientWorld_init : (clientMachine exampleServer 1 exampleReflexive).init exampleClientWorld :=
  ⟨rfl, rfl, rfl⟩

theorem exampleBinding_enabled (w : ClientWorld) :
    (clientMachine exampleServer 1 exampleReflexive).enabled w exampleBinding :=
  ⟨.inl (by decide), by decide⟩

theorem exampleBinding_alike : Alike exampleServer exampleEnv ss (.ofAttributes stunMethodBinding []) := by
  intro allocate
  exact absurd allocate (by decide)

theorem exampleBinding_undivided (w : ClientWorld) : Undivided exampleServer w exampleBinding :=
  exampleBinding_alike w.node.ss

/-- The session after its first Binding request. -/
def exampleAnsweredWorld : ClientWorld :=
  (finishCommand exampleServer 1 exampleSurroundings exampleClientWorld (.ofAttributes stunMethodBinding [])
    exampleClientHeader (handledAtOnce exampleServer 1 exampleClientWorld (.ofAttributes stunMethodBinding [])
      exampleSurroundings)).1

theorem exampleBinding_answered (known : w = exampleClientWorld ∨ w = exampleAnsweredWorld) :
    ∃ w' r, clientStep exampleServer 1 w exampleBinding = some (w', some r) := by
  have sent : (finishCommand exampleServer 1 exampleSurroundings w (.ofAttributes stunMethodBinding [])
      exampleClientHeader (handledAtOnce exampleServer 1 w (.ofAttributes stunMethodBinding [])
        exampleSurroundings)).2.isSome = true := by
    rcases known with rfl | rfl
    · decide
    · decide
  obtain ⟨r, isSent⟩ := Option.isSome_iff_exists.mp sent
  exact ⟨_, r, congrArg some (Prod.ext rfl isSent)⟩

/-- An Allocate of the user `v`, signed with a key that the session has yet to learn. -/
def exampleUnknownKey : Request :=
  .ofAttributes stunMethodAllocate (exampleCredentials [118] ++
    [⟨stunAttributeRequestedTransport, [17, 0, 0, 0]⟩, exampleIntegrity [1]])

/-- The Allocate waits for its key; the address of the socket is still the one that the Binding response left. -/
def exampleWaitingWorld : ClientWorld :=
  (finishCommand exampleServer 1 exampleSurroundings exampleAnsweredWorld exampleUnknownKey exampleClientHeader
    (handledAtOnce exampleServer 1 exampleAnsweredWorld exampleUnknownKey exampleSurroundings)).1

/-- The user database knows the key. -/
def exampleKeyFound : ClientEvent := .userKey 0 (some ⟨[1], [], false, 0⟩) exampleSurroundings

theorem exampleUnknownKey_undivided : Undivided exampleServer exampleAnsweredWorld
    (.request exampleUnknownKey exampleClientHeader exampleSurroundings) := by
  intro _ four
  exact absurd four (by decide +kernel)

theorem exampleKeyFound_undivided : Undivided exampleServer exampleWaitingWorld exampleKeyFound := by
  have single : (exampleWaitingWorld.waiting[0]?).map (fun entry =>
      (allocateScanned exampleServer exampleWaitingWorld.node.ss entry.1.request).af4) = some false := by decide +kernel
  intro entry waits _ four
  rw [waits] at single
  exact absurd (four.symm.trans (Option.some.inj single)) (by decide)

/-- An Allocate that is answered after the lookup of its key reports the client, though
the response before it has written the address of the proxy into the socket. -/
theorem reflexive_address_reported_after_lookup :
    ∃ w' r, clientStep exampleServer 1 exampleWaitingWorld exampleKeyFound = some (w', some r) ∧
      (exampleWaitingWorld.socket 1).remoteAddr ≠ exampleReflexive ∧
      ReportsMapped (r.1.view 18) r.2 exampleReflexive := by
  obtain ⟨w₁, r₁, first⟩ := exampleBinding_answered (.inl rfl)
  cases (congrArg Prod.fst (Option.some.inj first) : exampleAnsweredWorld = w₁)
  have answered : (clientMachine exampleServer 1 exampleReflexive).Reach
      (fun w ev => Undisturbed exampleServer w ev ∧ Undivided exampleServer w ev) exampleAnsweredWorld :=
    .next (.start exampleClientWorld_init) (exampleBinding_enabled _) ⟨.inl rfl, exampleBinding_undivided _⟩ first
  have waiting : (clientMachine exampleServer 1 exampleReflexive).Reach
      (fun w ev => Undisturbed exampleServer w ev ∧ Undivided exampleServer w ev) exampleWaitingWorld :=
    .next (e := .request exampleUnknownKey exampleClientHeader exampleSurroundings) answered
      ⟨.inr (by decide +kernel), by decide⟩ ⟨by decide +kernel, exampleUnknownKey_undivided⟩ rfl
  have sent : ((clientStep exampleServer 1 exampleWaitingWorld exampleKeyFound).bind Prod.snd).isSome = true := by
    decide +kernel
  obtain ⟨r, isSent⟩ := Option.isSome_iff_exists.mp sent
  obtain ⟨⟨w', response⟩, run, rfl⟩ := Option.bind_eq_some_iff.mp isSent
  have enabled : (clientMachine exampleServer 1 exampleReflexive).enabled exampleWaitingWorld exampleKeyFound := trivial
  exact ⟨w', r, run, by decide +kernel,
    reflexive_address_reported rfl rfl rfl waiting enabled trivial exampleKeyFound_undivided run⟩

/-- The first answer has written the address of the proxy over that of the client, and
the second one reports it. -/
theorem second_binding_reports_proxy :
    ∃ w w' r, (clientMachine exampleServer 1 exampleReflexive).Reach (fun _ _ => True) w ∧
      (clientMachine exampleServer 1 exampleReflexive).enabled w exampleBinding ∧
      clientStep exampleServer 1 w exampleBinding = some (w', some r) ∧
      ¬ ReportsMapped (r.1.view 18) r.2 exampleReflexive ∧
      ReportsMapped (r.1.view 18) r.2 (.inet 0x0100000A 44070) := by
  obtain ⟨w₁, r₁, first⟩ := exampleBinding_answered (.inl rfl)
  have answered : w₁ = exampleAnsweredWorld := (congrArg Prod.fst (Option.some.inj first)).symm
  obtain ⟨w₂, r, second⟩ := exampleBinding_answered (.inr answered)
  have reach : (clientMachine exampleServer 1 exampleReflexive).Reach (fun _ _ => True) w₁ :=
    .next (.start exampleClientWorld_init) (exampleBinding_enabled _) trivial first
  have remote : (w₁.socket 1).remoteAddr = .inet 0x0100000A 44070 := by
    rw [answered]
    decide
  have reports : ReportsMapped (r.1.view 18) r.2 (.inet 0x0100000A 44070) := by
    have sent := congrArg Prod.snd (Option.some.inj second)
    rw [(finishCommand_cases ..).1] at sent
    rw [← remote]
    exact success_reports sent (exampleBinding_alike _) rfl (by rw [remote]; decide) (by rw [remote]; decide)
  refine ⟨w₁, w₂, r, reach, exampleBinding_enabled _, second, ?_, reports⟩
  intro right
  have equal := right.unique reports
  revert equal
  decide

end Server
end TurnCluster
