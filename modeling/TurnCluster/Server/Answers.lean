import TurnCluster.Server.Responses

namespace TurnCluster
namespace Server

/-- What the loop of `handle_turn_connection_bind` collects. -/
structure ConnectionBindScan where
  scan : Scan
  id : UInt32
  deriving DecidableEq

/-- One turn of the loop: the id is taken as it lies in the message. -/
def ConnectionBindScan.body (s : ConnectionBindScan) (a : Attribute) : ConnectionBindScan :=
  if isSkipped a.attrType then s
  else if a.attrType = stunAttributeConnectionId then
    if a.value.length ≠ 4 then { s with scan := s.scan.fail 400 "Wrong Connection ID field format" }
    else { s with id := le32 (.ofList a.value) 0 }
  else { s with scan := s.scan.other a.attrType }

def connectionBindScanned (m : Request) : ConnectionBindScan :=
  scanAttrs (·.scan.running) ConnectionBindScan.body ⟨.empty, 0⟩ m.attrs

namespace Responder

/-- `ioa_network_buffer_allocate` and the header of the request in front. -/
def start (r : Responder) : Draft := ⟨responseBuffer r.header, []⟩

def bindingContext (r : Responder) (ss : SuperSession) : BindingContext :=
  Server.bindingContext r.server r.sur r.socket ss.stream

/-- `handle_turn_binding`, for a classic request with its cookie. -/
def binding (r : Responder) (ss : SuperSession) (m : Request) (old : Option UInt32) (d : Draft) : Reply × Draft :=
  let reply := (handleTurnBinding (r.bindingContext ss) m d.nbh d.nbh.data).1
  (reply, if reply.respConstructed = true then bindingSuccess (r.bindingContext ss) m old d else d)

/-- The attributes of a Refresh as its loop leaves them. -/
def refreshScanned (r : Responder) (ss : SuperSession) (m : Request) : RefreshScan :=
  scanAttrs RefreshScan.running
    (RefreshScan.body r.server ss (hasOpenRelay ss .inet) (hasOpenRelay ss .inet6)) .start m.attrs

/-- What `handle_turn_refresh` leaves in the buffer of `handle_turn_command`. -/
def refresh (r : Responder) (node : Node) (m : Request) (outcome : Outcome) (d : Draft) : Draft :=
  if outcome.reply.respConstructed = false then d
  else if outcome.reply.errCode = 0 then
    r.refreshSuccess m (refreshLifetime r.server node.ss (r.refreshScanned node.ss m)) d
  else d.challenge r.server outcome.node.ss stunMethodRefresh m.tid

/-- The session after `handle_turn_connect`. -/
def afterTcp (r : Responder) (node : Node) : Node :=
  { node with ss := { node.ss with
      toBeClosed := node.ss.toBeClosed || r.tcp.closing
      client := node.ss.client.map (fun s => { s with toBeClosed := s.toBeClosed || r.tcp.detached }) } }

def connect (r : Responder) (node : Node) (d : Draft) : Outcome × Draft :=
  (finished (r.afterTcp node) ⟨r.tcp.errCode, r.tcp.reason, false, r.tcp.errCode == 0, r.tcp.unknownAttrs⟩, d)

/-- The part of `handle_turn_connection_bind` that passes the client's socket on. -/
def passSocket (r : Responder) (ss : SuperSession) (s : Scan) : SuperSession × Scan :=
  let closing := { ss with toBeClosed := true }
  if r.server.sendSocketToRelay = false ∨ ss.connected = false then (closing, { s with errCode := 500 })
  else
    -- `detach_ioa_socket` closes the socket whether it succeeds or not
    let closing := { closing with client := ss.client.map ({ · with toBeClosed := true }) }
    if r.env.detachSocket = false then (closing, { s with errCode := 500 })
    else if r.env.sendSocket = false then (closing, s.fail 400 "Wrong connection id")
    else (closing, s)

/-- `handle_turn_connection_bind` up to its response. -/
def bindSocket (r : Responder) (ss : SuperSession) (m : Request) : SuperSession × Scan :=
  if ss.toBeClosed = true then (ss, ⟨400, none, []⟩)
  else if ss.alloc.isValid = true then
    (ss, Scan.empty.fail 400 "Bad request: CONNECTION_BIND cannot be issued after allocation")
  else if ss.stream = false then (ss, Scan.empty.fail 400 "Bad request: CONNECTION_BIND only possible with TCP/TLS")
  else
    let s := (connectionBindScanned m).scan
    if s.unknownAttrs ≠ [] then (ss, { s with errCode := 420 })
    else if s.errCode ≠ 0 then (ss, s)
    else r.passSocket ss s

/-- `handle_turn_connection_bind` answers only where it could not pass the socket on. -/
def connectionBind (r : Responder) (node : Node) (m : Request) (d : Draft) : Outcome × Draft :=
  let (ss, s) := r.bindSocket node.ss m
  let node := { node with ss := ss }
  if node.ss.connected = false then (finished node s.reply, d)
  else
    let errCode := if s.errCode = 0 then 437 else s.errCode
    (finished node { s.reply with errCode := errCode, respConstructed := true },
      d.error stunMethodConnectionBind errCode s.reason m.tid stunMagicCookie)

/-- The switch over the methods. -/
def runHandler (r : Responder) (node : Node) (m : Request) (canResume : Bool) (d : Draft) : Outcome × Draft :=
  if m.method = stunMethodAllocate then
    let (ss, reply) := handleTurnAllocate r.server r.env node.ss m
    (finished { node with ss := ss } reply, r.allocate node.ss m d)
  else if m.method = stunMethodConnect then r.connect node d
  else if m.method = stunMethodConnectionBind then r.connectionBind node m d
  else if m.method = stunMethodRefresh then
    let outcome := handleTurnRefresh r.server r.env node m canResume
    (outcome, r.refresh node m outcome d)
  else if m.method = stunMethodChannelBind then
    let (ss, reply) := handleTurnChannelBind r.server r.env node.ss m
    (finished { node with ss := ss } reply,
      if reply.respConstructed = true then d.success stunMethodChannelBind m.tid else d)
  else if m.method = stunMethodCreatePermission then
    let (ss, reply) := handleTurnCreatePermission r.server r.env node.ss m
    (finished { node with ss := ss } reply,
      if reply.respConstructed = true then d.success stunMethodCreatePermission m.tid else d)
  else if m.method = stunMethodBinding then
    let (reply, d) := r.binding node.ss m none d
    (finished node reply, d)
  else (finished node .empty, d)

def addSoftware (r : Responder) (d : Draft) : Draft :=
  d.addWhole (fun b pos len => stunAttrAddBytes b pos len stunAttributeSoftware r.sur.software)

/-- The last part of `handle_turn_command`: the response that it leaves, if it leaves one. -/
def conclude (r : Responder) (node : Node) (m : Request) (reply : Reply) (integrity : Bool) (d : Draft) : Option Draft :=
  if node.ss.closing = true then
    if reply.respConstructed = true then some d else none
  else if reply.noResponse = true then none
  else
    let d :=
      if reply.unknownAttrs ≠ [] then d.unknownAttributes m.method reply.unknownAttrs m.tid stunMagicCookie
      else if reply.respConstructed = true then d
      else d.error m.method (if reply.errCode = 0 then 400 else reply.errCode) reply.reason m.tid stunMagicCookie
    let d := r.addSoftware d
    some (if integrity = true then d.addWhole (stunAttrAddIntegrityStr (r.server.hmac node.ss.hmackey)) else d)

/-- The handler and what follows it. A Binding response that leaves by another socket gets its
SOFTWARE at once, and `handle_turn_command` has none left. -/
def handleAndConclude (r : Responder) (node : Node) (m : Request) (canResume integrity : Bool) (d : Draft) :
    Option Draft :=
  let (outcome, d) := r.runHandler node m canResume d
  if m.method = stunMethodBinding ∧ outcome.reply.respConstructed = true ∧ outcome.reply.noResponse = true then
    some (r.addSoftware d)
  else r.conclude outcome.node m outcome.reply integrity d

/-- The credentials, if they are due, and then the handler. -/
def authAndRun (r : Responder) (node : Node) (m : Request) (canResume : Bool) (d : Draft) : Option Draft :=
  if needsAuthHere r.server node.ss m.method = true then
    let auth := checkStunAuth r.server r.env node.ss m m.method canResume
    let node := { node with ss := auth.ss }
    if auth.passes = true then r.handleAndConclude node m canResume auth.messageIntegrity d
    else
      r.conclude node m { auth.reply with noResponse := auth.lookup.isSome } auth.messageIntegrity
        (if auth.reply.respConstructed = true then d.challenge r.server auth.ss m.method m.tid else d)
  else r.handleAndConclude node m canResume false d

/-- The response that `handle_turn_command` constructs for a message, if it constructs one. -/
def handleTurnCommand (r : Responder) (node : Node) (m : Request) (canResume : Bool) : Option Draft :=
  if stunIsRequestStr m.buf m.len = false then none
  else if m.method = stunMethodBinding ∧ r.server.noStun = true then none
  else if m.method ≠ stunMethodBinding ∧ r.server.stunOnly = true then none
  else if m.method ≠ stunMethodBinding ∨ r.server.secureStun = true then
    let (ss, reply) := beforeAuth r.server r.env node.ss m m.method
    let node := { node with ss := ss }
    if reply.goesOn = true then r.authAndRun node m canResume r.start
    else
      r.conclude node m reply false
        (if reply.respConstructed = true then r.alternateServer r.start m.method m.tid else r.start)
  else r.handleAndConclude node m canResume false r.start

/-- The name of the software as classic clients get it: at least one zero behind it, 120 bytes at most. -/
def oldServerValue (r : Responder) : List UInt8 :=
  let newsz := min ((r.sur.software.length / 4 + 1) * 4) 120
  (r.sur.software ++ List.replicate newsz 0).take newsz

def addOldServer (r : Responder) (d : Draft) : Draft :=
  d.addShort (fun b pos len => stunAttrAddBytes b pos len oldStunAttributeServer r.oldServerValue)

/-- The response that `handle_old_stun_command` constructs. -/
def handleOldStunCommand (r : Responder) (ss : SuperSession) (m : Request) (cookie : UInt32) : Option Draft :=
  if stunIsRequestStr m.buf m.len = false ∨ m.method ≠ stunMethodBinding then none
  else
    let (reply, d) := r.binding ss m (some cookie) r.start
    -- A response that leaves by another socket is complete here.
    if reply.respConstructed = true ∧ reply.noResponse = true then some (r.addOldServer d)
    else
      let d :=
        if reply.unknownAttrs ≠ [] then d.unknownAttributes m.method reply.unknownAttrs m.tid cookie
        else if reply.respConstructed = true then d
        else d.error m.method (if reply.errCode = 0 then 400 else reply.errCode) reply.reason m.tid cookie
      some (r.addOldServer d)

/-- What the mobility branch of `handle_turn_refresh` adds last. It declares a second `len` for the
SOFTWARE, and goes on with the first one. -/
def mobilityTail (r : Responder) (hmackey : List UInt8) (integrity : Bool) (d : Draft) (len : Nat) : Draft :=
  let d := d.addShort (fun b pos len => stunAttrAddBytes b pos len stunAttributeSoftware r.sur.software)
  let (d, len) :=
    if integrity = true then
      let (d, len) := d.addIntegrity (r.server.hmac hmackey) len
      (d.setSize len, len)
    else (d, len)
  match r.sur.fingerprint with
  | none => d
  | some nsCrc32 =>
    let (d, len) := d.addFingerprint nsCrc32 len
    d.setSize len

/-- The response of the mobility branch, in a buffer of its own. -/
def mobilitySuccess (r : Responder) (m : Request) (lifetime : Nat) (hmackey : List UInt8) (integrity : Bool) : Draft :=
  let (d, len) := r.start.initSuccess stunMethodRefresh m.tid
  let (d, len) := d.addStr len stunAttributeLifetime (lifetimeValue lifetime)
  let d := d.setSize len
  let (d, len) := d.addStr len stunAttributeMobilityTicket r.sur.mobileId
  let d := d.setSize len
  r.mobilityTail hmackey integrity d len

/-- The response to a ticket that moves a client to another session. -/
def handleMobility (r : Responder) (node : Node) (m : Request) (canResume : Bool) : Option Draft :=
  let outcome := handleTurnRefresh r.server r.env node m canResume
  if outcome.passed = true ∧ outcome.reply.noResponse = true then
    let moved := (outcome.node.mobile r.env.randomMobileId).getD outcome.node.ss
    some (r.mobilitySuccess m (refreshLifetime r.server outcome.node.ss (r.refreshScanned node.ss m)) moved.hmackey
      r.server.longTerm)
  else none

end Responder

/-- The part of `tcp_connection` that the acceptance of a data connection reads. -/
structure TcpConnection where
  ready : Bool
  hasClient : Bool
  /-- The session that owns the allocation of the connection. -/
  owner : Option SuperSession

/-- How a data connection is received. -/
structure Acceptance where
  ss : Option SuperSession
  errCode : Nat
  /-- `check_stun_auth` has already built a response. -/
  challenged : Bool
  messageIntegrity : Bool

namespace Responder

/-- The checks of `turnserver_accept_tcp_client_data_connection`; no result where the answer is postponed. -/
def accept (r : Responder) (tc : Option TcpConnection) (m : Request) (messageIntegrity canResume : Bool) :
    Option Acceptance :=
  match tc with
  | none => some ⟨none, 400, false, messageIntegrity⟩
  | some tc =>
    if tc.ready = true ∨ tc.hasClient = true then some ⟨none, 400, false, messageIntegrity⟩
    else
      match tc.owner with
      | none => some ⟨none, 500, false, messageIntegrity⟩
      | some ss =>
        if ss.toBeClosed = true ∨ ss.clientToBeClosed = true then some ⟨some ss, 404, false, messageIntegrity⟩
        else
          let auth := checkStunAuth r.server r.env ss m stunMethodConnectionBind canResume
          if auth.lookup.isSome then none
          else
            let errCode :=
              if auth.reply.errCode ≠ 0 then auth.reply.errCode else if r.env.registerCallback = true then 0 else 500
            some ⟨some auth.ss, errCode, auth.reply.respConstructed, messageIntegrity || auth.messageIntegrity⟩

/-- The response before the attributes that every one has. -/
def acceptanceResponse (r : Responder) (a : Acceptance) (m : Request) (d : Draft) : Draft :=
  match a.challenged, a.ss with
  | true, some ss => d.challenge r.server ss stunMethodConnectionBind m.tid
  | _, _ =>
    if a.errCode = 0 then d.success stunMethodConnectionBind m.tid
    else d.error stunMethodConnectionBind a.errCode none m.tid stunMagicCookie

def acceptanceTail (r : Responder) (a : Acceptance) (d : Draft) : Draft :=
  let d := d.addShort (fun b pos len => stunAttrAddBytes b pos len stunAttributeSoftware r.sur.software)
  let d := match a.messageIntegrity, a.ss with
    | true, some ss => d.addShort (stunAttrAddIntegrityStr (r.server.hmac ss.hmackey))
    | _, _ => d
  match r.sur.fingerprint with
  | none => d
  | some nsCrc32 => d.addShort (stunAttrAddFingerprintStr nsCrc32)

/-- The response that `turnserver_accept_tcp_client_data_connection` constructs, in a new buffer. -/
def turnserverAcceptTcpClientDataConnection (r : Responder) (connections : UInt32 → Option TcpConnection) (tcid : UInt32)
    (m : Request) (messageIntegrity canResume : Bool) : Option Draft :=
  if tcid = 0 then none
  else
    (r.accept (connections tcid) m messageIntegrity canResume).map (fun a =>
      r.acceptanceTail a (r.acceptanceResponse a m ⟨.ioaNetworkBufferAllocate, []⟩))

/-- The response to a ConnectionBind whose socket `handle_turn_connection_bind` has passed on, with the id that it read. -/
def handleConnection (r : Responder) (connections : UInt32 → Option TcpConnection) (m : Request)
    (messageIntegrity canResume : Bool) : Option Draft :=
  let s := connectionBindScanned m
  if s.scan.unknownAttrs ≠ [] ∨ s.scan.errCode ≠ 0 then none
  else r.turnserverAcceptTcpClientDataConnection connections s.id m messageIntegrity canResume

end Responder

/-- The session behind the check of the credentials, if the request passes it. -/
def Responder.authorized (r : Responder) (ss : SuperSession) (m : Request) (canResume : Bool) : Option SuperSession :=
  if needsAuthHere r.server ss m.method = true then
    let auth := checkStunAuth r.server r.env ss m m.method canResume
    if auth.passes = true then some auth.ss else none
  else some ss

/-- The session with which `handle_turn_command` comes to the handler of its method. -/
def Responder.entered (r : Responder) (node : Node) (m : Request) (canResume : Bool) : Option SuperSession :=
  if stunIsRequestStr m.buf m.len = false then none
  else if m.method = stunMethodBinding ∧ r.server.noStun = true then none
  else if m.method ≠ stunMethodBinding ∧ r.server.stunOnly = true then none
  else if m.method ≠ stunMethodBinding ∨ r.server.secureStun = true then
    let (ss, reply) := beforeAuth r.server r.env node.ss m m.method
    if reply.goesOn = true then r.authorized ss m canResume else none
  else some node.ss

namespace Responder

variable (r : Responder) {node : Node} {m : Request} {reply : Reply} {integrity canResume : Bool} {d d' : Draft}

theorem start_clean : r.start.Clean := ⟨rfl, rfl, by simp [start]⟩

/-- A response that is built where `constructed` says so, and only there. -/
theorem chosen_spec {built : Draft} (clean : d.Clean) (settled : built.Settled) (constructed : Bool) :
    (if constructed = true then built else d).Clean ∧
      (constructed = true → (if constructed = true then built else d).Settled) := by
  cases constructed with
  | false => exact ⟨clean, fun constructed => absurd constructed Bool.false_ne_true⟩
  | true => exact ⟨settled.clean, fun _ => settled⟩

theorem binding_spec (ss : SuperSession) (m : Request) (old : Option UInt32) (clean : d.Clean) :
    (r.binding ss m old d).2.Clean ∧
      ((r.binding ss m old d).1.respConstructed = true → (r.binding ss m old d).2.Settled) := by
  have built := bindingSuccess_settled (r.bindingContext ss) m old clean
  exact chosen_spec clean built (handleTurnBinding (r.bindingContext ss) m d.nbh d.nbh.data).1.respConstructed

theorem refresh_spec (node : Node) (m : Request) (outcome : Outcome) (clean : d.Clean) :
    (r.refresh node m outcome d).Clean ∧
      (outcome.reply.respConstructed = true → (r.refresh node m outcome d).Settled) := by
  have success := r.refreshSuccess_settled m (refreshLifetime r.server node.ss (r.refreshScanned node.ss m)) clean
  have challenge := clean.challenge r.server outcome.node.ss stunMethodRefresh m.tid
  unfold refresh
  split
  · rename_i none
    exact ⟨clean, fun constructed => absurd (constructed.symm.trans none) (by decide)⟩
  · split
    · exact ⟨success.clean, fun _ => success⟩
    · exact ⟨challenge.clean, fun _ => challenge⟩

theorem connectionBind_spec (node : Node) (m : Request) (clean : d.Clean) :
    (r.connectionBind node m d).2.Clean ∧
      ((r.connectionBind node m d).1.reply.respConstructed = true → (r.connectionBind node m d).2.Settled) := by
  unfold connectionBind
  dsimp only
  split
  · exact ⟨clean, fun constructed => absurd constructed Bool.false_ne_true⟩
  · have failed := clean.error stunMethodConnectionBind
      (if (r.bindSocket node.ss m).2.errCode = 0 then 437 else (r.bindSocket node.ss m).2.errCode)
      (r.bindSocket node.ss m).2.reason m.tid stunMagicCookie
    exact ⟨failed.clean, fun _ => failed⟩

theorem runHandler_spec (node : Node) (m : Request) (canResume : Bool) (clean : d.Clean) :
    (m.method = stunMethodAllocate ∧ HalfDual r.server r.env node.ss m → (r.runHandler node m canResume d).2.Spoiled) ∧
      (¬ (m.method = stunMethodAllocate ∧ HalfDual r.server r.env node.ss m) →
        (r.runHandler node m canResume d).2.Clean ∧
          ((r.runHandler node m canResume d).1.reply.respConstructed = true →
            (r.runHandler node m canResume d).2.Settled)) := by
  unfold runHandler
  by_cases allocate : m.method = stunMethodAllocate
  · obtain ⟨spoils, settles⟩ := r.allocate_spec node.ss m clean
    rw [if_pos allocate]
    exact ⟨fun half => spoils half.2, fun whole =>
      have settled := settles (fun half => whole ⟨allocate, half⟩)
      ⟨settled.clean, fun _ => settled⟩⟩
  · rw [if_neg allocate]
    refine ⟨fun half => absurd half.1 allocate, fun _ => ?_⟩
    split
    · exact ⟨clean, fun constructed => absurd constructed Bool.false_ne_true⟩
    · split
      · exact r.connectionBind_spec node m clean
      · split
        · exact r.refresh_spec node m _ clean
        · split
          · exact chosen_spec clean (clean.success stunMethodChannelBind m.tid) _
          · split
            · exact chosen_spec clean (clean.success stunMethodCreatePermission m.tid) _
            · split
              · exact r.binding_spec node.ss m none clean
              · exact ⟨clean, fun constructed => absurd constructed Bool.false_ne_true⟩

theorem addSoftware_settled (settled : d.Settled) : (r.addSoftware d).Settled :=
  settled.addWhole (appending_bytes stunAttributeSoftware r.sur.software)

/-- A property that the attributes at the end keep holds of the response if it holds of each one that
may stand before them. -/
theorem conclude_keeps (P : Draft → Prop) (grows : ∀ d call, Appending call → P d → P (Draft.addWhole d call))
    (built : reply.respConstructed = true → P d)
    (unknown : P (d.unknownAttributes m.method reply.unknownAttrs m.tid stunMagicCookie))
    (failed : ∀ errCode, P (d.error m.method errCode reply.reason m.tid stunMagicCookie))
    (concluded : r.conclude node m reply integrity d = some d') : P d' := by
  unfold conclude at concluded
  dsimp only at concluded
  split at concluded
  · split at concluded
    · rename_i constructed
      exact Option.some.inj concluded ▸ built constructed
    · cases concluded
  · split at concluded
    · cases concluded
    · have named : P (if reply.unknownAttrs ≠ [] then d.unknownAttributes m.method reply.unknownAttrs m.tid stunMagicCookie
          else if reply.respConstructed = true then d
          else d.error m.method (if reply.errCode = 0 then 400 else reply.errCode) reply.reason m.tid
            stunMagicCookie) := by
        split
        · exact unknown
        · split
          · rename_i constructed
            exact built constructed
          · exact failed _
      have software := grows _ _ (appending_bytes stunAttributeSoftware r.sur.software) named
      rw [← Option.some.inj concluded]
      split
      · exact grows _ _ (appending_integrity _) software
      · exact software

theorem conclude_settled (clean : d.Clean) (built : reply.respConstructed = true → d.Settled)
    (concluded : r.conclude node m reply integrity d = some d') : d'.Settled :=
  r.conclude_keeps Draft.Settled (fun _ _ appending settled => settled.addWhole appending) built
    (clean.unknownAttributes _ _ _ _) (fun _ => clean.error _ _ _ _ _) concluded

theorem conclude_spoiled (spoiled : d.Spoiled) (concluded : r.conclude node m reply integrity d = some d') :
    d'.Spoiled :=
  r.conclude_keeps Draft.Spoiled (fun _ call _ spoiled => spoiled.addWhole call) (fun _ => spoiled)
    (spoiled.unknownAttributes _ _ _ _) (fun _ => spoiled.error _ _ _ _ _) concluded

theorem handleAndConclude_spec (clean : d.Clean)
    (handled : r.handleAndConclude node m canResume integrity d = some d') :
    d'.WellFormed ↔ ¬ (m.method = stunMethodAllocate ∧ HalfDual r.server r.env node.ss m) := by
  obtain ⟨spoils, settles⟩ := r.runHandler_spec node m canResume clean
  unfold handleAndConclude at handled
  dsimp only at handled
  by_cases half : m.method = stunMethodAllocate ∧ HalfDual r.server r.env node.ss m
  · have spoiled := spoils half
    refine ⟨fun wellFormed => ?_, fun whole => absurd half whole⟩
    split at handled
    · exact absurd wellFormed (Option.some.inj handled ▸ (spoiled.addWhole _).not_wellFormed)
    · exact absurd wellFormed (r.conclude_spoiled spoiled handled).not_wellFormed
  · obtain ⟨stays, built⟩ := settles half
    refine ⟨fun _ => half, fun _ => ?_⟩
    split at handled
    · rename_i elsewhere
      exact Option.some.inj handled ▸ (r.addSoftware_settled (built elsewhere.2.1)).wellFormed
    · exact (r.conclude_settled stays built handled).wellFormed

theorem authAndRun_spec (clean : d.Clean) (handled : r.authAndRun node m canResume d = some d') :
    d'.WellFormed ↔ ¬ (m.method = stunMethodAllocate ∧
      ∃ ss, r.authorized node.ss m canResume = some ss ∧ HalfDual r.server r.env ss m) := by
  unfold authAndRun at handled
  unfold authorized
  split at handled
  · rename_i due
    rw [if_pos due]
    dsimp only at handled ⊢
    split at handled
    · rename_i passes
      rw [if_pos passes, r.handleAndConclude_spec clean handled]
      simp
    · rename_i refused
      rw [if_neg refused]
      have challenged := clean.challenge r.server (checkStunAuth r.server r.env node.ss m m.method canResume).ss m.method m.tid
      obtain ⟨stays, built⟩ := chosen_spec clean challenged
        (checkStunAuth r.server r.env node.ss m m.method canResume).reply.respConstructed
      have settled : d'.Settled := by
        refine r.conclude_settled stays ?_ handled
        exact built
      exact ⟨fun _ => by simp, fun _ => settled.wellFormed⟩
  · rename_i free
    rw [if_neg free, r.handleAndConclude_spec clean handled]
    simp

/-- `handle_turn_command` spoils exactly the responses to Allocates that are half answered. -/
theorem handleTurnCommand_spec (handled : r.handleTurnCommand node m canResume = some d) :
    d.WellFormed ↔ ¬ (m.method = stunMethodAllocate ∧
      ∃ ss, r.entered node m canResume = some ss ∧ HalfDual r.server r.env ss m) := by
  have clean := r.start_clean
  unfold handleTurnCommand at handled
  unfold entered
  split at handled
  · cases handled
  · rename_i request
    rw [if_neg request]
    split at handled
    · cases handled
    · rename_i stun
      rw [if_neg stun]
      split at handled
      · cases handled
      · rename_i turn
        rw [if_neg turn]
        split at handled
        · rename_i checked
          rw [if_pos checked]
          dsimp only at handled ⊢
          split at handled
          · rename_i goesOn
            rw [if_pos goesOn]
            exact r.authAndRun_spec clean handled
          · rename_i stops
            rw [if_neg stops]
            obtain ⟨stays, redirected⟩ := chosen_spec clean (r.alternateServer_settled clean m.method m.tid)
              (beforeAuth r.server r.env node.ss m m.method).2.respConstructed
            have settled := r.conclude_settled stays redirected handled
            exact ⟨fun _ => by simp, fun _ => settled.wellFormed⟩
        · rename_i unchecked
          rw [if_neg unchecked, r.handleAndConclude_spec clean handled]
          simp

end Responder

/-- A message on its way to a response. -/
inductive Occasion where
  | command (node : Node) (m : Request) (canResume : Bool)
  | oldCommand (ss : SuperSession) (m : Request) (cookie : UInt32)
  | mobility (node : Node) (m : Request) (canResume : Bool)
  | connection (connections : UInt32 → Option TcpConnection) (m : Request) (messageIntegrity canResume : Bool)

/-- The response that is constructed, if there is one. -/
def Responder.response (r : Responder) : Occasion → Option Draft
  | .command node m canResume => r.handleTurnCommand node m canResume
  | .oldCommand ss m cookie => r.handleOldStunCommand ss m cookie
  | .mobility node m canResume => r.handleMobility node m canResume
  | .connection connections m messageIntegrity canResume => r.handleConnection connections m messageIntegrity canResume

namespace Responder

variable (r : Responder) {connections : UInt32 → Option TcpConnection} {m : Request} {messageIntegrity canResume : Bool}
  (a : Acceptance) {d : Draft}

/-- Whatever a classic request comes to, the name of the server goes astray. -/
theorem handleOldStunCommand_spoiled {ss : SuperSession} {cookie : UInt32}
    (handled : r.handleOldStunCommand ss m cookie = some d) : d.Spoiled := by
  obtain ⟨clean, built⟩ := r.binding_spec ss m (some cookie) r.start_clean
  unfold handleOldStunCommand at handled
  split at handled
  · cases handled
  · dsimp only at handled
    split at handled
    · rename_i elsewhere
      exact Option.some.inj handled ▸ (built elsewhere.1).addShort _
    · rw [← Option.some.inj handled]
      split
      · exact (clean.unknownAttributes _ _ _ _).addShort _
      · split
        · rename_i constructed
          exact (built constructed).addShort _
        · exact (clean.error _ _ _ _ _).addShort _

theorem mobilityTail_spoiled (hmackey : List UInt8) (integrity : Bool) (settled : d.Settled) (len : Nat) :
    (r.mobilityTail hmackey integrity d len).Spoiled := by
  have software := settled.addShort (fun b pos len => stunAttrAddBytes b pos len stunAttributeSoftware r.sur.software)
  unfold mobilityTail
  cases integrity with
  | false => exact software.fingerprint r.sur.fingerprint len
  | true =>
    have signed := software.add len (stunAttrAddIntegrityStr (r.server.hmac hmackey))
    exact (signed.setSize _).fingerprint r.sur.fingerprint _

theorem handleMobility_spoiled {node : Node} (handled : r.handleMobility node m canResume = some d) : d.Spoiled := by
  unfold handleMobility at handled
  dsimp only at handled
  split at handled
  · rw [← Option.some.inj handled]
    have lifetime := ((r.start_clean.initSuccess stunMethodRefresh m.tid).addStr stunAttributeLifetime (lifetimeValue
      (refreshLifetime r.server (handleTurnRefresh r.server r.env node m canResume).node.ss
        (r.refreshScanned node.ss m)))).resize
    have ticket := (lifetime.addStr stunAttributeMobilityTicket r.sur.mobileId).setSize
    exact r.mobilityTail_spoiled _ r.server.longTerm ticket _
  · cases handled

theorem acceptanceResponse_settled (m : Request) (clean : d.Clean) : (r.acceptanceResponse a m d).Settled := by
  unfold acceptanceResponse
  split
  · exact clean.challenge _ _ _ _
  · split
    · exact clean.success _ _
    · exact clean.error _ _ _ _ _

theorem acceptanceTail_spoiled (settled : d.Settled) : (r.acceptanceTail a d).Spoiled := by
  have software := settled.addShort (fun b pos len => stunAttrAddBytes b pos len stunAttributeSoftware r.sur.software)
  unfold acceptanceTail
  dsimp only
  split <;> split
  · exact software.addShort _
  · exact software
  · exact (software.addShort _).addShort _
  · exact software.addShort _

theorem turnserverAcceptTcpClientDataConnection_spoiled {tcid : UInt32}
    (handled : r.turnserverAcceptTcpClientDataConnection connections tcid m messageIntegrity canResume = some d) :
    d.Spoiled := by
  unfold turnserverAcceptTcpClientDataConnection at handled
  split at handled
  · cases handled
  · obtain ⟨a, _, rfl⟩ := Option.map_eq_some_iff.mp handled
    have empty : (Draft.mk .ioaNetworkBufferAllocate []).Clean := ⟨rfl, rfl, by simp⟩
    exact r.acceptanceTail_spoiled a (r.acceptanceResponse_settled a m empty)

theorem handleConnection_spoiled (handled : r.handleConnection connections m messageIntegrity canResume = some d) :
    d.Spoiled := by
  unfold handleConnection at handled
  dsimp only at handled
  split at handled
  · cases handled
  · exact r.turnserverAcceptTcpClientDataConnection_spoiled handled

/-- The response goes to the buffer of `handle_turn_command` and is not that to an Allocate of both
families of which exactly one gets a relay socket. -/
def Plain (r : Responder) : Occasion → Prop
  | .command node m canResume => ¬ (m.method = stunMethodAllocate ∧
      ∃ ss, r.entered node m canResume = some ss ∧ HalfDual r.server r.env ss m)
  | .oldCommand _ _ _ => False
  | .mobility _ _ _ => False
  | .connection _ _ _ _ => False

/-- A response is a well-formed message, 14 bytes into its buffer, with every attribute added at
the end of the message, exactly if it is built by `handle_turn_command` itself and reports no
address error. -/
theorem response_wellFormed_iff (r : Responder) {h : Occasion} {d : Draft} (constructed : r.response h = some d) :
    d.WellFormed ↔ r.Plain h := by
  cases h with
  | command node m canResume => exact r.handleTurnCommand_spec constructed
  | oldCommand ss m cookie => exact iff_of_false (r.handleOldStunCommand_spoiled constructed).not_wellFormed id
  | mobility node m canResume => exact iff_of_false (r.handleMobility_spoiled constructed).not_wellFormed id
  | connection connections m messageIntegrity canResume =>
    exact iff_of_false (r.handleConnection_spoiled constructed).not_wellFormed id

end Responder

/-- The name of the software, Coturn-4.5.1.3 'dan Eider'. -/
def turnSoftware : List UInt8 :=
  [67, 111, 116, 117, 114, 110, 45, 52, 46, 53, 46, 49, 46, 51, 32, 39, 100, 97, 110, 32, 69, 105, 100, 101, 114, 39]

/-- A server that asks for no credentials. -/
def exampleResponder : Responder where
  server := { exampleServer with longTerm := false }
  sur := { exampleSurroundings with software := turnSoftware }
  socket := Listener.createIoaSocketFromFd false exampleReflexive (.inet 0x0100000A 3478)
  alternate := .any
  tcp := ⟨0, none, [], false, false⟩
  header := exampleClientHeader

/-- The answer to a Binding request. -/
theorem response_wellFormed_iff_binding :
    ∃ d, exampleResponder.response (.command exampleNode (.ofAttributes stunMethodBinding []) true) = some d ∧
      d.WellFormed := by
  have some' : (exampleResponder.response (.command exampleNode (.ofAttributes stunMethodBinding []) true)).isSome = true := by
    decide +kernel
  obtain ⟨d, constructed⟩ := Option.isSome_iff_exists.mp some'
  refine ⟨d, constructed, (exampleResponder.response_wellFormed_iff constructed).mpr ?_⟩
  rintro ⟨allocate, _⟩
  exact absurd allocate (by decide)

/-- The data connection 1 of the server 1, for which a session waits, and its ConnectionBind. -/
def exampleConnection : Occasion :=
  .connection (fun tcid => if tcid = 0x01000001 then some ⟨false, false, some exampleNode.ss⟩ else none)
    (.ofAttributes stunMethodConnectionBind [⟨stunAttributeConnectionId, [1, 0, 0, 1]⟩]) false false

/-- The success is complete with 20 bytes, but SOFTWARE is added with a length of 6: it starts one byte
before the message, its length and text lie on the length of the message, which then reads 6723 in a
buffer of 32 bytes. -/
theorem accepted_connection_spoiled :
    ∃ d, exampleResponder.response exampleConnection = some d ∧ d.calls = [(6, 20)] ∧ d.nbh.len = 32 ∧
      (net16 (d.nbh.view d.nbh.data) 2).toNat = 6723 ∧ ¬ d.WellFormed := by
  have noted : (exampleResponder.response exampleConnection).map (fun d =>
      (d.calls, d.nbh.len, (net16 (d.nbh.view d.nbh.data) 2).toNat)) = some ([(6, 20)], 32, 6723) := by
    decide +kernel
  obtain ⟨d, constructed, values⟩ := Option.map_eq_some_iff.mp noted
  simp only [Prod.mk.injEq] at values
  obtain ⟨calls, len, announced⟩ := values
  refine ⟨d, constructed, calls, len, announced, fun wellFormed => ?_⟩
  have equal := wellFormed.calls (6, 20) (by rw [calls]; exact .head _)
  exact absurd equal (by decide)

end Server
end TurnCluster
