import TurnCluster.Server.Allocate
import TurnCluster.Server.Permissions
import TurnCluster.Server.Refresh

namespace TurnCluster
namespace Server

/-- The canonical form of an ORIGIN, as it is kept in the session. -/
def corigin (env : Env) (a : Attribute) : List UInt8 :=
  boundedString stunMaxOriginSize (env.canonicOrigin (cString a.value))

/-- Origins of a request, the empty ones left out. -/
def origins (m : Request) : List Attribute :=
  m.attrs.filter (fun a => a.attrType == stunAttributeOrigin && !a.value.isEmpty)

/-- The check of a later request against the origin of the first Allocate. -/
def originMismatch (server : TurnServer) (env : Env) (ss : SuperSession) (m : Request) : Option String :=
  if server.checkOrigin = false then none
  else if ss.origin ≠ [] then
    if (origins m).any (fun a => corigin env a == ss.origin) then none
    else some "The origin attribute does not match the initial session origin value"
  else if (origins m).isEmpty then none
  else some "The origin attribute is empty, does not match the initial session origin value"

/-- The loop over the origins of the first Allocate, which ends at one that has a realm. -/
def takeOrigin (server : TurnServer) (env : Env) (ss : SuperSession) : List Attribute → SuperSession
  | [] => ss
  | a :: rest =>
    let origin := corigin env a
    let (known, realm) := getRealmOptionsByOrigin server env origin
    let ss := { ss with origin := origin, realm := realm }
    if known = true then ss else takeOrigin server env ss rest

/-- An Allocate may be sent to an alternate server. -/
def redirectReply (env : Env) (method : UInt16) : Reply :=
  if method = stunMethodAllocate ∧ env.redirect = true then
    { Reply.empty with errCode := 300, respConstructed := true }
  else .empty

/-- What comes before the credentials: redirection and origins. -/
def beforeAuth (server : TurnServer) (env : Env) (ss : SuperSession) (m : Request) (method : UInt16) :
    SuperSession × Reply :=
  let reply := redirectReply env method
  if ss.originSet = true then
    match originMismatch server env ss m with
    | some reason => (ss, { reply with errCode := 441, reason := some reason })
    | none => (ss, reply)
  else if reply.errCode = 0 ∧ method = stunMethodAllocate then
    ({ takeOrigin server env ss (origins m) with originSet := true }, reply)
  else (ss, reply)

/-- The requests whose handlers change the allocation. -/
def isGuarded (method : UInt16) : Bool :=
  method == stunMethodAllocate || method == stunMethodRefresh || method == stunMethodChannelBind ||
    method == stunMethodCreatePermission

/-- The switch over the methods. Binding, and Connect and ConnectionBind of a UDP
client, leave the session as it is; their responses are not modelled. -/
def runHandler (server : TurnServer) (env : Env) (node : Node) (m : Request) (method : UInt16) (canResume : Bool) :
    Outcome :=
  if method = stunMethodAllocate then
    let (ss, reply) := handleTurnAllocate server env node.ss m
    finished { node with ss := ss } reply
  else if method = stunMethodRefresh then handleTurnRefresh server env node m canResume
  else if method = stunMethodChannelBind then
    let (ss, reply) := handleTurnChannelBind server env node.ss m
    finished { node with ss := ss } reply
  else if method = stunMethodCreatePermission then
    let (ss, reply) := handleTurnCreatePermission server env node.ss m
    finished { node with ss := ss } reply
  else finished node .empty

/-- Credentials are checked before the switch, unless a ticket brings them along. -/
def needsAuthHere (server : TurnServer) (ss : SuperSession) (method : UInt16) : Bool :=
  method != stunMethodConnectionBind &&
    (!server.mobility || method != stunMethodRefresh || ss.alloc.isValid)

/-- What a command comes to, and whether its handler was entered. -/
structure CommandResult where
  outcome : Outcome
  entered : Bool

def ignored (node : Node) : CommandResult := ⟨finished node { Reply.empty with noResponse := true }, false⟩

def AuthResult.passes (auth : AuthResult) : Bool := auth.reply.goesOn && auth.lookup.isNone

/-- What follows the check of the credentials. -/
def runChecked (server : TurnServer) (env : Env) (node : Node) (m : Request) (method : UInt16) (canResume : Bool)
    (auth : AuthResult) : CommandResult :=
  let node := { node with ss := auth.ss }
  if auth.passes = true then ⟨{ runHandler server env node m method canResume with passed := true }, true⟩
  else ⟨⟨node, { auth.reply with noResponse := auth.lookup.isSome }, auth.lookup, false⟩, false⟩

/-- The credentials, if they are due, and then the handler. -/
def authAndRun (server : TurnServer) (env : Env) (node : Node) (m : Request) (method : UInt16) (canResume : Bool) :
    CommandResult :=
  if needsAuthHere server node.ss method = true then
    runChecked server env node m method canResume (checkStunAuth server env node.ss m method canResume)
  else ⟨runHandler server env node m method canResume, true⟩

/-- The last part of `handle_turn_command`, which decides on the response. -/
def conclude (node : Node) (r : Reply) : Reply :=
  if node.ss.closing = true then r
  else
    let r := if r.unknownAttrs ≠ [] then { r with errCode := 420, respConstructed := true } else r
    if r.noResponse = true then { r with respConstructed := false }
    else if r.respConstructed = true then r
    else { r with errCode := if r.errCode = 0 then 400 else r.errCode, respConstructed := true }

def CommandResult.concluded (r : CommandResult) : CommandResult :=
  { r with outcome := { r.outcome with reply := conclude r.outcome.node r.outcome.reply } }

/-- `handle_turn_command` up to the response. -/
def processRequest (server : TurnServer) (env : Env) (node : Node) (m : Request) (canResume : Bool) : CommandResult :=
  if m.method = stunMethodBinding ∧ server.noStun = true then ignored node
  else if m.method ≠ stunMethodBinding ∧ server.stunOnly = true then ignored node
  else if m.method ≠ stunMethodBinding ∨ server.secureStun = true then
    let (ss, reply) := beforeAuth server env node.ss m m.method
    let node := { node with ss := ss }
    if reply.goesOn = true then authAndRun server env node m m.method canResume
    else ⟨finished node reply, false⟩
  else ⟨runHandler server env node m m.method canResume, true⟩

/-- `handle_turn_command` for the requests of a session. -/
def handleTurnCommand (server : TurnServer) (env : Env) (node : Node) (m : Request) (canResume : Bool) :
    CommandResult :=
  if stunIsRequestStr m.buf m.len = true then (processRequest server env node m canResume).concluded
  else (ignored node).concluded

/-- `read_client_connection` as far as it hands a request on. -/
def readClientConnection (server : TurnServer) (env : Env) (node : Node) (m : Request) (canResume : Bool) :
    CommandResult :=
  if node.ss.closing = true then ignored node
  else handleTurnCommand server env node m canResume

/-- What the user database says about a user that it knows. -/
structure UserKey where
  hmackey : List UInt8
  pwd : List UInt8
  oauth : Bool
  maxSessionTime : Nat
  deriving DecidableEq, Repr

/-- The session takes the key over, and the realm that it was looked up in. -/
def acceptUserKey (server : TurnServer) (env : Env) (ss : SuperSession) (key : UserKey) (realm : List UInt8) :
    SuperSession :=
  let ss := { ss with
    hmackey := key.hmackey, hmackeySet := true, oauth := key.oauth, maxSessionTimeAuth := key.maxSessionTime
    pwd := key.pwd }
  if realm ≠ [] ∧ realm ≠ ss.realm.name then
    let ss := { decQuota ss with realm := getRealmOptionsByName server env realm }
    (incQuota server env ss ss.username).2
  else ss

/-- `resume_processing_after_username_check`: the request that waited is read once more, if the client still has a socket. -/
def resumeProcessingAfterUsernameCheck (server : TurnServer) (env : Env) (node : Node) (lookup : Lookup)
    (answer : Option UserKey) : CommandResult :=
  if node.ss.client = none then ignored node
  else
    let ss := match answer with
      | some key => acceptUserKey server env node.ss key lookup.realm
      | none => node.ss
    readClientConnection server env { node with ss := ss } lookup.request false

/-- An attribute in its message, padded to a multiple of four bytes. -/
def encodeAttribute (a : Attribute) : List UInt8 :=
  bytes16 (nswap16 a.attrType) ++ bytes16 (nswap16 (UInt16.ofNat a.value.length)) ++ a.value ++
    List.replicate (roundUp4 a.value.length - a.value.length) 0

/-- The request of a method with the given attributes. -/
def Request.ofAttributes (method : UInt16) (attrs : List Attribute) : Request :=
  let body := attrs.flatMap encodeAttribute
  let bytes := bytes16 (nswap16 (stunMakeType method)) ++ bytes16 (nswap16 (UInt16.ofNat body.length)) ++
    bytes32 (nswap32 stunMagicCookie) ++ List.replicate stunTidSize 0 ++ body
  ⟨.ofList bytes, bytes.length⟩

/-- A server for the realm `r` whose HMAC is the key itself, filled up to its size. -/
def exampleServer : TurnServer where
  id := 1
  longTerm := true
  noStun := false
  stunOnly := false
  secureStun := false
  oauth := false
  oauthServerName := []
  mobility := false
  checkOrigin := false
  noTcpRelay := false
  noUdpRelay := false
  dontFragment := false
  externalIpSet := false
  keepAddressFamily := false
  defaultRelays := false
  sendSocketToRelay := false
  maxAllocateLifetime := 3600
  channelLifetime := 600
  permissionLifetime := 300
  staleNonce := 0
  mapping := []
  defaultRealm := ⟨[114], 0⟩
  hmac key _ := (key ++ List.replicate sha1SizeBytes 0).take sha1SizeBytes
  stringToMobileId _ := 0

/-- Everybody is granted quota, peers and relay sockets. -/
def exampleEnv : Env where
  ctime := 100
  randomNonce := [110]
  randomMobileId := 1
  quota _ _ _ := true
  maxBps _ := 0
  originToRealm _ := none
  canonicOrigin origin := origin
  goodPeerAddr _ _ := true
  redirect := false
  allocateBps bps := bps
  reservedSocket _ := none
  createRelayIoaSockets _ _ _ := .opened ⟨.inet 0x0100000A 49152, false, false⟩ false 0
  registerCallback := true
  detachSocket := false
  attachSocket := false
  sendSocket := false

def exampleNode : Node := ⟨createNewSs exampleServer 1 ⟨.inet, false, false⟩, fun _ => none⟩

/-- The example's session with a key, an allocation and a relay socket. -/
def exampleAllocated : Node :=
  { exampleNode with ss := { exampleNode.ss with
      username := [118], hmackey := [1], hmackeySet := true, originSet := true
      alloc := { initAllocation with isValid := true }
      relay4 := { RelayEndpointSession.zero with s := some ⟨.inet 0x0100000A 49152, false, false⟩ } } }

/-- Name, realm and nonce of a request, and a MESSAGE-INTEGRITY made with a key. -/
def exampleCredentials (username : List UInt8) : List Attribute :=
  [⟨stunAttributeUsername, username⟩, ⟨stunAttributeRealm, [114]⟩, ⟨stunAttributeNonce, [110]⟩]

def exampleIntegrity (key : List UInt8) : Attribute := ⟨stunAttributeMessageIntegrity, exampleServer.hmac key []⟩

end Server
end TurnCluster
