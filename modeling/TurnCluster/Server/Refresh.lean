import TurnCluster.Server.Auth

namespace TurnCluster
namespace Server

/-- A session, and the other sessions of the server that mobility tickets name. -/
structure Node where
  ss : SuperSession
  mobile : Nat → Option SuperSession

/-- What the loop of `handle_turn_refresh` collects. -/
structure RefreshScan where
  scan : Scan
  lifetime : Nat
  toDelete : Bool
  mid : Nat
  smid : List UInt8
  af4 : Bool
  af6 : Bool
  deriving DecidableEq

namespace RefreshScan

def start : RefreshScan := ⟨.empty, 0, false, 0, [], false, false⟩

def running (s : RefreshScan) : Bool := s.scan.running

def fail (s : RefreshScan) (errCode : Nat) (reason : String) : RefreshScan :=
  { s with scan := s.scan.fail errCode reason }

/-- `smid` keeps what an earlier, longer ticket left behind the new one. -/
def onMobilityTicket (server : TurnServer) (ss : SuperSession) (s : RefreshScan) (a : Attribute) : RefreshScan :=
  if server.mobility = false then s.fail 405 "Mobility forbidden"
  else if 0 < a.value.length ∧ a.value.length < 33 then
    let smid := a.value ++ s.smid.drop a.value.length
    let mid := server.stringToMobileId (cString smid)
    let s := { s with smid := smid, mid := mid }
    if ss.alloc.isValid = true ∧ mid ≠ ss.oldMobileId then
      s.fail 400 "Mobility ticket cannot be used for a stable, already established allocation"
    else s
  else s.fail 400 "Mobility ticket has wrong length"

def onLifetime (s : RefreshScan) (a : Attribute) : RefreshScan :=
  if a.value.length ≠ 4 then s.fail 400 "Wrong Lifetime field format"
  else { s with lifetime := a.lifetime, toDelete := s.toDelete || a.lifetime == 0 }

def onAddressFamily (af4c af6c : Bool) (s : RefreshScan) (a : Attribute) : RefreshScan :=
  match a.requestedAddressFamily, af4c, af6c with
  | some .inet, true, _ => { s with af4 := true }
  | some .inet6, _, true => { s with af6 := true }
  | _, _, _ => s.fail 443 "Peer Address Family Mismatch (1)"

def body (server : TurnServer) (ss : SuperSession) (af4c af6c : Bool) (s : RefreshScan) (a : Attribute) :
    RefreshScan :=
  if isSkipped a.attrType then s
  else if a.attrType = stunAttributeMobilityTicket then s.onMobilityTicket server ss a
  else if a.attrType = stunAttributeLifetime then s.onLifetime a
  else if a.attrType = stunAttributeAdditionalAddressFamily ∨ a.attrType = stunAttributeRequestedAddressFamily then
    s.onAddressFamily af4c af6c a
  else { s with scan := s.scan.other a.attrType }

end RefreshScan

/-- Some relay socket of a family is open. -/
def hasOpenRelay (ss : SuperSession) (family : Family) : Bool :=
  [ss.relay4, ss.relay6].any (fun r =>
    match r.s with
    | none => false
    | some s => !s.toBeClosed && s.localAddr.family == family)

def refreshRelayConnection (env : Env) (ss : SuperSession) (lifetime : Nat) (family : Family) : Option SuperSession :=
  if ss.alloc.isValid = true then
    let lifetime := if lifetime < 1 then 1 else lifetime
    some (setAllocationLifetimeEv ss (env.ctime + lifetime) (env.ctime + lifetime) family)
  else none

/-- Both families, the first that fails ends it. -/
def refreshFamilies (env : Env) (ss : SuperSession) (lifetime : Nat) (af4 af6 : Bool) : SuperSession × Bool :=
  match af4, refreshRelayConnection env ss lifetime .inet with
  | true, none => (ss, false)
  | false, _ => refreshSix env ss lifetime af6
  | true, some ss => refreshSix env ss lifetime af6
where
  refreshSix (env : Env) (ss : SuperSession) (lifetime : Nat) (af6 : Bool) : SuperSession × Bool :=
    match af6, refreshRelayConnection env ss lifetime .inet6 with
    | true, none => (ss, false)
    | false, _ => (ss, true)
    | true, some ss => (ss, true)

def refreshLifetime (server : TurnServer) (ss : SuperSession) (s : RefreshScan) : Nat :=
  if s.toDelete = true then 0
  else stunAdjustAllocateLifetime s.lifetime server.maxAllocateLifetime ss.maxSessionTimeAuth

def refreshError (errCode : Nat) (reason : Option String) : Reply := { Reply.empty with errCode := errCode, reason := reason }

/-- A refresh of the session's own allocation. -/
def refreshOwn (server : TurnServer) (env : Env) (ss : SuperSession) (s : RefreshScan) (af4c af6c : Bool) :
    SuperSession × Reply :=
  let all := !s.af4 && !s.af6
  let (ss, done) := refreshFamilies env ss (refreshLifetime server ss s) (bif all then af4c else s.af4)
    (bif all then af6c else s.af6)
  if done = true then (ss, { Reply.empty with respConstructed := true })
  else (ss, refreshError 437 (some "Cannot refresh relay connection (internal error)"))

def copyAuthParameters (server : TurnServer) (env : Env) (origSs ss : SuperSession) : SuperSession :=
  let ss := { decQuota ss with
    nonce := origSs.nonce, nonceExpirationTime := origSs.nonceExpirationTime, realm := origSs.realm,
    username := origSs.username, hmackeySet := origSs.hmackeySet, hmackey := origSs.hmackey, oauth := origSs.oauth,
    origin := origSs.origin, originSet := origSs.originSet, pwd := origSs.pwd,
    maxSessionTimeAuth := origSs.maxSessionTimeAuth }
  (incQuota server env ss ss.username).2

/-- What a handler that may postpone its answer returns. -/
structure Outcome where
  node : Node
  reply : Reply
  lookup : Option Lookup
  /-- `check_stun_auth` was asked and let the request pass. -/
  passed : Bool

def finished (node : Node) (reply : Reply) : Outcome := ⟨node, reply, none, false⟩

/-- The client's socket moves to the session that the ticket names. -/
def transferSession (server : TurnServer) (env : Env) (node : Node) (origSs : SuperSession) (mid : Nat) : Outcome :=
  let client := node.ss.client
  let ss := { node.ss with toBeClosed := true, client := client.map ({ · with toBeClosed := true }) }
  if env.detachSocket = false then
    finished { ss := ss, mobile := Function.update node.mobile mid (some origSs) } (refreshError 500 none)
  else
    let origSs := { origSs with client := client }
    if env.attachSocket = false then
      finished { ss := ss, mobile := Function.update node.mobile mid (some origSs) } (refreshError 500 none)
    else
      let origSs := if ss.hmackeySet = true then copyAuthParameters server env ss origSs else origSs
      let ss := { decQuota ss with mobileId := 0 }
      let origSs := { (incQuota server env origSs origSs.username).2 with
        mobileId := env.randomMobileId, oldMobileId := mid }
      finished { ss := ss, mobile := Function.update (Function.update node.mobile mid none) env.randomMobileId (some origSs) }
        { Reply.empty with noResponse := true }

/-- The session with the realm, and if it has no key the credentials, of the one that the ticket names. -/
def borrowCredentials (server : TurnServer) (env : Env) (ss origSs : SuperSession) : SuperSession :=
  have ss := { ss with realm := getRealmOptionsByName server env origSs.realm.name }
  if ss.hmackeySet = true then ss else copyAuthParameters server env origSs ss

/-- What the check of the borrowed credentials leads to. -/
def refreshChosen (server : TurnServer) (env : Env) (node : Node) (s : RefreshScan) (af4c af6c : Bool)
    (origSs : SuperSession) (auth : AuthResult) : Outcome :=
  let node := { node with ss := auth.ss }
  match auth.lookup with
  | some lookup => ⟨node, { auth.reply with noResponse := true }, some lookup, false⟩
  | none =>
    if auth.reply.errCode ≠ 0 then finished node auth.reply
    else
      let (origSs, done) := refreshFamilies env origSs (refreshLifetime server node.ss s) af4c af6c
      if done = true then { transferSession server env node origSs s.mid with passed := true }
      else
        ⟨{ node with mobile := Function.update node.mobile s.mid (some origSs) },
          refreshError 437 (some "Cannot refresh relay connection (internal error)"), none, true⟩

/-- The mobility branch, with the session that the ticket names. -/
def refreshMobile (server : TurnServer) (env : Env) (node : Node) (m : Request) (s : RefreshScan) (af4c af6c : Bool)
    (origSs : SuperSession) (canResume : Bool) : Outcome :=
  refreshChosen server env node s af4c af6c origSs
    (checkStunAuth server env (borrowCredentials server env node.ss origSs) m stunMethodRefresh canResume)

/-- A session without an allocation may take one over with a mobility ticket. -/
def refreshTicket (server : TurnServer) (env : Env) (node : Node) (m : Request) (s : RefreshScan) (af4c af6c : Bool)
    (canResume : Bool) : Outcome :=
  if s.mid = 0 ∨ cString s.smid = [] then finished node (refreshError 437 (some "Invalid allocation"))
  else if s.mid / 2 ^ 56 % 256 ≠ server.id then
    let closing := { node with ss := { node.ss with toBeClosed := true } }
    if server.sendSocketToRelay = false then
      finished closing (refreshError 500 (some "Server send socket procedure is not set"))
    else if env.detachSocket = false then finished node (refreshError 500 (some "Cannot create new socket"))
    else if env.sendSocket = false then finished closing (refreshError 400 (some "Wrong mobile ticket"))
    else finished closing { Reply.empty with noResponse := true }
  else if node.ss.mobileId = s.mid then
    if node.ss.toBeClosed = true ∨ node.ss.clientToBeClosed = true then
      finished node (refreshError 404 (some "Allocation not found"))
    else finished node (refreshError 437 (some "Invalid allocation"))
  else
    match node.mobile s.mid with
    | none => finished node (refreshError 404 (some "Allocation not found"))
    | some origSs =>
      if origSs.toBeClosed = true ∨ origSs.clientToBeClosed = true then
        finished node (refreshError 404 (some "Allocation not found"))
      else if origSs.isMobile = false then
        finished node (refreshError 500 (some "Software error: invalid mobile allocation"))
      -- sockets belong to one session, so that those of two sessions are the same when there are none
      else if origSs.client = none ∧ node.ss.client = none then
        finished node (refreshError 500 (some "Software error: invalid mobile client socket (orig)"))
      else if node.ss.client = none then
        finished node (refreshError 500 (some "Software error: invalid mobile client socket (new)"))
      else refreshMobile server env node m s af4c af6c origSs canResume

/-- The checks between the loop and the refresh. -/
def refreshChecked (server : TurnServer) (env : Env) (node : Node) (m : Request) (s : RefreshScan) (af4c af6c : Bool)
    (canResume : Bool) : Outcome :=
  if s.scan.unknownAttrs ≠ [] then finished node { s.scan.reply with errCode := 420 }
  else if s.scan.errCode ≠ 0 then finished node s.scan.reply
  else if node.ss.alloc.isValid = false then refreshTicket server env node m s af4c af6c canResume
  else
    let (ss, reply) := refreshOwn server env node.ss s af4c af6c
    finished { node with ss := ss } reply

def handleTurnRefresh (server : TurnServer) (env : Env) (node : Node) (m : Request) (canResume : Bool) : Outcome :=
  let af4c := hasOpenRelay node.ss .inet
  let af6c := hasOpenRelay node.ss .inet6
  if node.ss.alloc.isValid = false ∧ server.mobility = false then
    finished node (refreshError 437 (some "Invalid allocation"))
  else
    let s := scanAttrs RefreshScan.running (RefreshScan.body server node.ss af4c af6c) .start m.attrs
    refreshChecked server env node m s af4c af6c canResume

theorem refreshTicket_passed {server : TurnServer} {env : Env} {node : Node} {m : Request} {s : RefreshScan}
    {af4c af6c canResume : Bool} (passed : (refreshTicket server env node m s af4c af6c canResume).passed = true) :
    ∃ origSs, node.mobile s.mid = some origSs ∧ ∀ m', refreshTicket server env node m' s af4c af6c canResume =
      refreshMobile server env node m' s af4c af6c origSs canResume := by
  unfold refreshTicket at passed ⊢
  dsimp only at passed ⊢
  split at passed
  · cases passed
  · rename_i shown
    split at passed
    · split at passed
      · cases passed
      · split at passed
        · cases passed
        · split at passed <;> cases passed
    · rename_i here
      split at passed
      · split at passed <;> cases passed
      · rename_i other
        split at passed
        · cases passed
        · rename_i origSs found
          split at passed
          · cases passed
          · rename_i alive
            split at passed
            · cases passed
            · rename_i mobile
              split at passed
              · cases passed
              · rename_i apart
                split at passed
                · cases passed
                · rename_i present
                  refine ⟨origSs, found, fun m' => ?_⟩
                  rw [if_neg shown, if_neg here, if_neg other, if_neg alive, if_neg mobile, if_neg apart, if_neg present]

end Server
end TurnCluster
