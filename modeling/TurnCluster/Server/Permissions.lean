import TurnCluster.Server.Lifetimes

namespace TurnCluster
namespace Server

/-- What the loop of `handle_turn_channel_bind` collects. -/
structure ChannelBindScan where
  scan : Scan
  chnum : UInt16
  peerAddr : IoaAddr
  addrFound : Bool
  deriving DecidableEq

namespace ChannelBindScan

def start : ChannelBindScan := ⟨.empty, 0, .any, false⟩

def running (s : ChannelBindScan) : Bool := s.scan.running

def fail (s : ChannelBindScan) (errCode : Nat) (reason : String) : ChannelBindScan :=
  { s with scan := s.scan.fail errCode reason }

def onChannelNumber (s : ChannelBindScan) (a : Attribute) : ChannelBindScan :=
  if s.chnum ≠ 0 then { s with chnum := 0 }.fail 400 "Channel number cannot be duplicated in this request"
  else if a.channelNumber = 0 then
    { s with chnum := 0 }.fail 400 "Channel number cannot be zero in this request"
  else { s with chnum := a.channelNumber }

def onPeerAddress (server : TurnServer) (ss : SuperSession) (tid : List UInt8) (s : ChannelBindScan) (a : Attribute) :
    ChannelBindScan :=
  let s := { s with peerAddr := a.addr server.mapping tid }
  let s := if (getRelaySession ss s.peerAddr.family).s.isSome then s
    else s.fail 443 "Peer Address Family Mismatch (3)"
  if addrGetPort s.peerAddr < 1 then s.fail 400 "Empty port number in channel bind request"
  else { s with addrFound := true }

def body (server : TurnServer) (ss : SuperSession) (tid : List UInt8) (s : ChannelBindScan) (a : Attribute) :
    ChannelBindScan :=
  if isSkipped a.attrType then s
  else if a.attrType = stunAttributeChannelNumber then s.onChannelNumber a
  else if a.attrType = stunAttributeXorPeerAddress then s.onPeerAddress server ss tid a
  else { s with scan := s.scan.other a.attrType }

end ChannelBindScan

def failure (errCode : Nat) (reason : String) : Reply := { Reply.empty with errCode := errCode, reason := some reason }

/-- The channel that a request may refresh, checked against its permission. -/
def checkBound (a : Allocation) (chn : SlotRef) (peerAddr : IoaAddr) : Option Reply :=
  match a.chns.get chn with
  | none => some (failure 500 "Wrong permission info")
  | some ch =>
    if addrEq peerAddr ch.peerAddr = false then
      some (failure 400 "You cannot use the same channel number with different peer")
    else
      match ch.owner.bind a.addrToPerm.get with
      | none => some (failure 500 "Wrong permission info")
      | some tinfo =>
        if addrEqNoPort peerAddr tinfo.addr = false then
          some (failure 500 "Wrong permission info and peer addr combination")
        else if ch.port ≠ addrGetPort peerAddr then some (failure 500 "Wrong port number")
        else none

/-- The channel that a request binds, found or made, or why it is refused. -/
def bindChannel (env : Env) (ss : SuperSession) (chnum : UInt16) (peerAddr : IoaAddr) :
    Allocation × Except Reply SlotRef :=
  match allocationGetChInfo ss.alloc chnum with
  | some chn =>
    match checkBound ss.alloc chn peerAddr with
    | some reply => (ss.alloc, .error reply)
    | none => (ss.alloc, .ok chn)
  | none =>
    match allocationGetChInfoByPeerAddr ss.alloc peerAddr with
    | some _ => (ss.alloc, .error (failure 400 "You cannot use the same peer with different channel number"))
    | none =>
      if env.goodPeerAddr ss.realm.name peerAddr = false then (ss.alloc, .error (failure 403 "Forbidden IP"))
      else
        let (a, chn) := allocationGetNewChInfo ss.alloc chnum peerAddr
        (a, .ok chn)

/-- The checks between the loop and the binding. -/
def channelBindChecked (server : TurnServer) (env : Env) (ss : SuperSession) (s : ChannelBindScan) :
    SuperSession × Reply :=
  if s.scan.unknownAttrs ≠ [] then (ss, { s.scan.reply with errCode := 420 })
  else if s.scan.errCode ≠ 0 then (ss, s.scan.reply)
  else if s.chnum = 0 ∨ addrAny s.peerAddr = true ∨ s.addrFound = false then
    (ss, failure 400 "Bad channel bind request")
  else if stunValidChannel s.chnum = false then (ss, failure 400 "Bad channel number")
  else
    match bindChannel env ss s.chnum s.peerAddr with
    | (a, .error reply) => ({ ss with alloc := a }, reply)
    | (a, .ok chn) =>
      match updateChannelLifetime server env a chn with
      | none => ({ ss with alloc := a }, failure 500 "Cannot update channel lifetime (internal error)")
      | some a => ({ ss with alloc := a }, { Reply.empty with respConstructed := true })

def handleTurnChannelBind (server : TurnServer) (env : Env) (ss : SuperSession) (m : Request) : SuperSession × Reply :=
  if ss.isTcpRelay = true then (ss, failure 403 "Channel bind cannot be used with TCP relay")
  else if ss.alloc.isValid = false then (ss, .empty)
  else
    channelBindChecked server env ss
      (scanAttrs ChannelBindScan.running (ChannelBindScan.body server ss m.tid) .start m.attrs)

/-- What the first loop of `handle_turn_create_permission` collects. -/
structure PermissionScan where
  scan : Scan
  addrFound : Nat
  deriving DecidableEq

namespace PermissionScan

def start : PermissionScan := ⟨.empty, 0⟩

def running (s : PermissionScan) : Bool := s.scan.running

def onPeerAddress (server : TurnServer) (env : Env) (ss : SuperSession) (tid : List UInt8) (s : PermissionScan)
    (a : Attribute) : PermissionScan :=
  let peerAddr := a.addr server.mapping tid
  if (getRelaySession ss peerAddr.family).s.isNone then
    { s with scan := s.scan.fail 443 "Peer Address Family Mismatch (4)" }
  else if env.goodPeerAddr ss.realm.name peerAddr = false then { s with scan := s.scan.fail 403 "Forbidden IP" }
  else { s with addrFound := s.addrFound + 1 }

def body (server : TurnServer) (env : Env) (ss : SuperSession) (tid : List UInt8) (s : PermissionScan)
    (a : Attribute) : PermissionScan :=
  if isSkipped a.attrType then s
  else if a.attrType = stunAttributeXorPeerAddress then s.onPeerAddress server env ss tid a
  else { s with scan := s.scan.other a.attrType }

end PermissionScan

/-- The second loop: every address gets its permission, with no check between them. -/
def updatePermissions (server : TurnServer) (env : Env) (tid : List UInt8) (a : Allocation) (failed : Bool) :
    List Attribute → Allocation × Bool
  | [] => (a, failed)
  | attr :: rest =>
    if attr.attrType = stunAttributeXorPeerAddress then
      let (a, updated) := updatePermission server env a (addrSetPort (attr.addr server.mapping tid) 0)
      updatePermissions server env tid a (failed || !updated) rest
    else updatePermissions server env tid a failed rest

def createPermissionChecked (server : TurnServer) (env : Env) (ss : SuperSession) (m : Request) (s : PermissionScan) :
    SuperSession × Reply :=
  if s.scan.unknownAttrs ≠ [] then (ss, { s.scan.reply with errCode := 420 })
  else if s.scan.errCode ≠ 0 then (ss, s.scan.reply)
  else if s.addrFound = 0 then (ss, failure 400 "No address found")
  else
    let (a, failed) := updatePermissions server env m.tid ss.alloc false m.attrs
    if failed = true then
      ({ ss with alloc := a }, failure 500 "Cannot update some permissions (critical server software error)")
    else ({ ss with alloc := a }, { Reply.empty with respConstructed := true })

def handleTurnCreatePermission (server : TurnServer) (env : Env) (ss : SuperSession) (m : Request) :
    SuperSession × Reply :=
  if ss.alloc.isValid = false then (ss, .empty)
  else
    createPermissionChecked server env ss m
      (scanAttrs PermissionScan.running (PermissionScan.body server env ss m.tid) .start m.attrs)

end Server
end TurnCluster
