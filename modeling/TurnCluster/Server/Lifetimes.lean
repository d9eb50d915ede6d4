import TurnCluster.Server.Session

namespace TurnCluster
namespace Server

def allocationAddPermission (a : Allocation) (addr : IoaAddr) : Allocation × SlotRef :=
  let (table, tinfo) := a.addrToPerm.findFree (permissionRow addr) (fun info => !info.allocated) .zero
  ({ a with addrToPerm := table.set tinfo { TurnPermissionInfo.zero with allocated := true, addr := addr } }, tinfo)

def chMapRow (chnum : UInt16) : Nat := chnum.toNat % chMapHashSize

def allocationGetChInfo (a : Allocation) (chnum : UInt16) : Option SlotRef :=
  a.chns.find (chMapRow chnum) (fun chn => chn.allocated && chn.chnum == chnum)

def allocationGetChInfoByPeerAddr (a : Allocation) (peerAddr : IoaAddr) : Option SlotRef :=
  match getFromTurnPermissionHashtable a peerAddr with
  | none => none
  | some tinfo => getTurnChannel a tinfo peerAddr

/-- The channel of a permission is entered under its port, unless the port already has one. -/
def putChannel (a : Allocation) (tinfo : SlotRef) (port : UInt16) (chn : SlotRef) : Allocation :=
  match a.addrToPerm.get tinfo with
  | none => a
  | some info => { a with addrToPerm := a.addrToPerm.set tinfo { info with chns := (info.chns.put port.toNat chn).2 } }

def allocationGetNewChInfo (a : Allocation) (chnum : UInt16) (peerAddr : IoaAddr) : Allocation × SlotRef :=
  let (a, tinfo) := match getFromTurnPermissionHashtable a peerAddr with
    | some tinfo => (a, tinfo)
    | none => allocationAddPermission a peerAddr
  let (table, chn) := a.chns.findFree (chMapRow chnum) (fun c => !c.allocated) .zero
  let old := (table.get chn).getD .zero
  let a := { a with chns := table.set chn { old with
    allocated := true, chnum := chnum, port := addrGetPort peerAddr, peerAddr := peerAddr, owner := some tinfo } }
  (putChannel a tinfo (addrGetPort peerAddr) chn, chn)

/-- `ch_info_clean`, as `delete_channel_info_from_allocation_map` calls it. -/
def chInfoClean (a : Allocation) (chn : SlotRef) : Allocation := { a with chns := a.chns.set chn .zero }

/-- The entry of a permission for a port goes. -/
def dropChannel (a : Allocation) (tinfo : SlotRef) (port : UInt16) : Allocation :=
  match a.addrToPerm.get tinfo with
  | none => a
  | some info => { a with addrToPerm := a.addrToPerm.set tinfo { info with chns := info.chns.del port.toNat } }

/-- `turn_channel_delete`, which is what the timer of a channel does. -/
def turnChannelDelete (a : Allocation) (chn : SlotRef) : Allocation :=
  match a.chns.get chn with
  | none => a
  | some ch =>
    let a := match ch.owner with
      | none => a
      | some tinfo => dropChannel a tinfo (addrGetPort ch.peerAddr)
    chInfoClean a chn

/-- `turn_permission_clean`, which is what the timer of a permission does. -/
def turnPermissionClean (a : Allocation) (tinfo : SlotRef) : Allocation :=
  match a.addrToPerm.get tinfo with
  | none => a
  | some info =>
    if info.allocated = false then a
    else
      let a := info.chns.values.foldl (fun a entry => chInfoClean a entry.2) a
      { a with addrToPerm := a.addrToPerm.set tinfo .zero }

/-- `update_turn_permission_lifetime`. A slot has an owner as long as it is allocated. -/
def updateTurnPermissionLifetime (server : TurnServer) (env : Env) (a : Allocation) (tinfo : SlotRef)
    (timeDelta : Nat) : Option Allocation :=
  match a.addrToPerm.get tinfo with
  | none => none
  | some info =>
    if info.allocated = false then none
    else
      let expires := env.ctime + (if timeDelta = 0 then server.permissionLifetime else timeDelta)
      some { a with
        addrToPerm := a.addrToPerm.set tinfo { info with expirationTime := expires, lifetimeEv := some expires } }

def updateChannelLifetime (server : TurnServer) (env : Env) (a : Allocation) (chn : SlotRef) : Option Allocation :=
  match a.chns.get chn with
  | none => none
  | some ch =>
    match ch.owner with
    | none => none
    | some tinfo =>
      match updateTurnPermissionLifetime server env a tinfo server.channelLifetime with
      | none => none
      | some a =>
        let expires := env.ctime + server.channelLifetime
        some { a with chns := a.chns.set chn { ch with expirationTime := expires, lifetimeEv := some expires } }

/-- `update_permission`. What was updated before a failure stays. -/
def updatePermission (server : TurnServer) (env : Env) (a : Allocation) (peerAddr : IoaAddr) : Allocation × Bool :=
  let (a, tinfo) := match allocationGetPermission a peerAddr with
    | some tinfo => (a, tinfo)
    | none => allocationAddPermission a peerAddr
  match updateTurnPermissionLifetime server env a tinfo 0 with
  | none => (a, false)
  | some a =>
    match getTurnChannel a tinfo peerAddr with
    | none => (a, true)
    | some chn =>
      match updateChannelLifetime server env a chn with
      | none => (a, false)
      | some a => (a, true)

end Server
end TurnCluster
