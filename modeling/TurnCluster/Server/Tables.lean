import TurnCluster.Lib.Linked
import TurnCluster.Server.Lifetimes

namespace TurnCluster
namespace Server

/-- A permission as an owner of channels: its address, and what it finds under each port. -/
def TurnPermissionInfo.owner (info : TurnPermissionInfo) : Option (IoaAddr × (Nat → Option SlotRef)) :=
  if info.allocated = true then some (info.addr, info.chns.get) else none

def ChInfo.link (ch : ChInfo) : Option (Link SlotRef IoaAddr Nat UInt16) :=
  if ch.allocated = true then
    ch.owner.map (fun tinfo => ⟨ch.chnum, ch.peerAddr, (addrGetPort ch.peerAddr).toNat, tinfo⟩)
  else none

/-- What the two tables of an allocation say, times and places left out. -/
def Allocation.links (a : Allocation) : Links SlotRef SlotRef IoaAddr Nat UInt16 where
  owners tinfo := (a.addrToPerm.get tinfo).bind TurnPermissionInfo.owner
  links chn := (a.chns.get chn).bind ChInfo.link

/-- A permission in its slot. -/
structure PermissionPlaced (tinfo : SlotRef) (info : TurnPermissionInfo) : Prop where
  row : info.allocated = true → tinfo.row = permissionRow info.addr
  tidy : info.allocated = true → info.chns.Tidy

/-- A channel in its slot. A free slot has no owner. -/
structure ChannelPlaced (chn : SlotRef) (ch : ChInfo) : Prop where
  row : ch.allocated = true → chn.row = chMapRow ch.chnum
  valid : ch.allocated = true → stunValidChannel ch.chnum = true
  port : ch.allocated = true → ch.port = addrGetPort ch.peerAddr ∧ ch.port ≠ 0
  owner : ch.owner.isSome = ch.allocated

/-- The invariant of the two tables. -/
structure TablesKept (a : Allocation) : Prop where
  permissions : ∀ {tinfo info}, a.addrToPerm.get tinfo = some info → PermissionPlaced tinfo info
  channels : ∀ {chn ch}, a.chns.get chn = some ch → ChannelPlaced chn ch
  linked : a.links.Linked addrEqNoPort

theorem permissionPlaced_zero (tinfo : SlotRef) : PermissionPlaced tinfo .zero :=
  ⟨fun allocated => (by cases allocated), fun allocated => (by cases allocated)⟩

theorem channelPlaced_zero (chn : SlotRef) : ChannelPlaced chn .zero :=
  ⟨fun allocated => (by cases allocated), fun allocated => (by cases allocated), fun allocated => (by cases allocated), rfl⟩

theorem bind_update {α β : Type} (table : SlotRef → Option α) (ref : SlotRef) (value : α) (view : α → Option β) :
    (fun ref' => (Function.update table ref (some value) ref').bind view) =
      Function.update (fun ref' => (table ref').bind view) ref (view value) := by
  funext ref'
  by_cases here : ref' = ref
  · subst here
    simp
  · simp [here]

variable {a : Allocation} {server : TurnServer} {env : Env} {a' : Allocation} {tinfo chn : SlotRef}
  {table : SlotTable TurnPermissionInfo} {info : TurnPermissionInfo} {chnum : UInt16} {ch : ChInfo} {timeDelta : Nat}

theorem links_setPermission (changed : table.get = Function.update a.addrToPerm.get tinfo (some info)) :
    Allocation.links { a with addrToPerm := table } =
      { a.links with owners := Function.update a.links.owners tinfo info.owner } := by
  unfold Allocation.links
  dsimp only
  rw [changed, bind_update]

theorem links_setChannel {table : SlotTable ChInfo} (changed : table.get = Function.update a.chns.get chn (some ch)) :
    Allocation.links { a with chns := table } =
      { a.links with links := Function.update a.links.links chn ch.link } := by
  unfold Allocation.links
  dsimp only
  rw [changed, bind_update]

theorem update_some {α : Type} {table : SlotRef → Option α} {ref ref' : SlotRef} {value value' : α}
    (after : Function.update table ref (some value) ref' = some value') :
    ref' = ref ∧ value' = value ∨ ref' ≠ ref ∧ table ref' = some value' := by
  by_cases here : ref' = ref
  · subst here
    rw [Function.update_self] at after
    exact Or.inl ⟨rfl, (Option.some.inj after).symm⟩
  · rw [Function.update_of_ne here] at after
    exact Or.inr ⟨here, after⟩

theorem TablesKept.setPermission (kept : TablesKept a)
    (changed : table.get = Function.update a.addrToPerm.get tinfo (some info)) (placed : PermissionPlaced tinfo info)
    (linked : ({ a.links with owners := Function.update a.links.owners tinfo info.owner } :
      Links SlotRef SlotRef IoaAddr Nat UInt16).Linked addrEqNoPort) : TablesKept { a with addrToPerm := table } := by
  refine ⟨?_, kept.channels, by rw [links_setPermission changed]; exact linked⟩
  intro tinfo' info' after
  change table.get tinfo' = some info' at after
  rw [changed] at after
  rcases update_some after with ⟨rfl, rfl⟩ | ⟨_, before⟩
  · exact placed
  · exact kept.permissions before

theorem TablesKept.setChannel (kept : TablesKept a) {table : SlotTable ChInfo}
    (changed : table.get = Function.update a.chns.get chn (some ch)) (placed : ChannelPlaced chn ch)
    (linked : ({ a.links with links := Function.update a.links.links chn ch.link } :
      Links SlotRef SlotRef IoaAddr Nat UInt16).Linked addrEqNoPort) : TablesKept { a with chns := table } := by
  refine ⟨kept.permissions, ?_, by rw [links_setChannel changed]; exact linked⟩
  intro chn' ch' after
  change table.get chn' = some ch' at after
  rw [changed] at after
  rcases update_some after with ⟨rfl, rfl⟩ | ⟨_, before⟩
  · exact placed
  · exact kept.channels before

theorem owner_eq_some {addr : IoaAddr} {m : Nat → Option SlotRef} :
    a.links.owners tinfo = some (addr, m) ↔
      ∃ info, a.addrToPerm.get tinfo = some info ∧ info.allocated = true ∧ info.addr = addr ∧ info.chns.get = m := by
  show (a.addrToPerm.get tinfo).bind TurnPermissionInfo.owner = some (addr, m) ↔ _
  rw [Option.bind_eq_some_iff]
  refine exists_congr fun info => and_congr_right fun _ => ?_
  unfold TurnPermissionInfo.owner
  split
  · rename_i allocated
    simp [allocated]
  · rename_i free
    simp [free]

theorem link_eq_some {link : Link SlotRef IoaAddr Nat UInt16} :
    a.links.links chn = some link ↔ ∃ ch, a.chns.get chn = some ch ∧ ch.allocated = true ∧ ch.owner = some link.owner ∧
      ch.chnum = link.number ∧ ch.peerAddr = link.addr ∧ (addrGetPort ch.peerAddr).toNat = link.port := by
  show (a.chns.get chn).bind ChInfo.link = some link ↔ _
  rw [Option.bind_eq_some_iff]
  refine exists_congr fun ch => and_congr_right fun _ => ?_
  unfold ChInfo.link
  split
  · rename_i allocated
    rw [Option.map_eq_some_iff]
    constructor
    · rintro ⟨tinfo, owner, rfl⟩
      exact ⟨allocated, owner, rfl, rfl, rfl⟩
    · rintro ⟨_, owner, number, addr, port⟩
      refine ⟨link.owner, owner, ?_⟩
      cases link
      simp_all
  · rename_i free
    simp [free]

theorem TablesKept.unpermitted (kept : TablesKept a) {addr : IoaAddr}
    (missing : getFromTurnPermissionHashtable a addr = none) (known : a.addrToPerm.get tinfo = some info)
    (allocated : info.allocated = true) : addrEqNoPort info.addr addr = false := by
  by_contra same
  rw [Bool.not_eq_false] at same
  have row : tinfo.row = permissionRow addr := by
    rw [(kept.permissions known).row allocated, permissionRow, addrHashNoPort_congr same, permissionRow]
  have passed := SlotTable.find_none missing row known
  simp [allocated, same] at passed

theorem TablesKept.touchPermission (kept : TablesKept a) (known : a.addrToPerm.get tinfo = some info)
    (expirationTime : Nat) (lifetimeEv : Option Nat) :
    TablesKept { a with
      addrToPerm := a.addrToPerm.set tinfo { info with expirationTime := expirationTime, lifetimeEv := lifetimeEv } } := by
  have placed := kept.permissions known
  refine kept.setPermission (SlotTable.get_set known _) ⟨placed.row, placed.tidy⟩ ?_
  have same : a.links.owners tinfo = info.owner := by simp [Allocation.links, known]
  change ({ a.links with owners := Function.update a.links.owners tinfo info.owner } :
    Links SlotRef SlotRef IoaAddr Nat UInt16).Linked addrEqNoPort
  rw [← same, Function.update_eq_self]
  exact kept.linked

theorem TablesKept.touchChannel (kept : TablesKept a) (known : a.chns.get chn = some ch) (expirationTime : Nat)
    (lifetimeEv : Option Nat) :
    TablesKept { a with
      chns := a.chns.set chn { ch with expirationTime := expirationTime, lifetimeEv := lifetimeEv } } := by
  have placed := kept.channels known
  refine kept.setChannel (SlotTable.get_set known _) ⟨placed.row, placed.valid, placed.port, placed.owner⟩ ?_
  have same : a.links.links chn = ch.link := by simp [Allocation.links, known]
  change ({ a.links with links := Function.update a.links.links chn ch.link } :
    Links SlotRef SlotRef IoaAddr Nat UInt16).Linked addrEqNoPort
  rw [← same, Function.update_eq_self]
  exact kept.linked

theorem TablesKept.updatePermissionLifetime (kept : TablesKept a)
    (updated : updateTurnPermissionLifetime server env a tinfo timeDelta = some a') : TablesKept a' := by
  unfold updateTurnPermissionLifetime at updated
  split at updated
  · cases updated
  · rename_i info known
    split at updated
    · cases updated
    · cases Option.some.inj updated
      exact kept.touchPermission known _ _

theorem updateTurnPermissionLifetime_chns
    (updated : updateTurnPermissionLifetime server env a tinfo timeDelta = some a') : a'.chns = a.chns := by
  unfold updateTurnPermissionLifetime at updated
  split at updated
  · cases updated
  · split at updated
    · cases updated
    · cases Option.some.inj updated
      rfl

theorem TablesKept.updateChannelLifetime (kept : TablesKept a)
    (updated : updateChannelLifetime server env a chn = some a') : TablesKept a' := by
  unfold Server.updateChannelLifetime at updated
  split at updated
  · cases updated
  · rename_i ch known
    split at updated
    · cases updated
    · split at updated
      · cases updated
      · rename_i a₁ first
        cases Option.some.inj updated
        have known₁ : a₁.chns.get chn = some ch := by rw [updateTurnPermissionLifetime_chns first, known]
        exact (kept.updatePermissionLifetime first).touchChannel known₁ _ _

theorem TablesKept.addPermission (kept : TablesKept a) {addr : IoaAddr}
    (missing : getFromTurnPermissionHashtable a addr = none) : TablesKept (allocationAddPermission a addr).1 := by
  obtain ⟨row, free, changed⟩ := a.addrToPerm.findFree_spec (permissionRow addr) (fun info => !info.allocated) .zero
  have unused : a.links.owners (allocationAddPermission a addr).2 = none := by
    show (a.addrToPerm.get (allocationAddPermission a addr).2).bind TurnPermissionInfo.owner = none
    cases known : a.addrToPerm.get (allocationAddPermission a addr).2 with
    | none => rfl
    | some info =>
      have unallocated := free known
      simp only [Bool.not_eq_true'] at unallocated
      simp [TurnPermissionInfo.owner, unallocated]
  refine kept.setPermission (changed _) ⟨fun _ => row, fun _ => LmMap.tidy_empty⟩ ?_
  have empty : (LmMap.empty SlotRef).get = fun _ => none := by
    funext key
    simp
  show ({ a.links with owners := Function.update a.links.owners _ (some (addr, (LmMap.empty SlotRef).get)) } :
    Links SlotRef SlotRef IoaAddr Nat UInt16).Linked addrEqNoPort
  rw [empty]
  refine kept.linked.addOwner addrEqNoPort_symm unused ?_
  intro tinfo other m owner
  obtain ⟨info, known, allocated, rfl, _⟩ := owner_eq_some.mp owner
  exact kept.unpermitted missing known allocated

/-- The permission of an address, found or added. -/
def permissionFor (a : Allocation) (addr : IoaAddr) : Allocation × SlotRef :=
  match getFromTurnPermissionHashtable a addr with
  | some tinfo => (a, tinfo)
  | none => allocationAddPermission a addr

theorem TablesKept.permissionFor (kept : TablesKept a) (addr : IoaAddr) : TablesKept (permissionFor a addr).1 := by
  unfold Server.permissionFor
  split
  · exact kept
  · rename_i missing
    exact kept.addPermission missing

theorem permissionFor_chns (a : Allocation) (addr : IoaAddr) : (permissionFor a addr).1.chns = a.chns := by
  unfold permissionFor
  split <;> rfl

theorem allocationAddPermission_get (a : Allocation) (addr : IoaAddr) :
    (allocationAddPermission a addr).1.addrToPerm.get = Function.update a.addrToPerm.get (allocationAddPermission a addr).2
      (some { TurnPermissionInfo.zero with allocated := true, addr := addr }) :=
  (a.addrToPerm.findFree_spec (permissionRow addr) (fun info => !info.allocated) .zero).2.2 _

theorem permissionFor_get (a : Allocation) (addr : IoaAddr) :
    ∃ info, (permissionFor a addr).1.addrToPerm.get (permissionFor a addr).2 = some info ∧ info.allocated = true ∧
      (getFromTurnPermissionHashtable a addr = some (permissionFor a addr).2 ∧ permissionFor a addr = (a, (permissionFor a addr).2) ∧
          addrEqNoPort info.addr addr = true ∨
        getFromTurnPermissionHashtable a addr = none ∧ info.addr = addr ∧ info.chns = .empty _) := by
  unfold permissionFor
  split
  · rename_i tinfo found
    obtain ⟨_, info, _, known, passes⟩ := SlotTable.find_some found
    rw [Bool.and_eq_true] at passes
    exact ⟨info, known, passes.1, Or.inl ⟨found, rfl, passes.2⟩⟩
  · rename_i missing
    exact ⟨_, by rw [allocationAddPermission_get, Function.update_self], rfl, Or.inr ⟨missing, rfl, rfl⟩⟩

theorem permissionFor_frame (a : Allocation) (addr : IoaAddr) :
    (∀ tinfo, tinfo ≠ (permissionFor a addr).2 →
      (permissionFor a addr).1.addrToPerm.get tinfo = a.addrToPerm.get tinfo) ∧
      ∀ info, a.addrToPerm.get (permissionFor a addr).2 = some info → info.allocated = true →
        addrEqNoPort info.addr addr = true := by
  unfold permissionFor
  split
  · rename_i tinfo found
    refine ⟨fun _ _ => rfl, fun info known _ => ?_⟩
    obtain ⟨_, info', _, known', passes⟩ := SlotTable.find_some found
    cases known.symm.trans known'
    rw [Bool.and_eq_true] at passes
    exact passes.2
  · obtain ⟨_, free, _⟩ := a.addrToPerm.findFree_spec (permissionRow addr) (fun info => !info.allocated) .zero
    refine ⟨fun tinfo other => ?_, fun info known allocated => ?_⟩
    · rw [allocationAddPermission_get, Function.update_of_ne other]
    · have isFree := free known
      simp [allocated] at isFree

theorem updatePermission_def (server : TurnServer) (env : Env) (a : Allocation) (addr : IoaAddr) :
    updatePermission server env a addr =
      match updateTurnPermissionLifetime server env (permissionFor a addr).1 (permissionFor a addr).2 0 with
      | none => ((permissionFor a addr).1, false)
      | some a' =>
        match getTurnChannel a' (permissionFor a addr).2 addr with
        | none => (a', true)
        | some chn =>
          match updateChannelLifetime server env a' chn with
          | none => (a', false)
          | some a'' => (a'', true) := rfl

theorem TablesKept.updatePermission (kept : TablesKept a) (server : TurnServer) (env : Env) (peerAddr : IoaAddr) :
    TablesKept (updatePermission server env a peerAddr).1 := by
  have found := kept.permissionFor peerAddr
  rw [updatePermission_def]
  split
  · exact found
  · rename_i a' updated
    have updated' := found.updatePermissionLifetime updated
    split
    · exact updated'
    · split
      · exact updated'
      · rename_i a'' channel
        exact updated'.updateChannelLifetime channel

theorem TablesKept.setBoth (kept : TablesKept a)
    (changedP : a'.addrToPerm.get = Function.update a.addrToPerm.get tinfo (some info))
    (changedC : a'.chns.get = Function.update a.chns.get chn (some ch)) (placedP : PermissionPlaced tinfo info)
    (placedC : ChannelPlaced chn ch)
    (linked : (⟨Function.update a.links.owners tinfo info.owner, Function.update a.links.links chn ch.link⟩ :
      Links SlotRef SlotRef IoaAddr Nat UInt16).Linked addrEqNoPort) : TablesKept a' := by
  refine ⟨?_, ?_, ?_⟩
  · intro tinfo' info' after
    rw [changedP] at after
    rcases update_some after with ⟨rfl, rfl⟩ | ⟨_, before⟩
    · exact placedP
    · exact kept.permissions before
  · intro chn' ch' after
    rw [changedC] at after
    rcases update_some after with ⟨rfl, rfl⟩ | ⟨_, before⟩
    · exact placedC
    · exact kept.channels before
  · have links : a'.links =
        ⟨Function.update a.links.owners tinfo info.owner, Function.update a.links.links chn ch.link⟩ := by
      unfold Allocation.links
      rw [changedP, changedC, bind_update, bind_update]
    rw [links]
    exact linked

theorem TablesKept.unnumbered (kept : TablesKept a) (missing : allocationGetChInfo a chnum = none)
    (known : a.chns.get chn = some ch) (allocated : ch.allocated = true) : ch.chnum ≠ chnum := by
  intro same
  have row : chn.row = chMapRow chnum := by rw [(kept.channels known).row allocated, same]
  have passed := SlotTable.find_none missing row known
  simp [allocated, same] at passed

theorem TablesKept.getTurnChannel (kept : TablesKept a) (known : a.addrToPerm.get tinfo = some info)
    (allocated : info.allocated = true) (addr : IoaAddr) :
    getTurnChannel a tinfo addr = info.chns.get (addrGetPort addr).toNat := by
  unfold Server.getTurnChannel
  rw [known]
  dsimp only
  cases entry : info.chns.get (addrGetPort addr).toNat with
  | none => rfl
  | some chn =>
    obtain ⟨link, live, _⟩ := kept.linked.backed (owner_eq_some.mpr ⟨info, known, allocated, rfl, rfl⟩) entry
    obtain ⟨ch, there, isLive, _⟩ := link_eq_some.mp live
    dsimp only
    rw [there]
    simp [(kept.channels there).valid isLive]

theorem TablesKept.port_unused (kept : TablesKept a) {peerAddr : IoaAddr}
    (missing : allocationGetChInfoByPeerAddr a peerAddr = none)
    (known : (Server.permissionFor a peerAddr).1.addrToPerm.get (Server.permissionFor a peerAddr).2 = some info) :
    info.chns.get (addrGetPort peerAddr).toNat = none := by
  obtain ⟨info', known', allocated, ⟨found, same, _⟩ | ⟨_, _, empty⟩⟩ := permissionFor_get a peerAddr
  · cases known.symm.trans known'
    rw [same] at known
    unfold allocationGetChInfoByPeerAddr at missing
    rw [found] at missing
    rw [← kept.getTurnChannel known allocated]
    exact missing
  · cases known.symm.trans known'
    rw [empty]
    exact LmMap.get_empty _

theorem putChannel_eq (known : a.addrToPerm.get tinfo = some info) (chns : SlotTable ChInfo) (port : UInt16)
    (chn : SlotRef) :
    putChannel { a with chns := chns } tinfo port chn =
      { a with
        chns := chns
        addrToPerm := a.addrToPerm.set tinfo { info with chns := (info.chns.put port.toNat chn).2 } } := by
  unfold putChannel
  rw [known]

/-- The slot that a new channel takes. -/
def freeChannel (a : Allocation) (chnum : UInt16) : SlotTable ChInfo × SlotRef :=
  a.chns.findFree (chMapRow chnum) (fun ch => !ch.allocated) .zero

theorem allocationGetNewChInfo_eq (a : Allocation) (chnum : UInt16) (peerAddr : IoaAddr) :
    ∃ ch : ChInfo, ch.allocated = true ∧ ch.chnum = chnum ∧ ch.port = addrGetPort peerAddr ∧ ch.peerAddr = peerAddr ∧
      ch.owner = some (permissionFor a peerAddr).2 ∧
      allocationGetNewChInfo a chnum peerAddr =
        (putChannel { (permissionFor a peerAddr).1 with
            chns := (freeChannel (permissionFor a peerAddr).1 chnum).1.set
              (freeChannel (permissionFor a peerAddr).1 chnum).2 ch }
          (permissionFor a peerAddr).2 (addrGetPort peerAddr) (freeChannel (permissionFor a peerAddr).1 chnum).2,
          (freeChannel (permissionFor a peerAddr).1 chnum).2) :=
  ⟨_, rfl, rfl, rfl, rfl, rfl, rfl⟩

theorem TablesKept.enterChannel (kept : TablesKept a) (known : a.addrToPerm.get tinfo = some info)
    (allocated : info.allocated = true) (live : ch.allocated = true) (owner : ch.owner = some tinfo)
    (valid : stunValidChannel ch.chnum = true) (port : ch.port = addrGetPort ch.peerAddr ∧ ch.port ≠ 0)
    (address : addrEqNoPort info.addr ch.peerAddr = true) (noNumber : allocationGetChInfo a ch.chnum = none)
    (unused : info.chns.get (addrGetPort ch.peerAddr).toNat = none) :
    TablesKept (putChannel { a with chns := (freeChannel a ch.chnum).1.set (freeChannel a ch.chnum).2 ch } tinfo
      (addrGetPort ch.peerAddr) (freeChannel a ch.chnum).2) := by
  have placed := kept.permissions known
  have key : (addrGetPort ch.peerAddr).toNat ≠ 0 := by
    rw [← port.1]
    exact fun zero => port.2 (UInt16.toNat_inj.mp zero)
  obtain ⟨tidy, entries⟩ := (placed.tidy allocated).put (freeChannel a ch.chnum).2 key unused
  obtain ⟨row, free, changed⟩ := a.chns.findFree_spec (chMapRow ch.chnum) (fun ch => !ch.allocated) .zero
  rw [putChannel_eq known]
  refine kept.setBoth (SlotTable.get_set known _) (changed ch) ⟨placed.row, fun _ => tidy⟩
    ⟨fun _ => row, fun _ => valid, fun _ => port, by rw [owner, live]; rfl⟩ ?_
  have owned := owner_eq_some.mpr ⟨info, known, allocated, rfl, rfl⟩
  have unbound : a.links.links (freeChannel a ch.chnum).2 = none := by
    rw [Option.eq_none_iff_forall_ne_some]
    intro link bound
    obtain ⟨old, there, isLive, _⟩ := link_eq_some.mp bound
    have isFree := free there
    simp [isLive] at isFree
  have fresh {chn : SlotRef} {link : Link SlotRef IoaAddr Nat UInt16} (bound : a.links.links chn = some link) :
      link.number ≠ ch.chnum := by
    obtain ⟨old, there, isLive, _, number, _⟩ := link_eq_some.mp bound
    rw [← number]
    exact kept.unnumbered noNumber there isLive
  have bound := @Links.Linked.bind _ _ _ _ _ _ _ (freeChannel a ch.chnum).2
    ⟨ch.chnum, ch.peerAddr, (addrGetPort ch.peerAddr).toNat, tinfo⟩ _ _ _ kept.linked unbound fresh _ _ owned address
    unused
  unfold Links.bind Links.setEntry at bound
  rw [owned] at bound
  have isOwner : TurnPermissionInfo.owner
      { info with chns := (info.chns.put (addrGetPort ch.peerAddr).toNat (freeChannel a ch.chnum).2).2 } =
      some (info.addr, Function.update info.chns.get (addrGetPort ch.peerAddr).toNat (some (freeChannel a ch.chnum).2)) := by
    simp [TurnPermissionInfo.owner, allocated, entries]
  have isLink : ch.link = some ⟨ch.chnum, ch.peerAddr, (addrGetPort ch.peerAddr).toNat, tinfo⟩ := by
    simp [ChInfo.link, live, owner]
  rw [isOwner, isLink]
  exact bound

theorem TablesKept.newChannel (kept : TablesKept a) {peerAddr : IoaAddr} (valid : stunValidChannel chnum = true)
    (port : addrGetPort peerAddr ≠ 0) (noNumber : allocationGetChInfo a chnum = none)
    (noPeer : allocationGetChInfoByPeerAddr a peerAddr = none) :
    TablesKept (allocationGetNewChInfo a chnum peerAddr).1 := by
  obtain ⟨info, known, allocated, found⟩ := permissionFor_get a peerAddr
  have unused := kept.port_unused noPeer known
  have address : addrEqNoPort info.addr peerAddr = true := by
    rcases found with ⟨_, _, same⟩ | ⟨_, same, _⟩
    · exact same
    · rw [same]
      refine addrEqNoPort_self fun unspec => port ?_
      unfold addrGetPort
      rw [unspec]
  obtain ⟨ch, live, rfl, port', rfl, owner, made⟩ := allocationGetNewChInfo_eq a chnum peerAddr
  rw [made]
  exact (kept.permissionFor _).enterChannel known allocated live owner valid ⟨port', by rw [port']; exact port⟩ address
    (by unfold allocationGetChInfo; rw [permissionFor_chns]; exact noNumber) unused

theorem link_of_live (known : a.chns.get chn = some ch) (live : ch.allocated = true) (owner : ch.owner = some tinfo) :
    a.links.links chn = some ⟨ch.chnum, ch.peerAddr, (addrGetPort ch.peerAddr).toNat, tinfo⟩ :=
  link_eq_some.mpr ⟨ch, known, live, owner, rfl, rfl, rfl⟩

theorem TablesKept.deleteChannel (kept : TablesKept a) (chn : SlotRef) : TablesKept (turnChannelDelete a chn) := by
  unfold turnChannelDelete
  cases known : a.chns.get chn with
  | none => exact kept
  | some ch =>
    have placed := kept.channels known
    cases owner : ch.owner with
    | none =>
      -- a free slot, which is cleared once more
      have free : ch.allocated = false := by
        rw [← placed.owner, owner]
        rfl
      have same : a.links.links chn = none := by
        show (a.chns.get chn).bind ChInfo.link = none
        simp [known, ChInfo.link, free]
      dsimp only
      rw [owner]
      refine kept.setChannel (SlotTable.get_set known _) (channelPlaced_zero chn) ?_
      rw [show ChInfo.zero.link = a.links.links chn from same.symm, Function.update_eq_self]
      exact kept.linked
    | some tinfo =>
      have live : ch.allocated = true := by
        rw [← placed.owner, owner]
        rfl
      have bound := link_of_live known live owner
      obtain ⟨addr, m, owned, _, _⟩ := kept.linked.owned bound
      obtain ⟨info, there, allocated, _, _⟩ := owner_eq_some.mp owned
      obtain ⟨tidy, entries⟩ := ((kept.permissions there).tidy allocated).del (addrGetPort ch.peerAddr).toNat
      change a.addrToPerm.get tinfo = some info at there
      dsimp only
      rw [owner]
      dsimp only
      unfold dropChannel
      rw [there]
      refine kept.setBoth (SlotTable.get_set there _) (SlotTable.get_set known _)
        ⟨(kept.permissions there).row, fun _ => tidy⟩ (channelPlaced_zero chn) ?_
      have unbound := kept.linked.unbind bound
      unfold Links.unbind Links.setEntry at unbound
      rw [owner_eq_some.mpr ⟨info, there, allocated, rfl, rfl⟩] at unbound
      have isOwner : TurnPermissionInfo.owner { info with chns := info.chns.del (addrGetPort ch.peerAddr).toNat } =
          some (info.addr, Function.update info.chns.get (addrGetPort ch.peerAddr).toNat none) := by
        simp [TurnPermissionInfo.owner, allocated, entries]
      rw [isOwner]
      exact unbound

theorem chInfoClean_foldl (entries : List (Nat × SlotRef)) (a : Allocation) :
    (entries.foldl (fun a entry => chInfoClean a entry.2) a).addrToPerm = a.addrToPerm ∧
      (entries.foldl (fun a entry => chInfoClean a entry.2) a).chns.get = fun chn =>
        if chn ∈ entries.map Prod.snd then (a.chns.get chn).map (fun _ => ChInfo.zero) else a.chns.get chn := by
  induction entries generalizing a with
  | nil => simp
  | cons entry rest ih =>
    obtain ⟨permissions, channels⟩ := ih (chInfoClean a entry.2)
    refine ⟨permissions, ?_⟩
    rw [List.foldl_cons, channels]
    funext chn
    have first : (chInfoClean a entry.2).chns.get chn =
        if chn = entry.2 then (a.chns.get chn).map (fun _ => ChInfo.zero) else a.chns.get chn := by
      cases known : a.chns.get entry.2 with
      | none =>
        rw [chInfoClean, SlotTable.set_missing known]
        split
        · rename_i here
          simp [here, known]
        · rfl
      | some ch =>
        rw [chInfoClean, SlotTable.get_set known]
        split
        · rename_i here
          simp [here, known]
        · rename_i other
          simp [other]
    rw [first]
    by_cases here : chn = entry.2
    · subst here
      cases a.chns.get entry.2 <;> simp
    · have same : chn ∈ (entry :: rest).map Prod.snd ↔ chn ∈ rest.map Prod.snd := by
        rw [List.map_cons, List.mem_cons, or_iff_right here]
      simp only [here, same, if_false]

theorem TablesKept.links_drop (kept : TablesKept a) (known : a.addrToPerm.get tinfo = some info)
    (allocated : info.allocated = true) (chn : SlotRef) :
    (a.links.drop tinfo).links chn =
      if chn ∈ info.chns.values.map Prod.snd then none else a.links.links chn := by
  have owned := owner_eq_some.mpr ⟨info, known, allocated, rfl, rfl⟩
  have tidy := (kept.permissions known).tidy allocated
  show (a.links.links chn).filter (fun link => link.owner ≠ tinfo) = _
  split
  · rename_i member
    obtain ⟨⟨port, _⟩, entry, rfl⟩ := List.mem_map.mp member
    obtain ⟨link, bound, owner, _⟩ := kept.linked.backed owned (tidy.mem_values.mp entry)
    rw [bound]
    simp [owner]
  · rename_i outside
    cases bound : a.links.links chn with
    | none => rfl
    | some link =>
      have other : link.owner ≠ tinfo := by
        intro same
        obtain ⟨addr, m, owned', _, entry⟩ := kept.linked.owned bound
        rw [same, owned] at owned'
        cases owned'
        exact outside (List.mem_map.mpr ⟨(link.port, chn), tidy.mem_values.mpr entry, rfl⟩)
      simp [other]

theorem TablesKept.cleanPermission (kept : TablesKept a) (tinfo : SlotRef) :
    TablesKept (turnPermissionClean a tinfo) := by
  unfold turnPermissionClean
  split
  · exact kept
  · rename_i info known
    split
    · exact kept
    · rename_i allocated
      rw [Bool.not_eq_false] at allocated
      obtain ⟨permissions, channels⟩ := chInfoClean_foldl info.chns.values a
      have cleared : SlotTable.get (SlotTable.set
          (info.chns.values.foldl (fun a entry => chInfoClean a entry.2) a).addrToPerm tinfo .zero) =
          Function.update a.addrToPerm.get tinfo (some .zero) := by
        rw [permissions]
        exact SlotTable.get_set known _
      refine ⟨?_, ?_, ?_⟩
      · intro tinfo' info' after
        change SlotTable.get (SlotTable.set _ tinfo .zero) tinfo' = some info' at after
        rw [cleared] at after
        rcases update_some after with ⟨rfl, rfl⟩ | ⟨_, before⟩
        · exact permissionPlaced_zero tinfo'
        · exact kept.permissions before
      · intro chn ch after
        change SlotTable.get (info.chns.values.foldl (fun a entry => chInfoClean a entry.2) a).chns chn = some ch at after
        rw [channels] at after
        dsimp only at after
        split at after
        · obtain ⟨old, _, rfl⟩ := Option.map_eq_some_iff.mp after
          exact channelPlaced_zero chn
        · exact kept.channels after
      · have dropped : Allocation.links
            { info.chns.values.foldl (fun a entry => chInfoClean a entry.2) a with
              addrToPerm := SlotTable.set
                (info.chns.values.foldl (fun a entry => chInfoClean a entry.2) a).addrToPerm tinfo .zero } =
            a.links.drop tinfo := by
          have links : (a.links.drop tinfo).links = fun chn =>
              if chn ∈ info.chns.values.map Prod.snd then none else a.links.links chn :=
            funext (kept.links_drop known allocated)
          unfold Allocation.links
          dsimp only
          rw [cleared, bind_update, channels]
          refine Eq.trans ?_ (congrArg (Links.mk _) links.symm)
          congr 1
          funext chn
          dsimp only
          by_cases member : chn ∈ info.chns.values.map Prod.snd
          · rw [if_pos member, if_pos member]
            cases a.chns.get chn <;> rfl
          · rw [if_neg member, if_neg member]
            rfl
        rw [dropped]
        exact kept.linked.drop tinfo

end Server
end TurnCluster
