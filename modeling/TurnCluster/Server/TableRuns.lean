import TurnCluster.Lib.Run
import TurnCluster.Server.Command
import TurnCluster.Server.Tables

namespace TurnCluster
namespace Server

namespace ChannelBindScan

/-- An address that was let through has a port. -/
def PortChecked (s : ChannelBindScan) : Prop :=
  s.scan.errCode = 0 → s.addrFound = true → addrGetPort s.peerAddr ≠ 0

variable (server : TurnServer) (ss : SuperSession) (tid : List UInt8)

theorem onPeerAddress_portChecked (s : ChannelBindScan) (a : Attribute) :
    (s.onPeerAddress server ss tid a).PortChecked := by
  have last (t : ChannelBindScan) : PortChecked (if addrGetPort t.peerAddr < 1 then
      t.fail 400 "Empty port number in channel bind request" else { t with addrFound := true }) := by
    split
    · intro fine
      cases fine
    · rename_i port
      intro _ _ zero
      exact port (by rw [zero]; decide)
  exact last _

theorem body_portChecked {s : ChannelBindScan} (checked : s.PortChecked) (running : s.running = true) (a : Attribute) :
    (body server ss tid s a).PortChecked := by
  have fine : s.scan.errCode = 0 := by
    simp only [ChannelBindScan.running, Scan.running, Bool.and_eq_true, beq_iff_eq] at running
    exact running.1
  unfold body
  split
  · exact checked
  · split
    · unfold onChannelNumber
      split
      · intro fine
        cases fine
      · split
        · intro fine
          cases fine
        · exact checked
    · split
      · exact onPeerAddress_portChecked server ss tid s a
      · exact fun _ => checked fine

theorem scan_portChecked (attrs : List Attribute) :
    (scanAttrs running (body server ss tid) .start attrs).PortChecked := by
  obtain ⟨_, _, _, checked, _⟩ := @scanAttrs_passed _ running (body server ss tid) (fun _ s => s.PortChecked)
    (fun _ s a goes checked => body_portChecked server ss tid checked goes a) [] .start
    (fun _ found => by cases found) attrs
  exact checked

end ChannelBindScan

theorem bindChannel_kept {env : Env} {ss : SuperSession} (kept : TablesKept ss.alloc) {chnum : UInt16}
    {peerAddr : IoaAddr} (valid : stunValidChannel chnum = true) (port : addrGetPort peerAddr ≠ 0) :
    TablesKept (bindChannel env ss chnum peerAddr).1 := by
  unfold bindChannel
  split
  · split <;> exact kept
  · rename_i noNumber
    split
    · exact kept
    · rename_i noPeer
      split
      · exact kept
      · exact kept.newChannel valid port noNumber noPeer

variable (server : TurnServer) (env : Env) {a : Allocation} {ss : SuperSession}

theorem channelBindChecked_kept {server : TurnServer} {env : Env} (kept : TablesKept ss.alloc) {s : ChannelBindScan}
    (checked : s.PortChecked) : TablesKept (channelBindChecked server env ss s).1.alloc := by
  unfold channelBindChecked
  split
  · exact kept
  · split
    · exact kept
    · rename_i fine
      split
      · exact kept
      · rename_i complete
        simp only [not_or, Bool.not_eq_false] at complete
        split
        · exact kept
        · rename_i valid
          rw [Bool.not_eq_false] at valid
          have bound := @bindChannel_kept env ss kept s.chnum s.peerAddr valid
            (checked (not_not.mp fine) complete.2.2)
          split
          · rename_i a reply made
            rw [made] at bound
            exact bound
          · rename_i a chn made
            rw [made] at bound
            split
            · exact bound
            · rename_i a' updated
              exact bound.updateChannelLifetime updated

theorem handleTurnChannelBind_kept (kept : TablesKept ss.alloc) (m : Request) :
    TablesKept (handleTurnChannelBind server env ss m).1.alloc := by
  unfold handleTurnChannelBind
  split
  · exact kept
  · split
    · exact kept
    · exact channelBindChecked_kept kept (ChannelBindScan.scan_portChecked server ss m.tid m.attrs)

theorem updatePermissions_kept (tid : List UInt8) (kept : TablesKept a) (failed : Bool) (attrs : List Attribute) :
    TablesKept (updatePermissions server env tid a failed attrs).1 := by
  induction attrs generalizing a failed with
  | nil => exact kept
  | cons attr rest ih =>
    unfold updatePermissions
    split
    · exact ih (kept.updatePermission server env _) _
    · exact ih kept failed

theorem handleTurnCreatePermission_kept (kept : TablesKept ss.alloc) (m : Request) :
    TablesKept (handleTurnCreatePermission server env ss m).1.alloc := by
  unfold handleTurnCreatePermission
  split
  · exact kept
  · unfold createPermissionChecked
    split
    · exact kept
    · split
      · exact kept
      · split
        · exact kept
        · have updated := updatePermissions_kept server env m.tid kept false m.attrs
          dsimp only
          split <;> exact updated

inductive TableEvent
  | channelBind (env : Env) (m : Request)
  | createPermission (env : Env) (m : Request)
  | channelTimeout (chn : SlotRef)
  | permissionTimeout (tinfo : SlotRef)

def tableStep (server : TurnServer) (ss : SuperSession) : TableEvent → SuperSession
  | .channelBind env m => (handleTurnChannelBind server env ss m).1
  | .createPermission env m => (handleTurnCreatePermission server env ss m).1
  | .channelTimeout chn => { ss with alloc := turnChannelDelete ss.alloc chn }
  | .permissionTimeout tinfo => { ss with alloc := turnPermissionClean ss.alloc tinfo }

/-- A UDP allocation from its creation on. Its timers may fire at any time. -/
def tableMachine (server : TurnServer) : Machine SuperSession TableEvent Unit where
  init ss := ss.isTcpRelay = false ∧ ss.alloc.isValid = true ∧ ss.alloc.addrToPerm = initAllocation.addrToPerm ∧
    ss.alloc.chns = initAllocation.chns
  enabled _ _ := True
  next ss ev := some (tableStep server ss ev, ())

theorem TablesKept.init (permissions : a.addrToPerm = initAllocation.addrToPerm)
    (channels : a.chns = initAllocation.chns) : TablesKept a := by
  have noPermission {tinfo : SlotRef} {info : TurnPermissionInfo} (known : a.addrToPerm.get tinfo = some info) :
      info = .zero := by
    rw [permissions] at known
    exact List.eq_of_mem_replicate (List.mem_of_getElem? known)
  have noChannel {chn : SlotRef} {ch : ChInfo} (known : a.chns.get chn = some ch) : ch = .zero := by
    rw [channels] at known
    exact List.eq_of_mem_replicate (List.mem_of_getElem? known)
  have noOwner {tinfo : SlotRef} {addr : IoaAddr} {m : Nat → Option SlotRef} :
      a.links.owners tinfo ≠ some (addr, m) := by
    intro owner
    obtain ⟨info, known, allocated, _⟩ := owner_eq_some.mp owner
    rw [noPermission known] at allocated
    cases allocated
  have noLink {chn : SlotRef} {link : Link SlotRef IoaAddr Nat UInt16} : a.links.links chn ≠ some link := by
    intro bound
    obtain ⟨ch, known, live, _⟩ := link_eq_some.mp bound
    rw [noChannel known] at live
    cases live
  refine ⟨?_, ?_, ?_⟩
  · intro tinfo info known
    rw [noPermission known]
    exact permissionPlaced_zero tinfo
  · intro chn ch known
    rw [noChannel known]
    exact channelPlaced_zero chn
  · exact ⟨fun owner => absurd owner noOwner, fun bound => absurd bound noLink, fun bound => absurd bound noLink,
      fun owner => absurd owner noOwner⟩

theorem tablesKept_of_reach {server : TurnServer} (reach : (tableMachine server).Reach (fun _ _ => True) ss) :
    TablesKept ss.alloc := by
  refine reach.invariant (P := fun ss => TablesKept ss.alloc) ?_ ?_
  · rintro ss ⟨_, _, permissions, channels⟩
    exact .init permissions channels
  · intro ss ss' ev o kept _ _ run
    cases Option.some.inj run
    cases ev with
    | channelBind env m => exact handleTurnChannelBind_kept server env kept m
    | createPermission env m => exact handleTurnCreatePermission_kept server env kept m
    | channelTimeout chn => exact kept.deleteChannel chn
    | permissionTimeout tinfo => exact kept.cleanPermission tinfo

/-- A slot of the channel table that is in use. -/
def LiveChannel (a : Allocation) (chn : SlotRef) (ch : ChInfo) : Prop := a.chns.get chn = some ch ∧ ch.allocated = true

def AllocatedPermission (a : Allocation) (tinfo : SlotRef) (info : TurnPermissionInfo) : Prop :=
  a.addrToPerm.get tinfo = some info ∧ info.allocated = true

/-- What the two tables owe to the rest of the server. -/
structure TablesConsistent (a : Allocation) : Prop where
  numbers : ∀ {chn₁ chn₂ ch₁ ch₂}, LiveChannel a chn₁ ch₁ → LiveChannel a chn₂ ch₂ → chn₁ ≠ chn₂ →
    ch₁.chnum ≠ ch₂.chnum
  range : ∀ {chn ch}, LiveChannel a chn ch → 0x4000 ≤ ch.chnum ∧ ch.chnum ≤ 0x7FFF
  family : ∀ {chn ch}, LiveChannel a chn ch → ch.peerAddr.family ≠ .unspec
  peers : ∀ {chn₁ chn₂ ch₁ ch₂}, LiveChannel a chn₁ ch₁ → LiveChannel a chn₂ ch₂ → chn₁ ≠ chn₂ →
    addrEq ch₁.peerAddr ch₂.peerAddr = false
  owner : ∀ {chn ch}, LiveChannel a chn ch → ∃ tinfo info, ch.owner = some tinfo ∧ AllocatedPermission a tinfo info ∧
    addrEqNoPort info.addr ch.peerAddr = true ∧ ch.port = addrGetPort ch.peerAddr ∧
    info.chns.get ch.port.toNat = some chn
  entries : ∀ {tinfo info}, AllocatedPermission a tinfo info → ∀ entry ∈ info.chns.values,
    ∃ ch, LiveChannel a entry.2 ch

theorem TablesKept.consistent (kept : TablesKept a) : TablesConsistent a := by
  have bound {chn : SlotRef} {ch : ChInfo} (live : LiveChannel a chn ch) : ∃ tinfo, ch.owner = some tinfo ∧
      a.links.links chn = some ⟨ch.chnum, ch.peerAddr, (addrGetPort ch.peerAddr).toNat, tinfo⟩ := by
    obtain ⟨tinfo, owner⟩ := Option.isSome_iff_exists.mp ((kept.channels live.1).owner.trans live.2)
    exact ⟨tinfo, owner, link_of_live live.1 live.2 owner⟩
  constructor
  · intro chn₁ chn₂ ch₁ ch₂ live₁ live₂ different same
    obtain ⟨_, _, link₁⟩ := bound live₁
    obtain ⟨_, _, link₂⟩ := bound live₂
    exact different (kept.linked.numbers link₁ link₂ same)
  · intro chn ch live
    have valid := (kept.channels live.1).valid live.2
    rw [stunValidChannel, Bool.and_eq_true, decide_eq_true_iff, decide_eq_true_iff] at valid
    exact valid
  · intro chn ch live unspec
    obtain ⟨port, nonzero⟩ := (kept.channels live.1).port live.2
    apply nonzero
    rw [port, addrGetPort, unspec]
  · intro chn₁ chn₂ ch₁ ch₂ live₁ live₂ different
    by_contra same
    rw [Bool.not_eq_false] at same
    obtain ⟨ip, port⟩ := addrEqNoPort_of_addrEq same
    obtain ⟨_, _, link₁⟩ := bound live₁
    obtain ⟨_, _, link₂⟩ := bound live₂
    exact different (kept.linked.peers addrEqNoPort_symm addrEqNoPort_trans link₁ link₂ ip (congrArg UInt16.toNat port))
  · intro chn ch live
    obtain ⟨tinfo, owner, link⟩ := bound live
    obtain ⟨port, _⟩ := (kept.channels live.1).port live.2
    obtain ⟨addr, m, owned, equal, entry⟩ := kept.linked.owned link
    obtain ⟨info, known, allocated, rfl, rfl⟩ := owner_eq_some.mp owned
    exact ⟨tinfo, info, owner, ⟨known, allocated⟩, equal, port, by rw [port]; exact entry⟩
  · rintro tinfo info ⟨known, allocated⟩ ⟨port, chn⟩ member
    have found := ((kept.permissions known).tidy allocated).mem_values.mp member
    obtain ⟨link, live, _⟩ := kept.linked.backed (owner_eq_some.mpr ⟨info, known, allocated, rfl, rfl⟩) found
    obtain ⟨ch, there, isLive, _⟩ := link_eq_some.mp live
    exact ⟨ch, there, isLive⟩

theorem tables_consistent {server : TurnServer} {ss : SuperSession}
    (reach : (tableMachine server).Reach (fun _ _ => True) ss) : TablesConsistent ss.alloc :=
  (tablesKept_of_reach reach).consistent

/-- An address as the value of an xor-ed attribute in a request of the example. -/
def examplePeer (ip : UInt32) (port : UInt16) : Attribute :=
  ⟨stunAttributeXorPeerAddress, (stunAddrEncode (.inet ip port) true (List.replicate stunTidSize 0)).getD []⟩

/-- A ChannelBind of 0x4000 to a peer. -/
def exampleChannelBind : Request :=
  .ofAttributes stunMethodChannelBind
    [⟨stunAttributeChannelNumber, [0x40, 0, 0, 0]⟩, examplePeer 0x0900000A (nswap16 4000)]

theorem exampleAllocated_init : (tableMachine exampleServer).init exampleAllocated.ss := ⟨rfl, rfl, rfl, rfl⟩

/-- With a channel in the tables. -/
theorem tables_consistent_bound :
    ∃ ss chn ch, (tableMachine exampleServer).Reach (fun _ _ => True) ss ∧ LiveChannel ss.alloc chn ch ∧
      ch.chnum = 0x4000 ∧ TablesConsistent ss.alloc := by
  have reach : (tableMachine exampleServer).Reach (fun _ _ => True)
      (tableStep exampleServer exampleAllocated.ss (.channelBind exampleEnv exampleChannelBind)) :=
    .next (.start exampleAllocated_init) trivial trivial rfl
  have live : ((tableStep exampleServer exampleAllocated.ss (.channelBind exampleEnv exampleChannelBind)).alloc.chns.get
      ⟨0, 0⟩).any (fun ch => ch.allocated && ch.chnum == 0x4000) = true := by decide +kernel
  rw [Option.any_eq_true] at live
  obtain ⟨ch, known, live⟩ := live
  rw [Bool.and_eq_true, beq_iff_eq] at live
  exact ⟨_, ⟨0, 0⟩, ch, reach, ⟨known, live.1⟩, live.2, tables_consistent reach⟩

end Server
end TurnCluster
