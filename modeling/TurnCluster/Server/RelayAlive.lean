import TurnCluster.Server.Expiry
import TurnCluster.Server.Permitted

namespace TurnCluster
namespace Server

/-- A session with an allocation, and the time of its last event. -/
structure RelayWorld where
  node : Node
  clock : Nat

inductive RelayEvent
  | channelBind (env : Env) (m : Request)
  | createPermission (env : Env) (m : Request)
  | refresh (env : Env) (m : Request) (canResume : Bool)
  | relayTimeout (now : Nat) (family : Family)
  | channelTimeout (now : Nat) (chn : SlotRef)
  | permissionTimeout (now : Nat) (tinfo : SlotRef)

namespace RelayEvent

def time : RelayEvent → Nat
  | .channelBind env _ => env.ctime
  | .createPermission env _ => env.ctime
  | .refresh env _ _ => env.ctime
  | .relayTimeout now _ => now
  | .channelTimeout now _ => now
  | .permissionTimeout now _ => now

/-- A timer fires when its time has come. The timer of a relay session may be kept by the other one, which is of the
family of its socket. -/
def Due (ss : SuperSession) : RelayEvent → Prop
  | .relayTimeout now family => family ≠ .unspec ∧ ∃ t, (t ∈ ss.relay4.lifetimeEv ∨ t ∈ ss.relay6.lifetimeEv) ∧ t ≤ now
  | .channelTimeout now chn => ∃ ch ∈ ss.alloc.chns.get chn, ∃ t ∈ ch.lifetimeEv, t ≤ now
  | .permissionTimeout now tinfo => ∃ info ∈ ss.alloc.addrToPerm.get tinfo, ∃ t ∈ info.lifetimeEv, t ≤ now
  | _ => True

end RelayEvent

def relayStep (server : TurnServer) (node : Node) : RelayEvent → Option Node
  | .channelBind env m => some { node with ss := (handleTurnChannelBind server env node.ss m).1 }
  | .createPermission env m => some { node with ss := (handleTurnCreatePermission server env node.ss m).1 }
  | .refresh env m canResume => some (handleTurnRefresh server env node m canResume).node
  | .relayTimeout _ family =>
    (clientSsAllocationTimeoutHandler node.ss family).map (fun result => { node with ss := result.1 })
  | .channelTimeout _ chn => some { node with ss := { node.ss with alloc := turnChannelDelete node.ss.alloc chn } }
  | .permissionTimeout _ tinfo =>
    some { node with ss := { node.ss with alloc := turnPermissionClean node.ss.alloc tinfo } }

/-- A valid allocation of one or two families, from its empty tables on. -/
def relayMachine (server : TurnServer) : Machine RelayWorld RelayEvent Unit where
  init s := s.node.ss.alloc.isValid = true ∧ s.node.ss.alloc.addrToPerm = initAllocation.addrToPerm ∧
    s.node.ss.alloc.chns = initAllocation.chns
  enabled s ev := s.node.ss.alloc.isValid = true ∧ s.clock ≤ ev.time ∧ ev.Due s.node.ss
  next s ev := (relayStep server s.node ev).map (fun node => (⟨node, ev.time⟩, ()))

/-- Every peer in use has a relay socket of its family, so that what is written to it has one to go out by. -/
structure RelaysAlive (ss : SuperSession) : Prop where
  permissions : ∀ {tinfo info}, AllocatedPermission ss.alloc tinfo info → info.addr.family ≠ .unspec →
    (getRelaySession ss info.addr.family).s.isSome = true
  channels : ∀ {chn ch}, LiveChannel ss.alloc chn ch → (getRelaySession ss ch.peerAddr.family).s.isSome = true
  written : ∀ {chnum chn ch}, allocationGetChInfo ss.alloc chnum = some chn → ss.alloc.chns.get chn = some ch →
    (getRelaySession ss ch.peerAddr.family).s.isSome = true
  sent : ∀ {peerAddr tinfo}, allocationGetPermission ss.alloc peerAddr = some tinfo →
    (getRelaySession ss peerAddr.family).s.isSome = true

/-- A relay socket expires when no permission in use is for the family that it closes, which is its own, or as the last
one of the allocation. -/
def ExpiresUnused (s : RelayWorld) : RelayEvent → Prop
  | .relayTimeout _ family => ∀ relay, (getRelaySession s.node.ss family).s = some relay →
    (∀ tinfo info, AllocatedPermission s.node.ss.alloc tinfo info → info.addr.family ≠ .unspec →
      ¬ SameIndex info.addr.family relay.localAddr.family) ∨
      family = .inet ∧ relay.localAddr.family ≠ .inet6 ∧ s.node.ss.relay6.s = none ∧ s.node.ss.isMobile = false
  | _ => True

/-- What every step keeps. -/
structure PeersRelayed (ss : SuperSession) : Prop where
  tables : TablesKept ss.alloc
  relayed : ∀ tinfo info, AllocatedPermission ss.alloc tinfo info → info.addr.family ≠ .unspec →
    (getRelaySession ss info.addr.family).s.isSome = true

variable {ss ss' : SuperSession} (server : TurnServer) (env : Env) {family : Family}

theorem PeersRelayed.alive (kept : PeersRelayed ss) : RelaysAlive ss := by
  have consistent := kept.tables.consistent
  have channels {chn : SlotRef} {ch : ChInfo} (live : LiveChannel ss.alloc chn ch) :
      (getRelaySession ss ch.peerAddr.family).s.isSome = true := by
    obtain ⟨tinfo, info, _, permission, same, _⟩ := consistent.owner live
    obtain ⟨known, family, _⟩ := addrEqNoPort_iff.mp same
    rw [← family]
    exact kept.relayed tinfo info permission known
  refine ⟨fun permission known => kept.relayed _ _ permission known, channels, ?_, ?_⟩
  · intro chnum chn ch found known
    obtain ⟨_, ch', _, known', passes⟩ := SlotTable.find_some found
    cases known.symm.trans known'
    rw [Bool.and_eq_true] at passes
    exact channels ⟨known, passes.1⟩
  · intro peerAddr tinfo found
    obtain ⟨_, info, _, known, passes⟩ := SlotTable.find_some found
    rw [Bool.and_eq_true] at passes
    obtain ⟨family, same, _⟩ := addrEqNoPort_iff.mp passes.2
    rw [← same]
    exact kept.relayed tinfo info ⟨known, passes.1⟩ family

theorem PeersRelayed.withTables (kept : PeersRelayed ss) {a' : Allocation} (tables : TablesKept a')
    (origin : PermissionsFrom (fun addr => (getRelaySession ss addr.family).s.isSome = true) ss.alloc a') :
    PeersRelayed { ss with alloc := a' } := by
  refine ⟨tables, ?_⟩
  intro tinfo info after known
  show (getRelaySession ss info.addr.family).s.isSome = true
  rcases origin tinfo info after with ⟨old, before, same⟩ | new
  · rw [← same] at known ⊢
    exact kept.relayed tinfo old before known
  · exact new

/-- The same tables and the same relay sockets. -/
structure SameRelays (ss ss' : SuperSession) : Prop where
  alloc : ss'.alloc = ss.alloc
  four : ss'.relay4.s = ss.relay4.s
  six : ss'.relay6.s = ss.relay6.s

theorem SameRelays.trans {ss₁ : SuperSession} (first : SameRelays ss ss₁) (second : SameRelays ss₁ ss') :
    SameRelays ss ss' :=
  ⟨second.alloc.trans first.alloc, second.four.trans first.four, second.six.trans first.six⟩

theorem SameRelays.relay (same : SameRelays ss ss') (family : Family) :
    (getRelaySession ss' family).s = (getRelaySession ss family).s := by
  cases family with
  | unspec => exact same.four
  | inet => exact same.four
  | inet6 => exact same.six

theorem SameRelays.kept (same : SameRelays ss ss') (kept : PeersRelayed ss) : PeersRelayed ss' := by
  refine ⟨same.alloc ▸ kept.tables, ?_⟩
  intro tinfo info permission known
  rw [same.alloc] at permission
  rw [same.relay]
  exact kept.relayed tinfo info permission known

theorem refreshRelayConnection_same {env : Env} {lifetime : Nat}
    (refreshed : refreshRelayConnection env ss lifetime family = some ss') : SameRelays ss ss' := by
  unfold refreshRelayConnection at refreshed
  split at refreshed
  · cases Option.some.inj refreshed
    cases family with
    | unspec => exact ⟨rfl, rfl, rfl⟩
    | inet => exact ⟨rfl, rfl, rfl⟩
    | inet6 => exact ⟨rfl, rfl, rfl⟩
  · cases refreshed

theorem refreshSix_same (ss : SuperSession) (lifetime : Nat) (af6 : Bool) :
    SameRelays ss (refreshFamilies.refreshSix env ss lifetime af6).1 := by
  unfold refreshFamilies.refreshSix
  split
  · exact ⟨rfl, rfl, rfl⟩
  · exact ⟨rfl, rfl, rfl⟩
  · rename_i ss' refreshed
    exact refreshRelayConnection_same refreshed

theorem refreshFamilies_same (ss : SuperSession) (lifetime : Nat) (af4 af6 : Bool) :
    SameRelays ss (refreshFamilies env ss lifetime af4 af6).1 := by
  unfold refreshFamilies
  split
  · exact ⟨rfl, rfl, rfl⟩
  · exact refreshSix_same env ss lifetime af6
  · rename_i ss' refreshed
    exact (refreshRelayConnection_same refreshed).trans (refreshSix_same env ss' lifetime af6)

theorem handleTurnRefresh_same (node : Node) (m : Request) (canResume : Bool) (valid : node.ss.alloc.isValid = true) :
    SameRelays node.ss (handleTurnRefresh server env node m canResume).node.ss := by
  have alike : SameRelays node.ss node.ss := ⟨rfl, rfl, rfl⟩
  unfold handleTurnRefresh
  dsimp only
  split
  · exact alike
  · unfold refreshChecked
    split
    · exact alike
    · split
      · exact alike
      · rw [if_neg (by rw [valid]; decide)]
        unfold refreshOwn
        dsimp only
        split
        · exact refreshFamilies_same ..
        · exact refreshFamilies_same ..

theorem clearAllocation_relayed (ss : SuperSession) : PeersRelayed (clearAllocation ss) := by
  refine ⟨.init rfl rfl, ?_⟩
  rintro tinfo info ⟨known, allocated⟩
  rw [List.eq_of_mem_replicate (List.mem_of_getElem? known)] at allocated
  cases allocated

theorem shutdownClientConnection_relayed (kept : PeersRelayed ss) (force : Bool) :
    PeersRelayed (shutdownClientConnection ss force) := by
  unfold shutdownClientConnection
  dsimp only
  split
  · have same : SameRelays ss { decQuota ss with bps := 0, client := none } := ⟨rfl, rfl, rfl⟩
    exact same.kept kept
  · exact clearAllocation_relayed _

theorem relay_of_setAllocationFamilyInvalid {closed : Family} (other : ¬ SameIndex family closed) :
    getRelaySession (setAllocationFamilyInvalid ss closed) family = getRelaySession ss family := by
  unfold setAllocationFamilyInvalid
  split
  · cases closed <;> cases family <;> first | rfl | exact absurd (by decide) other
  · rfl

theorem setAllocationFamilyInvalid_alloc (ss : SuperSession) (family : Family) :
    (setAllocationFamilyInvalid ss family).alloc = ss.alloc := by
  unfold setAllocationFamilyInvalid
  split
  · cases family <;> rfl
  · rfl

theorem PeersRelayed.withoutFamily (kept : PeersRelayed ss)
    (unused : ∀ tinfo info, AllocatedPermission ss.alloc tinfo info → info.addr.family ≠ .unspec →
      ¬ SameIndex info.addr.family family) : PeersRelayed (setAllocationFamilyInvalid ss family) := by
  have alloc := setAllocationFamilyInvalid_alloc ss family
  refine ⟨alloc ▸ kept.tables, ?_⟩
  intro tinfo info permission known
  rw [alloc] at permission
  rw [relay_of_setAllocationFamilyInvalid (unused tinfo info permission known)]
  exact kept.relayed tinfo info permission known

theorem PeersRelayed.expire {s : RelayWorld} {nbh : Option StunBuffer} {now : Nat} (kept : PeersRelayed s.node.ss)
    (unused : ExpiresUnused s (.relayTimeout now family))
    (handled : clientSsAllocationTimeoutHandler s.node.ss family = some (ss', nbh)) : PeersRelayed ss' := by
  unfold clientSsAllocationTimeoutHandler at handled
  split at handled
  · cases Option.some.inj handled
    exact kept
  · rename_i relay open'
    split at handled
    · cases handled
    · dsimp only at handled
      rcases unused relay open' with unused | ⟨rfl, four, closed, fixed⟩
      · have left := kept.withoutFamily unused
        split at handled
        · cases Option.some.inj handled
          exact shutdownClientConnection_relayed left false
        · cases Option.some.inj handled
          exact left
      · -- The last relay socket of a session that is not mobile takes the allocation with it.
        have expired : setAllocationFamilyInvalid s.node.ss relay.localAddr.family =
            { s.node.ss with relay4 := clearRelayEndpointSessionData s.node.ss.relay4 } := by
          have first : getRelaySession s.node.ss relay.localAddr.family = s.node.ss.relay4 := by
            cases own : relay.localAddr.family <;> first | rfl | exact absurd own four
          unfold setAllocationFamilyInvalid
          rw [first, show s.node.ss.relay4.s = some relay from open', if_pos Option.isSome_some]
          cases own : relay.localAddr.family <;> first | rfl | exact absurd own four
        rw [expired, if_pos ⟨rfl, closed⟩] at handled
        cases Option.some.inj handled
        unfold shutdownClientConnection
        dsimp only
        rw [if_neg (by rintro ⟨_, _, mobile⟩; rw [fixed] at mobile; cases mobile)]
        exact clearAllocation_relayed _

theorem peersRelayed_of_reach {server : TurnServer} {s : RelayWorld}
    (reach : (relayMachine server).Reach ExpiresUnused s) : PeersRelayed s.node.ss := by
  refine reach.invariant (P := fun s => PeersRelayed s.node.ss) ?_ ?_
  · rintro s ⟨_, permissions, channels⟩
    refine ⟨.init permissions channels, ?_⟩
    rintro tinfo info ⟨known, allocated⟩
    rw [permissions] at known
    rw [List.eq_of_mem_replicate (List.mem_of_getElem? known)] at allocated
    cases allocated
  · rintro s s' ev o kept ⟨valid, _⟩ unused run
    obtain ⟨node, stepped, same⟩ := Option.map_eq_some_iff.mp run
    obtain ⟨rfl, _⟩ := Prod.ext_iff.mp same
    cases ev with
    | channelBind env m =>
      cases Option.some.inj stepped
      obtain ⟨a', state, origin⟩ := handleTurnChannelBind_from server env s.node.ss m
      have tables := handleTurnChannelBind_kept server env kept.tables m
      dsimp only
      rw [state] at tables ⊢
      exact kept.withTables tables origin
    | createPermission env m =>
      cases Option.some.inj stepped
      obtain ⟨a', state, origin⟩ := handleTurnCreatePermission_from server env s.node.ss m
      have tables := handleTurnCreatePermission_kept server env kept.tables m
      dsimp only
      rw [state] at tables ⊢
      exact kept.withTables tables origin
    | refresh env m canResume =>
      cases Option.some.inj stepped
      exact (handleTurnRefresh_same server env s.node m canResume valid).kept kept
    | relayTimeout now family =>
      obtain ⟨result, handled, rfl⟩ := Option.map_eq_some_iff.mp stepped
      exact kept.expire unused handled
    | channelTimeout now chn =>
      cases Option.some.inj stepped
      exact kept.withTables (kept.tables.deleteChannel chn) (turnChannelDelete_from _ chn)
    | permissionTimeout now tinfo =>
      cases Option.some.inj stepped
      exact kept.withTables (kept.tables.cleanPermission tinfo) (turnPermissionClean_from _ tinfo)

/-- As long as no relay socket expires before the permissions of its family, every peer in use has one. -/
theorem live_peers_have_relay {server : TurnServer} {s : RelayWorld}
    (reach : (relayMachine server).Reach ExpiresUnused s) : RelaysAlive s.node.ss :=
  (peersRelayed_of_reach reach).alive

def exampleDualWorld : RelayWorld := ⟨{ exampleAllocated with ss := exampleDual }, 600⟩

theorem exampleDualWorld_init : (relayMachine server).init exampleDualWorld :=
  ⟨rfl, rfl, rfl⟩

/-- A CreatePermission for an IPv6 peer. -/
def exampleSixPeer : Request :=
  .ofAttributes stunMethodCreatePermission [⟨stunAttributeXorPeerAddress, [0, 2, 1, 2] ++ List.replicate 16 5⟩]

def exampleLateEnv : Env := { exampleEnv with ctime := 650 }

theorem exampleDualWorld_permits (m : Request) (server : TurnServer) (guard : RelayWorld → RelayEvent → Prop)
    (allowed : guard exampleDualWorld (.createPermission exampleLateEnv m)) :
    ∃ a', (handleTurnCreatePermission server exampleLateEnv exampleDual m).1.alloc = a' ∧
      (relayMachine server).Reach guard ⟨{ exampleAllocated with ss := { exampleDual with alloc := a' } }, 650⟩ := by
  obtain ⟨a', state, _⟩ := handleTurnCreatePermission_from server exampleLateEnv exampleDual m
  refine ⟨a', by rw [state], ?_⟩
  have stepped : (relayMachine server).next exampleDualWorld (.createPermission exampleLateEnv m) =
      some (⟨{ exampleAllocated with ss := { exampleDual with alloc := a' } }, 650⟩, ()) := by
    rw [← state]
    rfl
  have time : exampleDualWorld.clock ≤ 650 := by decide
  exact .next (e := .createPermission exampleLateEnv m) (.start (exampleDualWorld_init server)) ⟨rfl, time, trivial⟩
    allowed stepped

/-- A permission for an IPv4 peer of a dual allocation. -/
theorem live_peers_have_relay_dual :
    ∃ s, (relayMachine exampleServer).Reach ExpiresUnused s ∧ (∃ tinfo info, AllocatedPermission s.node.ss.alloc tinfo info) ∧
      RelaysAlive s.node.ss := by
  obtain ⟨a', alloc, reach⟩ := exampleDualWorld_permits exampleCreatePermission exampleServer ExpiresUnused trivial
  have permits : ∃ row ∈ List.range turnPermissionHashtableSize, ((handleTurnCreatePermission exampleServer exampleLateEnv
      exampleDual exampleCreatePermission).1.alloc.addrToPerm.get ⟨row, 0⟩).any TurnPermissionInfo.allocated = true := by
    decide +kernel
  rw [alloc] at permits
  obtain ⟨row, _, inUse⟩ := permits
  rw [Option.any_eq_true] at inUse
  obtain ⟨info, known, allocated⟩ := inUse
  exact ⟨_, reach, ⟨⟨row, 0⟩, info, known, allocated⟩, live_peers_have_relay reach⟩

/-- The IPv6 relay of a dual allocation expires before the permission of an IPv6 peer. -/
theorem expired_relay_leaves_permission :
    ¬ ∀ (server : TurnServer) (s : RelayWorld), (relayMachine server).Reach (fun _ _ => True) s →
      s.node.ss.alloc.isValid = true → RelaysAlive s.node.ss := by
  intro claimed
  obtain ⟨a', alloc, reach⟩ := exampleDualWorld_permits exampleSixPeer exampleServer (fun _ _ => True) trivial
  have permits : (handleTurnCreatePermission exampleServer exampleLateEnv exampleDual exampleSixPeer).1.alloc.isValid = true ∧
      ∃ row ∈ List.range turnPermissionHashtableSize, ((handleTurnCreatePermission exampleServer exampleLateEnv
        exampleDual exampleSixPeer).1.alloc.addrToPerm.get ⟨row, 0⟩).any
          (fun info => info.allocated && info.addr.family == .inet6) = true := by
    decide +kernel
  rw [alloc] at permits
  obtain ⟨valid, row, _, inUse⟩ := permits
  rw [Option.any_eq_true] at inUse
  obtain ⟨info, known, inUse⟩ := inUse
  rw [Bool.and_eq_true, beq_iff_eq] at inUse
  obtain ⟨allocated, family⟩ := inUse
  have expired : (relayMachine exampleServer).Reach (fun _ _ => True)
      ⟨{ exampleAllocated with ss := { exampleDual with
        alloc := a', relay6 := clearRelayEndpointSessionData exampleDual.relay6 } }, 700⟩ :=
    .next reach (e := .relayTimeout 700 .inet6)
      ⟨valid, Nat.le_add_right 650 50, Family.noConfusion, 700, Or.inr rfl, Nat.le_refl 700⟩ trivial rfl
  have relay := (claimed _ _ expired valid).permissions ⟨known, allocated⟩ (by rw [family]; decide)
  rw [family] at relay
  cases relay

end Server
end TurnCluster
