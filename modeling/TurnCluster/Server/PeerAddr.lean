import TurnCluster.Server.Permitted

namespace TurnCluster

/-- `ioa_addr_is_multicast`: by the first byte of the address. -/
def ioaAddrIsMulticast (addr : IoaAddr) : Bool :=
  match addr.family with
  | .inet => decide (223 < addr.ip4.toUInt8)
  | .inet6 => addr.ip6.headD 0 == 255
  | .unspec => false

/-- `ioa_addr_is_loopback`. For IPv6 it looks at the first eight bytes. -/
def ioaAddrIsLoopback (addr : IoaAddr) : Bool :=
  match addr.family with
  | .inet => addr.ip4.toUInt8 == 127
  | .inet6 => addr.ip6.getD 7 0 == 1 && (List.range 7).all (fun i => addr.ip6.getD i 0 == 0)
  | .unspec => false

def Family.saFamily : Family → Nat
  | .unspec => 0
  | .inet => 2
  | .inet6 => 10

/-- `addr_less_eq`; of two IPv6 addresses every byte is compared. -/
def addrLessEq (a b : IoaAddr) : Bool :=
  if a.family ≠ b.family then decide (a.family.saFamily < b.family.saFamily)
  else
    match a.family with
    | .inet => decide (nswap32 a.ip4 ≤ nswap32 b.ip4)
    | .inet6 => (List.range 16).all (fun i => decide (a.ip6.getD i 0 ≤ b.ip6.getD i 0))
    | .unspec => true

/-- An entry of a white or black list. -/
structure IpRange where
  realm : List UInt8
  min : IoaAddr
  max : IoaAddr

def ioaAddrInRange (range : IpRange) (addr : IoaAddr) : Bool :=
  (addrAny range.min || addrLessEq range.min addr) && (addrAny range.max || addrLessEq addr range.max)

/-- `CHECK_REALM`: an entry with a realm of its own is only for that realm. -/
def IpRange.appliesTo (range : IpRange) (realm : List UInt8) : Bool :=
  range.realm.isEmpty || realm.isEmpty || range.realm == realm

def listed (ranges : List IpRange) (realm : List UInt8) (addr : IoaAddr) : Bool :=
  ranges.reverse.any (fun range => range.appliesTo realm && ioaAddrInRange range addr)

namespace Server

/-- What `good_peer_addr` reads: the options of the server, its lists and those of its engine. -/
structure PeerChecks where
  noMulticastPeers : Bool
  allowLoopbackPeers : Bool
  ipWhitelist : List IpRange
  whitelist : List IpRange
  ipBlacklist : List IpRange
  blacklist : List IpRange

/-- The part of `good_peer_addr` behind the two classes of addresses. -/
def PeerChecks.listsAdmit (c : PeerChecks) (realm : List UInt8) (peerAddr : IoaAddr) : Bool :=
  if listed c.ipWhitelist realm peerAddr = true then true
  else if listed c.whitelist realm peerAddr = true then true
  else if listed c.ipBlacklist realm peerAddr = true then false
  else if listed c.blacklist realm peerAddr = true then false
  else true

def goodPeerAddr (c : PeerChecks) (realm : List UInt8) (peerAddr : IoaAddr) : Bool :=
  if c.noMulticastPeers = true ∧ ioaAddrIsMulticast peerAddr = true then false
  else if c.allowLoopbackPeers = false ∧ ioaAddrIsLoopback peerAddr = true then false
  else c.listsAdmit realm peerAddr

/-- The address ::1. -/
def ip6Loopback : List UInt8 := List.replicate 15 0 ++ [1]

/-- An address in 127.0.0.0/8 or 224.0.0.0/4, ::1, or one in ff00::/8. -/
def LoopbackOrMulticast (addr : IoaAddr) : Prop :=
  match addr.family with
  | .inet => addr.ip4.toUInt8 = 127 ∨ 224 ≤ addr.ip4.toUInt8 ∧ addr.ip4.toUInt8 ≤ 239
  | .inet6 => addr.ip6 = ip6Loopback ∨ addr.ip6.head? = some 255
  | .unspec => False

theorem LoopbackOrMulticast.congr {a b : IoaAddr} (same : addrEqNoPort a b = true) :
    LoopbackOrMulticast a ↔ LoopbackOrMulticast b := by
  unfold addrEqNoPort at same
  rw [Bool.and_eq_true, beq_iff_eq] at same
  obtain ⟨family, equal⟩ := same
  unfold LoopbackOrMulticast
  rw [← family]
  cases kind : a.family with
  | unspec => exact Iff.rfl
  | inet =>
    rw [kind] at equal
    rw [beq_iff_eq.mp equal]
  | inet6 =>
    rw [kind] at equal
    rw [beq_iff_eq.mp equal]

theorem LoopbackOrMulticast.setPort {addr : IoaAddr} (port : UInt16) :
    LoopbackOrMulticast (addrSetPort addr port) ↔ LoopbackOrMulticast addr := by
  unfold addrSetPort
  split <;> exact Iff.rfl

/-- Of these addresses only ::1 gets as far as the lists. -/
theorem not_loopbackOrMulticast_of_good {c : PeerChecks} {realm : List UInt8} {addr : IoaAddr}
    (noMulticast : c.noMulticastPeers = true) (noLoopback : c.allowLoopbackPeers = false)
    (denied : addr.family = .inet6 → addr.ip6 = ip6Loopback → c.listsAdmit realm addr = false)
    (good : goodPeerAddr c realm addr = true) : ¬ LoopbackOrMulticast addr := by
  unfold goodPeerAddr at good
  split at good
  · cases good
  · rename_i multicast
    split at good
    · cases good
    · rename_i loopback
      rw [not_and] at multicast loopback
      have multicast := multicast noMulticast
      have loopback := loopback noLoopback
      unfold LoopbackOrMulticast
      unfold ioaAddrIsMulticast at multicast
      unfold ioaAddrIsLoopback at loopback
      cases kind : addr.family with
      | unspec => exact fun none => none
      | inet =>
        rw [kind] at multicast loopback
        simp only [decide_eq_true_eq, beq_iff_eq] at multicast loopback
        rintro (own | ⟨above, _⟩)
        · exact loopback own
        · exact multicast (UInt8.lt_of_lt_of_le (by decide) above)
      | inet6 =>
        rw [kind] at multicast
        rintro (own | first)
        · rw [denied kind own] at good
          cases good
        · cases bytes : addr.ip6 with
          | nil =>
            rw [bytes] at first
            cases first
          | cons head rest =>
            rw [bytes] at first multicast
            cases Option.some.inj first
            exact multicast rfl

/-- A request or a timer of an allocation, with the rest of the session and the lists as they are then. -/
structure PeerEvent where
  ss : SuperSession
  checks : PeerChecks
  ev : TableEvent

/-- The requests of an event meet `good_peer_addr`. -/
def TableEvent.checkedBy (c : PeerChecks) : TableEvent → TableEvent
  | .channelBind env m => .channelBind { env with goodPeerAddr := goodPeerAddr c } m
  | .createPermission env m => .createPermission { env with goodPeerAddr := goodPeerAddr c } m
  | ev => ev

def TableEvent.request : TableEvent → Option Request
  | .channelBind _ m => some m
  | .createPermission _ m => some m
  | .channelTimeout _ => none
  | .permissionTimeout _ => none

def peerStep (server : TurnServer) (a : Allocation) (e : PeerEvent) : Allocation :=
  (tableStep server { e.ss with alloc := a } (e.ev.checkedBy e.checks)).alloc

/-- An allocation from its empty tables on, on a server that bars multicast and loopback peers. -/
def peerMachine (server : TurnServer) : Machine Allocation PeerEvent Unit where
  init a := a.addrToPerm = initAllocation.addrToPerm ∧ a.chns = initAllocation.chns
  enabled _ e := e.checks.noMulticastPeers = true ∧ e.checks.allowLoopbackPeers = false
  next a e := some (peerStep server a e, ())

structure PeersBarred (a : Allocation) : Prop where
  permissions : ∀ {tinfo info}, AllocatedPermission a tinfo info → ¬ LoopbackOrMulticast info.addr
  channels : ∀ {chn ch}, LiveChannel a chn ch → ¬ LoopbackOrMulticast ch.peerAddr

/-- The lists deny ::1 wherever a request names it as a peer. -/
def DeniesIp6Loopback (server : TurnServer) (_ : Allocation) (e : PeerEvent) : Prop :=
  ∀ m, e.ev.request = some m → ∀ addr, Lists server m addr → addr.family = .inet6 → addr.ip6 = ip6Loopback →
    e.checks.listsAdmit e.ss.realm.name addr = false

theorem peerStep_from {server : TurnServer} {a : Allocation} {e : PeerEvent}
    (bars : e.checks.noMulticastPeers = true ∧ e.checks.allowLoopbackPeers = false)
    (denies : DeniesIp6Loopback server a e) :
    PermissionsFrom (fun addr => ¬ LoopbackOrMulticast addr) a (peerStep server a e) := by
  obtain ⟨ss, checks, ev⟩ := e
  unfold peerStep
  cases ev with
  | channelBind env m =>
    obtain ⟨a', state, origin⟩ := handleTurnChannelBind_origin server { env with goodPeerAddr := goodPeerAddr checks }
      { ss with alloc := a } m
    show PermissionsFrom _ a (handleTurnChannelBind server _ { ss with alloc := a } m).1.alloc
    rw [state]
    refine origin.mono ?_
    rintro addr ⟨_, lists, good⟩
    exact not_loopbackOrMulticast_of_good bars.1 bars.2 (denies m rfl addr lists) good
  | createPermission env m =>
    obtain ⟨a', state, origin⟩ := handleTurnCreatePermission_origin server
      { env with goodPeerAddr := goodPeerAddr checks } { ss with alloc := a } m
    show PermissionsFrom _ a (handleTurnCreatePermission server _ { ss with alloc := a } m).1.alloc
    rw [state]
    refine origin.mono ?_
    rintro addr ⟨peer, rfl, lists, _, good⟩
    rw [LoopbackOrMulticast.setPort]
    exact not_loopbackOrMulticast_of_good bars.1 bars.2 (denies m rfl peer lists) good
  | channelTimeout chn => exact turnChannelDelete_from a chn
  | permissionTimeout tinfo => exact turnPermissionClean_from a tinfo

theorem peerStep_kept (server : TurnServer) {a : Allocation} (kept : TablesKept a) (e : PeerEvent) :
    TablesKept (peerStep server a e) := by
  obtain ⟨ss, checks, ev⟩ := e
  have keptHere : TablesKept { ss with alloc := a }.alloc := kept
  cases ev with
  | channelBind env m => exact handleTurnChannelBind_kept server _ keptHere m
  | createPermission env m => exact handleTurnCreatePermission_kept server _ keptHere m
  | channelTimeout chn => exact kept.deleteChannel chn
  | permissionTimeout tinfo => exact kept.cleanPermission tinfo

theorem no_loopback_or_multicast_peers {server : TurnServer} {a : Allocation}
    (reach : (peerMachine server).Reach (DeniesIp6Loopback server) a) : PeersBarred a := by
  have both : TablesKept a ∧ ∀ {tinfo info}, AllocatedPermission a tinfo info → ¬ LoopbackOrMulticast info.addr := by
    refine reach.invariant (P := fun a => TablesKept a ∧ ∀ {tinfo info}, AllocatedPermission a tinfo info →
      ¬ LoopbackOrMulticast info.addr) ?_ ?_
    · rintro a ⟨permissions, channels⟩
      refine ⟨.init permissions channels, ?_⟩
      rintro tinfo info ⟨known, allocated⟩
      rw [permissions] at known
      rw [List.eq_of_mem_replicate (List.mem_of_getElem? known)] at allocated
      cases allocated
    · rintro a a' e _ ⟨kept, barred⟩ bars denies run
      cases Option.some.inj run
      refine ⟨peerStep_kept server kept e, ?_⟩
      intro tinfo info after
      rcases peerStep_from bars denies tinfo info after with ⟨old, before, same⟩ | new
      · rw [← same]
        exact barred before
      · exact new
  obtain ⟨kept, barred⟩ := both
  refine ⟨barred, ?_⟩
  -- A channel hangs on a permission for the same IP.
  intro chn ch live
  obtain ⟨tinfo, info, _, permission, same, _⟩ := kept.consistent.owner live
  rw [← LoopbackOrMulticast.congr same]
  exact barred permission

/-- The default options, with no lists. -/
def exampleChecks : PeerChecks := ⟨true, false, [], [], [], []⟩

/-- A session with relays of both families. -/
def exampleRelays : SuperSession :=
  { exampleAllocated.ss with
    relay6 := { RelayEndpointSession.zero with s := some ⟨⟨.inet6, 49153, 0, List.replicate 16 1⟩, false, false⟩ } }

/-- A CreatePermission for one peer. -/
def examplePermits (peer : IoaAddr) : Request :=
  .ofAttributes stunMethodCreatePermission
    [⟨stunAttributeXorPeerAddress, (stunAddrEncode peer true (List.replicate stunTidSize 0)).getD []⟩]

def examplePermitted (peer : IoaAddr) : Allocation :=
  peerStep exampleServer { initAllocation with isValid := true }
    ⟨exampleRelays, exampleChecks, .createPermission exampleEnv (examplePermits peer)⟩

theorem examplePermitted_reached (peer : IoaAddr) {guard : Allocation → PeerEvent → Prop}
    (allowed : guard { initAllocation with isValid := true }
      ⟨exampleRelays, exampleChecks, .createPermission exampleEnv (examplePermits peer)⟩) :
    (peerMachine exampleServer).Reach guard (examplePermitted peer) := by
  have started : (peerMachine exampleServer).Reach guard { initAllocation with isValid := true } :=
    .start ⟨rfl, rfl⟩
  exact started.next (e := ⟨exampleRelays, exampleChecks, .createPermission exampleEnv (examplePermits peer)⟩)
    ⟨rfl, rfl⟩ allowed rfl

/-- With a permission for an IPv4 peer. -/
theorem no_loopback_or_multicast_peers_public : ∃ a tinfo info,
    (peerMachine exampleServer).Reach (DeniesIp6Loopback exampleServer) a ∧ AllocatedPermission a tinfo info ∧
      PeersBarred a := by
  have reach : (peerMachine exampleServer).Reach (DeniesIp6Loopback exampleServer)
      (examplePermitted (.inet 0x0900000A 5)) := by
    refine examplePermitted_reached _ ?_
    have none : ∀ attr ∈ (examplePermits (.inet 0x0900000A 5)).attrs, attr.attrType = stunAttributeXorPeerAddress →
        (attr.addr exampleServer.mapping (examplePermits (.inet 0x0900000A 5)).tid).family ≠ .inet6 := by decide +kernel
    rintro m same addr ⟨attr, member, peer, rfl⟩ family
    cases Option.some.inj same
    exact absurd family (none attr member peer)
  have inUse : ((examplePermitted (.inet 0x0900000A 5)).addrToPerm.get ⟨5, 0⟩).any
      TurnPermissionInfo.allocated = true := by
    decide +kernel
  obtain ⟨info, known, allocated⟩ := (Option.any_eq_true _ _).mp inUse
  exact ⟨_, ⟨5, 0⟩, info, reach, ⟨known, allocated⟩, no_loopback_or_multicast_peers reach⟩

/-- A permission for ::1, of which `ioa_addr_is_loopback` reads the wrong byte. -/
theorem ip6_loopback_permitted : ¬ ∀ (server : TurnServer) (a : Allocation),
    (peerMachine server).Reach (fun _ _ => True) a → PeersBarred a := by
  intro claimed
  have barred := claimed exampleServer _ (examplePermitted_reached ⟨.inet6, 5, 0, ip6Loopback⟩ trivial)
  have inUse : ((examplePermitted ⟨.inet6, 5, 0, ip6Loopback⟩).addrToPerm.get ⟨0, 0⟩).any
      (fun info => info.allocated && info.addr.family == .inet6 && info.addr.ip6 == ip6Loopback) = true := by
    decide +kernel
  obtain ⟨info, known, inUse⟩ := (Option.any_eq_true _ _).mp inUse
  rw [Bool.and_eq_true, Bool.and_eq_true, beq_iff_eq, beq_iff_eq] at inUse
  obtain ⟨⟨allocated, family⟩, own⟩ := inUse
  refine barred.permissions ⟨known, allocated⟩ ?_
  unfold LoopbackOrMulticast
  rw [family]
  exact Or.inl own

end Server
end TurnCluster
