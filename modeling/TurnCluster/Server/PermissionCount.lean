import Mathlib.Data.List.Dedup
import Mathlib.Data.List.Perm.Subperm
import TurnCluster.Server.Permitted

namespace TurnCluster
namespace Server

/-- The peers of a request that can be decoded. -/
def decodablePeers (server : TurnServer) (m : Request) : List IoaAddr :=
  ((m.attrs.filter (fun a => a.attrType == stunAttributeXorPeerAddress)).map
    (fun a => a.addr server.mapping m.tid)).filter (fun addr => addr.family != .unspec)

variable {server : TurnServer} {s : PermissionHistory} {m : Request} {addr : IoaAddr}

theorem mem_decodablePeers : addr ∈ decodablePeers server m ↔ Lists server m addr ∧ addr.family ≠ .unspec := by
  simp [decodablePeers, Lists, and_assoc]

/-- An allocation among its CreatePermission requests, with all peers they asked for. -/
structure PermissionHistory where
  ss : SuperSession
  requested : List IoaAddr

inductive PermissionEvent
  | request (env : Env) (m : Request)
  | timeout (tinfo : SlotRef)

def PermissionHistory.step (server : TurnServer) (s : PermissionHistory) : PermissionEvent → PermissionHistory
  | .request env m => ⟨(handleTurnCreatePermission server env s.ss m).1, decodablePeers server m ++ s.requested⟩
  | .timeout tinfo => ⟨{ s.ss with alloc := turnPermissionClean s.ss.alloc tinfo }, s.requested⟩

def permissionMachine (server : TurnServer) : Machine PermissionHistory PermissionEvent Unit where
  init s := s.ss.alloc.isValid = true ∧ s.ss.alloc.addrToPerm = initAllocation.addrToPerm ∧
    s.ss.alloc.chns = initAllocation.chns ∧ s.requested = []
  enabled _ _ := True
  next s ev := some (s.step server ev, ())

/-- The slots of the permission table that are in use. -/
def allocatedSlots (a : Allocation) : List SlotRef :=
  ((List.range turnPermissionHashtableSize).flatMap (fun row =>
    (List.range (a.addrToPerm row).length).map (SlotRef.mk row))).filter
      (fun tinfo => (a.addrToPerm.get tinfo).any TurnPermissionInfo.allocated)

def distinctIps (addrs : List IoaAddr) : List (Family × UInt32 × List UInt8) := (addrs.map ipKey).dedup

/-- Every permission in use is for a peer that was asked for, and each for another IP. -/
structure PeersKept (a : Allocation) (requested : List IoaAddr) : Prop where
  family : ∀ {tinfo info}, AllocatedPermission a tinfo info → info.addr.family = .inet ∨ info.addr.family = .inet6
  distinct : ∀ {tinfo₁ tinfo₂ info₁ info₂}, AllocatedPermission a tinfo₁ info₁ → AllocatedPermission a tinfo₂ info₂ →
    tinfo₁ ≠ tinfo₂ → ipKey info₁.addr ≠ ipKey info₂.addr
  bounded : (allocatedSlots a).length ≤ (distinctIps requested).length

/-- A peer that cannot be decoded has no relay socket to meet, or is refused for its zero address. -/
def RefusesUndecodable (server : TurnServer) (s : PermissionHistory) : PermissionEvent → Prop
  | .request env m => ∀ addr, Lists server m addr → addr.family = .unspec →
      s.ss.relay4.s = none ∨ env.goodPeerAddr s.ss.realm.name addr = false
  | .timeout _ => True

/-- What every step keeps: the tables, and where their addresses come from. -/
structure PeersTraced (s : PermissionHistory) : Prop where
  tables : TablesKept s.ss.alloc
  traced : ∀ {tinfo info}, AllocatedPermission s.ss.alloc tinfo info →
    ∃ peer ∈ s.requested, addrEqNoPort info.addr peer = true

theorem mem_allocatedSlots {a : Allocation} {tinfo : SlotRef} (member : tinfo ∈ allocatedSlots a) :
    ∃ info, AllocatedPermission a tinfo info := by
  have inUse := (List.mem_filter.mp member).2
  rw [Option.any_eq_true] at inUse
  obtain ⟨info, known, allocated⟩ := inUse
  exact ⟨info, known, allocated⟩

theorem allocatedSlots_nodup (a : Allocation) : (allocatedSlots a).Nodup := by
  refine List.Nodup.filter _ (List.nodup_flatMap.mpr ⟨?_, ?_⟩)
  · intro row _
    refine List.Nodup.map ?_ List.nodup_range
    intro slot slot' same
    exact (SlotRef.mk.inj same).2
  · refine List.nodup_range.imp ?_
    intro row row' different
    refine List.disjoint_left.mpr ?_
    intro tinfo inRow inRow'
    obtain ⟨_, _, rfl⟩ := List.mem_map.mp inRow
    obtain ⟨_, _, same⟩ := List.mem_map.mp inRow'
    exact different (SlotRef.mk.inj same).1.symm

theorem PeersTraced.peersKept (traced : PeersTraced s) : PeersKept s.ss.alloc s.requested := by
  have known {tinfo : SlotRef} {info : TurnPermissionInfo} (allocated : AllocatedPermission s.ss.alloc tinfo info) :
      info.addr.family ≠ .unspec ∧ ipKey info.addr ∈ distinctIps s.requested := by
    obtain ⟨peer, member, same⟩ := traced.traced allocated
    obtain ⟨family, key⟩ := addrEqNoPort_iff_ipKey.mp same
    refine ⟨family, ?_⟩
    rw [distinctIps, List.mem_dedup, key]
    exact List.mem_map_of_mem member
  have distinct {tinfo₁ tinfo₂ : SlotRef} {info₁ info₂ : TurnPermissionInfo}
      (first : AllocatedPermission s.ss.alloc tinfo₁ info₁) (second : AllocatedPermission s.ss.alloc tinfo₂ info₂)
      (same : ipKey info₁.addr = ipKey info₂.addr) : tinfo₁ = tinfo₂ :=
    traced.tables.linked.addrs (owner_eq_some.mpr ⟨info₁, first.1, first.2, rfl, rfl⟩)
      (owner_eq_some.mpr ⟨info₂, second.1, second.2, rfl, rfl⟩) (addrEqNoPort_iff_ipKey.mpr ⟨(known first).1, same⟩)
  refine ⟨?_, fun first second different same => different (distinct first second same), ?_⟩
  · intro tinfo info allocated
    cases family : info.addr.family with
    | unspec => exact absurd family (known allocated).1
    | inet => exact Or.inl rfl
    | inet6 => exact Or.inr rfl
  · -- The slots go one to one into the IPs that were asked for.
    let ip (tinfo : SlotRef) := (s.ss.alloc.addrToPerm.get tinfo).map (fun info => ipKey info.addr)
    have nodup : ((allocatedSlots s.ss.alloc).map ip).Nodup := by
      refine List.Nodup.map_on ?_ (allocatedSlots_nodup _)
      intro tinfo₁ member₁ tinfo₂ member₂ same
      obtain ⟨info₁, first⟩ := mem_allocatedSlots member₁
      obtain ⟨info₂, second⟩ := mem_allocatedSlots member₂
      simp only [ip, first.1, second.1, Option.map_some, Option.some.injEq] at same
      exact distinct first second same
    have subset : (allocatedSlots s.ss.alloc).map ip ⊆ (distinctIps s.requested).map some := by
      intro key member
      obtain ⟨tinfo, inUse, rfl⟩ := List.mem_map.mp member
      obtain ⟨info, allocated⟩ := mem_allocatedSlots inUse
      simp only [ip, allocated.1, Option.map_some]
      exact List.mem_map_of_mem (known allocated).2
    have counted := (List.subperm_of_subset nodup subset).length_le
    rwa [List.length_map, List.length_map] at counted

theorem PeersTraced.init (permissions : s.ss.alloc.addrToPerm = initAllocation.addrToPerm)
    (channels : s.ss.alloc.chns = initAllocation.chns) : PeersTraced s := by
  refine ⟨.init permissions channels, ?_⟩
  rintro tinfo info ⟨known, allocated⟩
  rw [permissions] at known
  rw [List.eq_of_mem_replicate (List.mem_of_getElem? known)] at allocated
  cases allocated

/-- Where every peer that cannot be decoded is refused, an accepted request has none. -/
theorem decodes_of_accepted {env : Env} (refuses : RefusesUndecodable server s (.request env m))
    (accepted : ∀ a ∈ m.attrs, PermissionScan.Accepts server env s.ss m.tid a) (lists : Lists server m addr) :
    addr.family ≠ .unspec := by
  intro unspec
  obtain ⟨relay, good⟩ := PermissionScan.Accepts.peer accepted lists
  rcases refuses addr lists unspec with closed | forbidden
  · rw [unspec] at relay
    change s.ss.relay4.s.isSome = true at relay
    rw [closed] at relay
    cases relay
  · rw [forbidden] at good
    cases good

theorem PeersTraced.step {s' : PermissionHistory} (traced : PeersTraced s) (tables : TablesKept s'.ss.alloc)
    (earlier : s.requested ⊆ s'.requested)
    (origin : PermissionsFrom (fun addr => ∃ peer ∈ s'.requested, addrEqNoPort addr peer = true) s.ss.alloc
      s'.ss.alloc) : PeersTraced s' := by
  refine ⟨tables, ?_⟩
  intro tinfo info after
  rcases origin tinfo info after with ⟨old, before, addr⟩ | new
  · obtain ⟨peer, member, same⟩ := traced.traced before
    exact ⟨peer, earlier member, addr ▸ same⟩
  · exact new

theorem PeersTraced.request {env : Env} (traced : PeersTraced s)
    (refuses : RefusesUndecodable server s (.request env m)) : PeersTraced (s.step server (.request env m)) := by
  refine traced.step (handleTurnCreatePermission_kept server env traced.tables m) (List.subset_append_right _ _) ?_
  show PermissionsFrom _ s.ss.alloc (handleTurnCreatePermission server env s.ss m).1.alloc
  rcases createPermission_cases server env s.ss m with ⟨same, _⟩ | ⟨accepted, _, state, _⟩
  · rw [same]
    exact .same rfl
  · rw [state]
    refine (updatePermissions_from server env m.tid s.ss.alloc false m.attrs).mono ?_
    rintro addr ⟨attr, member, type, rfl⟩
    have lists : Lists server m (attr.addr server.mapping m.tid) := ⟨attr, member, type, rfl⟩
    have family := decodes_of_accepted refuses accepted lists
    refine ⟨_, List.mem_append_left _ (mem_decodablePeers.mpr ⟨lists, family⟩), addrEqNoPort_symm ?_⟩
    rw [addrEqNoPort_setPort]
    exact addrEqNoPort_self family

theorem peersTraced_of_reach (reach : (permissionMachine server).Reach (RefusesUndecodable server) s) :
    PeersTraced s := by
  refine reach.invariant ?_ ?_
  · rintro s ⟨_, permissions, channels, _⟩
    exact .init permissions channels
  · intro s s' ev o traced _ refuses run
    cases Option.some.inj run
    cases ev with
    | request env m => exact traced.request refuses
    | timeout tinfo =>
      exact traced.step (traced.tables.cleanPermission tinfo) (List.Subset.refl _)
        (turnPermissionClean_from s.ss.alloc tinfo)

/-- Only peers that can be decoded become permissions, one for each IP, and a request with another one fails. -/
theorem undecodable_peers_refused {server : TurnServer} {s : PermissionHistory}
    (reach : (permissionMachine server).Reach (RefusesUndecodable server) s) :
    PeersKept s.ss.alloc s.requested ∧
      ∀ env m, RefusesUndecodable server s (.request env m) →
        (∃ attr ∈ m.attrs, attr.attrType = stunAttributeXorPeerAddress ∧ attr.decodes m.tid = false) →
          (handleTurnCreatePermission server env s.ss m).2.respConstructed = false := by
  refine ⟨(peersTraced_of_reach reach).peersKept, ?_⟩
  rintro env m refuses ⟨attr, member, type, fails⟩
  rcases createPermission_cases server env s.ss m with ⟨_, unanswered⟩ | ⟨accepted, _⟩
  · exact unanswered
  · refine absurd ?_ (decodes_of_accepted refuses accepted ⟨attr, member, type, rfl⟩)
    rw [Attribute.addr_of_undecodable fails]
    rfl

/-- A CreatePermission whose second peer has an address of an unknown family. -/
def exampleMixedPeers : Request :=
  .ofAttributes stunMethodCreatePermission
    [examplePeer 0x0900000A (nswap16 4000), ⟨stunAttributeXorPeerAddress, [0, 9, 0, 0, 0, 0, 0, 0]⟩]

/-- A server that forbids the zero address. -/
def exampleStrictEnv : Env := { exampleEnv with goodPeerAddr _ addr := decide (addr.family ≠ .unspec) }

theorem undecodable_peers_refused_mixed :
    ∃ s, (permissionMachine exampleServer).Reach (RefusesUndecodable exampleServer) s ∧ allocatedSlots s.ss.alloc ≠ [] ∧
      PeersKept s.ss.alloc s.requested ∧
      (handleTurnCreatePermission exampleServer exampleStrictEnv s.ss exampleMixedPeers).2.respConstructed = false := by
  have listed (m : Request) (s : PermissionHistory) :
      RefusesUndecodable exampleServer s (.request exampleStrictEnv m) :=
    fun addr _ unspec => Or.inr (by simp [exampleStrictEnv, unspec])
  have reach : (permissionMachine exampleServer).Reach (RefusesUndecodable exampleServer)
      (PermissionHistory.step exampleServer ⟨exampleAllocated.ss, []⟩ (.request exampleStrictEnv exampleCreatePermission)) :=
    .next (.start ⟨rfl, rfl, rfl, rfl⟩) trivial (listed _ _) rfl
  obtain ⟨kept, refused⟩ := undecodable_peers_refused reach
  exact ⟨_, reach, by decide +kernel, kept, refused exampleStrictEnv exampleMixedPeers (listed _ _) (by decide +kernel)⟩

/-- A request with a peer that cannot be decoded is answered with success. -/
theorem undecodable_peer_permitted :
    ¬ ∀ (server : TurnServer) (s : PermissionHistory),
      (permissionMachine server).Reach (fun _ _ => True) s →
        PeersKept s.ss.alloc s.requested ∧
          ∀ env m, (∃ attr ∈ m.attrs, attr.attrType = stunAttributeXorPeerAddress ∧ attr.decodes m.tid = false) →
            (handleTurnCreatePermission server env s.ss m).2.respConstructed = false := by
  intro claimed
  have start : (permissionMachine exampleServer).Reach (fun _ _ => True) ⟨exampleAllocated.ss, []⟩ :=
    .start ⟨rfl, rfl, rfl, rfl⟩
  have refused := (claimed _ _ start).2 exampleEnv exampleMixedPeers (by decide +kernel)
  have answered : (handleTurnCreatePermission exampleServer exampleEnv exampleAllocated.ss
      exampleMixedPeers).2.respConstructed = true := by decide +kernel
  rw [answered] at refused
  cases refused

end Server
end TurnCluster
