import TurnCluster.Server.TableRuns

namespace TurnCluster
namespace Server

/-- The peer addresses that a request lists. -/
def Lists (server : TurnServer) (m : Request) (addr : IoaAddr) : Prop :=
  ∃ attr ∈ m.attrs, attr.attrType = stunAttributeXorPeerAddress ∧ attr.addr server.mapping m.tid = addr

/-- An attribute that the first loop of a CreatePermission lets through. -/
def PermissionScan.Accepts (server : TurnServer) (env : Env) (ss : SuperSession) (tid : List UInt8) (a : Attribute) :
    Prop :=
  isSkipped a.attrType = true ∨
    a.attrType = stunAttributeXorPeerAddress ∧
      (getRelaySession ss (a.addr server.mapping tid).family).s.isSome = true ∧
      env.goodPeerAddr ss.realm.name (a.addr server.mapping tid) = true ∨
    a.attrType ≠ stunAttributeXorPeerAddress ∧ ¬ a.attrType ≤ 0x7FFF

/-- What the loop knows as long as it has met no error. -/
def PermissionScan.Checked (server : TurnServer) (env : Env) (ss : SuperSession) (tid : List UInt8)
    (seen : List Attribute) (s : PermissionScan) : Prop :=
  s.scan.errCode = 0 → s.scan.unknownAttrs = [] →
    (∀ a ∈ seen, Accepts server env ss tid a) ∧
      (s.addrFound ≠ 0 → ∃ a ∈ seen, a.attrType = stunAttributeXorPeerAddress)

variable {server : TurnServer} {env : Env} {ss : SuperSession} {tid : List UInt8} {a : Allocation}
  {attrs : List Attribute} {addr : IoaAddr} {s : PermissionScan}

theorem PermissionScan.body_checked {seen : List Attribute} (checked : Checked server env ss tid seen s)
    (running : s.running = true) (a : Attribute) :
    Checked server env ss tid (seen ++ [a]) (body server env ss tid s a) := by
  have fine : s.scan.errCode = 0 := by
    simp only [PermissionScan.running, Scan.running, Bool.and_eq_true, beq_iff_eq] at running
    exact running.1
  have extend (known : s.scan.unknownAttrs = []) (accepts : Accepts server env ss tid a) (addrFound : Nat)
      (counted : addrFound = s.addrFound ∨ a.attrType = stunAttributeXorPeerAddress) :
      (∀ x ∈ seen ++ [a], Accepts server env ss tid x) ∧
        (addrFound ≠ 0 → ∃ x ∈ seen ++ [a], x.attrType = stunAttributeXorPeerAddress) := by
    obtain ⟨all, found⟩ := checked fine known
    constructor
    · intro x member
      rcases List.mem_append.mp member with before | last
      · exact all x before
      · rw [List.mem_singleton.mp last]
        exact accepts
    · intro some
      rcases counted with same | peer
      · rw [same] at some
        obtain ⟨x, member, type⟩ := found some
        exact ⟨x, List.mem_append_left _ member, type⟩
      · exact ⟨a, by simp, peer⟩
  unfold body
  split
  · rename_i skipped
    intro _ known
    exact extend known (Or.inl skipped) _ (Or.inl rfl)
  · split
    · rename_i peer
      unfold onPeerAddress
      dsimp only
      split
      · intro failed
        cases failed
      · rename_i relay
        split
        · intro failed
          cases failed
        · rename_i good
          intro _ known
          rw [Bool.not_eq_false] at good
          rw [Option.isNone_iff_eq_none, ← Option.not_isSome_iff_eq_none, not_not] at relay
          exact extend known (Or.inr (Or.inl ⟨peer, relay, good⟩)) _ (Or.inr peer)
    · rename_i other
      intro _ known
      change (s.scan.other a.attrType).unknownAttrs = [] at known
      unfold Scan.other at known
      split at known
      · simp [Scan.unknown] at known
      · rename_i optional
        exact extend known (Or.inr (Or.inr ⟨other, optional⟩)) _ (Or.inl rfl)

theorem PermissionScan.scan_checked (scanned : scanAttrs running (body server env ss tid) .start attrs = s)
    (known : s.scan.unknownAttrs = []) (fine : s.scan.errCode = 0) :
    (∀ a ∈ attrs, Accepts server env ss tid a) ∧
      (s.addrFound ≠ 0 → ∃ a ∈ attrs, a.attrType = stunAttributeXorPeerAddress) := by
  obtain ⟨passed, rest, split, checked, ended⟩ := @scanAttrs_passed _ running (body server env ss tid)
    (Checked server env ss tid) (fun _ _ a goes checked => body_checked checked goes a) [] .start
    (fun _ _ => ⟨by simp, by simp [start]⟩) attrs
  rw [scanned] at checked ended
  have all : rest = [] := by
    rcases ended with complete | stopped
    · exact complete
    · simp [PermissionScan.running, Scan.running, fine, known, maxNumberOfUnknownAttrs] at stopped
  rw [all, List.append_nil] at split
  rw [split]
  exact checked fine known

/-- One IP has a permission until `expires`, and all other permissions are as they were. -/
structure Refreshed (expires : Nat) (addr : IoaAddr) (a a' : Allocation) : Prop where
  kept : TablesKept a'
  chns : a'.chns = a.chns
  permitted : ∃ tinfo info, AllocatedPermission a' tinfo info ∧ addrEqNoPort info.addr addr = true ∧
    info.expirationTime = expires
  others : ∀ {tinfo info}, addrEqNoPort info.addr addr = false →
    (AllocatedPermission a' tinfo info ↔ AllocatedPermission a tinfo info)

/-- A permission with a new lifetime. -/
def TurnPermissionInfo.renewed (info : TurnPermissionInfo) (expires : Nat) : TurnPermissionInfo :=
  { info with expirationTime := expires, lifetimeEv := some expires }

theorem updatePermission_eq (server : TurnServer) (env : Env) {info : TurnPermissionInfo}
    (known : (permissionFor a addr).1.addrToPerm.get (permissionFor a addr).2 = some info)
    (allocated : info.allocated = true) (portless : addrGetPort addr = 0) :
    updatePermission server env a addr =
      ({ (permissionFor a addr).1 with
        addrToPerm := (permissionFor a addr).1.addrToPerm.set (permissionFor a addr).2
          (info.renewed (env.ctime + server.permissionLifetime)) }, true) := by
  have lifetime : updateTurnPermissionLifetime server env (permissionFor a addr).1 (permissionFor a addr).2 0 =
      some { (permissionFor a addr).1 with
        addrToPerm := (permissionFor a addr).1.addrToPerm.set (permissionFor a addr).2
          (info.renewed (env.ctime + server.permissionLifetime)) } := by
    unfold updateTurnPermissionLifetime
    rw [known]
    simp [allocated, TurnPermissionInfo.renewed]
  have noChannel : getTurnChannel { (permissionFor a addr).1 with
      addrToPerm := (permissionFor a addr).1.addrToPerm.set (permissionFor a addr).2
        (info.renewed (env.ctime + server.permissionLifetime)) } (permissionFor a addr).2 addr = none := by
    unfold getTurnChannel
    dsimp only
    rw [SlotTable.get_set known, Function.update_self, portless]
    rfl
  rw [updatePermission_def, lifetime]
  dsimp only
  rw [noChannel]

theorem updatePermission_refreshed (server : TurnServer) (env : Env) {a : Allocation} (kept : TablesKept a)
    {addr : IoaAddr} (family : addr.family ≠ .unspec) (portless : addrGetPort addr = 0) :
    (updatePermission server env a addr).2 = true ∧
      Refreshed (env.ctime + server.permissionLifetime) addr a (updatePermission server env a addr).1 := by
  obtain ⟨info, known, allocated, found⟩ := permissionFor_get a addr
  obtain ⟨others, taken⟩ := permissionFor_frame a addr
  have address : addrEqNoPort info.addr addr = true := by
    rcases found with ⟨_, _, same⟩ | ⟨_, same, _⟩
    · exact same
    · rw [same]
      exact addrEqNoPort_self family
  have changed := SlotTable.get_set known (info.renewed (env.ctime + server.permissionLifetime))
  rw [updatePermission_eq server env known allocated portless]
  refine ⟨rfl, (kept.permissionFor addr).touchPermission known _ _, permissionFor_chns a addr,
    ⟨(permissionFor a addr).2, info.renewed (env.ctime + server.permissionLifetime),
      ⟨by rw [changed, Function.update_self], allocated⟩, address, rfl⟩, ?_⟩
  intro tinfo info' different
  unfold AllocatedPermission
  dsimp only
  rw [changed]
  refine and_congr_left fun allocated' => ?_
  by_cases here : tinfo = (permissionFor a addr).2
  · rw [here, Function.update_self]
    constructor
    · intro same
      cases Option.some.inj same
      rw [show (info.renewed _).addr = info.addr from rfl, address] at different
      cases different
    · intro before
      rw [taken info' before allocated'] at different
      cases different
  · rw [Function.update_of_ne here, others tinfo here]

/-- What a run of the second loop over all attributes does: every listed IP has its
permission, and all other permissions are as they were. -/
structure AllRefreshed (expires : Nat) (listed : IoaAddr → Prop) (a a' : Allocation) : Prop where
  kept : TablesKept a'
  chns : a'.chns = a.chns
  permitted : ∀ {addr}, listed addr → ∃ tinfo info, AllocatedPermission a' tinfo info ∧
    addrEqNoPort info.addr addr = true ∧ info.expirationTime = expires
  others : ∀ {tinfo info}, (∀ addr, listed addr → addrEqNoPort info.addr addr = false) →
    (AllocatedPermission a' tinfo info ↔ AllocatedPermission a tinfo info)

/-- A later update renews the permission of an earlier one for the same IP, and leaves it alone otherwise. -/
theorem Refreshed.followed {expires : Nat} {listed : IoaAddr → Prop} {a₁ a' : Allocation}
    (first : Refreshed expires addr a a₁) (all : AllRefreshed expires listed a₁ a') :
    AllRefreshed expires (fun x => x = addr ∨ listed x) a a' := by
  refine ⟨all.kept, all.chns.trans first.chns, ?_, ?_⟩
  · rintro x (rfl | later)
    · obtain ⟨tinfo, info, permitted, same, until'⟩ := first.permitted
      by_cases again : ∃ y, listed y ∧ addrEqNoPort info.addr y = true
      · obtain ⟨y, isListed, equal⟩ := again
        obtain ⟨tinfo', info', permitted', same', until''⟩ := all.permitted isListed
        exact ⟨tinfo', info', permitted', addrEqNoPort_trans (addrEqNoPort_trans same' (addrEqNoPort_symm equal)) same,
          until''⟩
      · have unlisted : ∀ y, listed y → addrEqNoPort info.addr y = false := by
          intro y isListed
          exact Bool.eq_false_iff.mpr fun equal => again ⟨y, isListed, equal⟩
        exact ⟨tinfo, info, (all.others unlisted).mpr permitted, same, until'⟩
    · exact all.permitted later
  · intro tinfo info unlisted
    exact (all.others fun y isListed => unlisted y (Or.inr isListed)).trans (first.others (unlisted addr (Or.inl rfl)))

/-- The addresses that the second loop makes permissions for. -/
def ListedIn (server : TurnServer) (tid : List UInt8) (attrs : List Attribute) (addr : IoaAddr) : Prop :=
  ∃ attr ∈ attrs, attr.attrType = stunAttributeXorPeerAddress ∧ addr = addrSetPort (attr.addr server.mapping tid) 0

theorem updatePermissions_refreshed (server : TurnServer) (env : Env) (tid : List UInt8) (kept : TablesKept a)
    (decodes : ∀ attr ∈ attrs, attr.attrType = stunAttributeXorPeerAddress →
      (attr.addr server.mapping tid).family ≠ .unspec) :
    (updatePermissions server env tid a false attrs).2 = false ∧
      AllRefreshed (env.ctime + server.permissionLifetime) (ListedIn server tid attrs) a
        (updatePermissions server env tid a false attrs).1 := by
  induction attrs generalizing a with
  | nil => exact ⟨rfl, kept, rfl, fun ⟨_, member, _⟩ => (by cases member), fun _ => Iff.rfl⟩
  | cons attr rest ih =>
    have later : ∀ attr ∈ rest, attr.attrType = stunAttributeXorPeerAddress →
        (attr.addr server.mapping tid).family ≠ .unspec :=
      fun x member => decodes x (List.mem_cons_of_mem _ member)
    unfold updatePermissions
    by_cases peer : attr.attrType = stunAttributeXorPeerAddress
    · rw [if_pos peer]
      obtain ⟨updated, first⟩ := @updatePermission_refreshed server env a kept
        (addrSetPort (attr.addr server.mapping tid) 0)
        (by rw [addrSetPort_family]; exact decodes attr List.mem_cons_self peer) (addrGetPort_setPort_zero _)
      obtain ⟨fine, all⟩ := ih first.kept later
      have listed : ListedIn server tid (attr :: rest) =
          fun x => x = addrSetPort (attr.addr server.mapping tid) 0 ∨ ListedIn server tid rest x := by
        funext x
        simp [ListedIn, peer]
      dsimp only
      rw [updated, listed]
      exact ⟨fine, first.followed all⟩
    · rw [if_neg peer]
      have listed : ListedIn server tid (attr :: rest) = ListedIn server tid rest := by
        funext x
        simp [ListedIn, peer]
      rw [listed]
      exact ih kept later

/-- What the success of a CreatePermission stands for. -/
structure Granted (server : TurnServer) (env : Env) (ss : SuperSession) (m : Request) (a' : Allocation) : Prop where
  listed : ∃ addr, Lists server m addr
  understood : ∀ attr ∈ m.attrs, attr.attrType ≤ 0x7FFF →
    isSkipped attr.attrType = true ∨ attr.attrType = stunAttributeXorPeerAddress
  relayed : ∀ {addr}, Lists server m addr → (getRelaySession ss addr.family).s.isSome = true
  good : ∀ {addr}, Lists server m addr → env.goodPeerAddr ss.realm.name addr = true
  permitted : ∀ {addr}, Lists server m addr → ∃ tinfo info, AllocatedPermission a' tinfo info ∧
    addrEqNoPort info.addr addr = true ∧ info.expirationTime = env.ctime + server.permissionLifetime ∧
    ∀ tinfo' info', AllocatedPermission a' tinfo' info' → addrEqNoPort info'.addr addr = true → tinfo' = tinfo
  others : ∀ {tinfo info}, (∀ addr, Lists server m addr → addrEqNoPort info.addr addr = false) →
    (AllocatedPermission a' tinfo info ↔ AllocatedPermission ss.alloc tinfo info)
  channels : a'.chns = ss.alloc.chns

theorem PermissionScan.Accepts.peer {m : Request}
    (accepted : ∀ a ∈ m.attrs, PermissionScan.Accepts server env ss m.tid a) (lists : Lists server m addr) :
    (getRelaySession ss addr.family).s.isSome = true ∧ env.goodPeerAddr ss.realm.name addr = true := by
  obtain ⟨attr, member, type, rfl⟩ := lists
  rcases accepted attr member with skipped | ⟨_, relay, good⟩ | ⟨other, _⟩
  · rw [type] at skipped
    exact absurd skipped (by decide)
  · exact ⟨relay, good⟩
  · exact absurd type other

theorem AllRefreshed.granted {m : Request} {a' : Allocation}
    (all : AllRefreshed (env.ctime + server.permissionLifetime) (ListedIn server m.tid m.attrs) ss.alloc a')
    (accepted : ∀ a ∈ m.attrs, PermissionScan.Accepts server env ss m.tid a)
    (some : ∃ a ∈ m.attrs, a.attrType = stunAttributeXorPeerAddress) : Granted server env ss m a' := by
  have portless {addr : IoaAddr} (lists : Lists server m addr) : ListedIn server m.tid m.attrs (addrSetPort addr 0) := by
    obtain ⟨attr, member, type, rfl⟩ := lists
    exact ⟨attr, member, type, rfl⟩
  refine ⟨?_, ?_, fun lists => (PermissionScan.Accepts.peer accepted lists).1,
    fun lists => (PermissionScan.Accepts.peer accepted lists).2, ?_, ?_, all.chns⟩
  · obtain ⟨attr, member, type⟩ := some
    exact ⟨_, attr, member, type, rfl⟩
  · intro attr member required
    rcases accepted attr member with skipped | ⟨peer, _⟩ | ⟨_, optional⟩
    · exact Or.inl skipped
    · exact Or.inr peer
    · exact absurd required optional
  · intro addr lists
    obtain ⟨tinfo, info, permitted, same, expires⟩ := all.permitted (portless lists)
    rw [addrEqNoPort_setPort] at same
    refine ⟨tinfo, info, permitted, same, expires, ?_⟩
    rintro tinfo' info' ⟨known, allocated⟩ same'
    exact all.kept.linked.addrs (owner_eq_some.mpr ⟨info', known, allocated, rfl, rfl⟩)
      (owner_eq_some.mpr ⟨info, permitted.1, permitted.2, rfl, rfl⟩) (addrEqNoPort_trans same' (addrEqNoPort_symm same))
  · intro tinfo info unlisted
    refine all.others ?_
    rintro addr ⟨attr, member, type, rfl⟩
    rw [addrEqNoPort_setPort]
    exact unlisted _ ⟨attr, member, type, rfl⟩

/-- A CreatePermission either leaves the session alone or has passed its first loop and runs the second. -/
theorem createPermission_cases (server : TurnServer) (env : Env) (ss : SuperSession) (m : Request) :
    (handleTurnCreatePermission server env ss m).1 = ss ∧
        (handleTurnCreatePermission server env ss m).2.respConstructed = false ∨
      (∀ a ∈ m.attrs, PermissionScan.Accepts server env ss m.tid a) ∧
        (∃ a ∈ m.attrs, a.attrType = stunAttributeXorPeerAddress) ∧
        (handleTurnCreatePermission server env ss m).1 =
          { ss with alloc := (updatePermissions server env m.tid ss.alloc false m.attrs).1 } ∧
        (handleTurnCreatePermission server env ss m).2 =
          if (updatePermissions server env m.tid ss.alloc false m.attrs).2 = true then
            failure 500 "Cannot update some permissions (critical server software error)"
          else { Reply.empty with respConstructed := true } := by
  unfold handleTurnCreatePermission
  split
  · exact Or.inl ⟨rfl, rfl⟩
  · generalize scanned : scanAttrs PermissionScan.running (PermissionScan.body server env ss m.tid) .start m.attrs = s
    unfold createPermissionChecked
    split
    · exact Or.inl ⟨rfl, rfl⟩
    · rename_i known
      split
      · exact Or.inl ⟨rfl, rfl⟩
      · rename_i fine
        split
        · exact Or.inl ⟨rfl, rfl⟩
        · rename_i found
          obtain ⟨accepted, listed⟩ := PermissionScan.scan_checked scanned (not_not.mp known) (not_not.mp fine)
          refine Or.inr ⟨accepted, listed found, ?_⟩
          dsimp only
          split <;> exact ⟨rfl, rfl⟩

/-- A CreatePermission that is refused changes nothing, and one that succeeds grants all it lists. -/
theorem create_permission_all_or_nothing {server : TurnServer} {env : Env} {ss : SuperSession} {m : Request}
    (kept : TablesKept ss.alloc) (decodes : ∀ addr, Lists server m addr → addr.family ≠ .unspec) :
    ((handleTurnCreatePermission server env ss m).2.errCode ≠ 0 →
      (handleTurnCreatePermission server env ss m).2.errCode ≠ 500 →
        (handleTurnCreatePermission server env ss m).1 = ss) ∧
      ((handleTurnCreatePermission server env ss m).2.respConstructed = true →
        Granted server env ss m (handleTurnCreatePermission server env ss m).1.alloc) := by
  obtain ⟨done, all⟩ := updatePermissions_refreshed server env m.tid kept
    (fun attr member type => decodes _ ⟨attr, member, type, rfl⟩)
  rcases createPermission_cases server env ss m with ⟨same, unanswered⟩ | ⟨accepted, listed, state, reply⟩
  · exact ⟨fun _ _ => same, fun success => by rw [unanswered] at success; cases success⟩
  · rw [state, reply, if_neg (by rw [done]; decide)]
    exact ⟨fun error => absurd rfl error, fun _ => all.granted accepted listed⟩

/-- A CreatePermission that lists an IP twice. -/
def exampleCreatePermission : Request :=
  .ofAttributes stunMethodCreatePermission
    [examplePeer 0x0900000A (nswap16 4000), examplePeer 0x0900000A (nswap16 4001)]

theorem create_permission_all_or_nothing_repeated :
    (handleTurnCreatePermission exampleServer exampleEnv exampleAllocated.ss exampleCreatePermission).2.respConstructed =
        true ∧
      Granted exampleServer exampleEnv exampleAllocated.ss exampleCreatePermission
        (handleTurnCreatePermission exampleServer exampleEnv exampleAllocated.ss exampleCreatePermission).1.alloc := by
  have known : ∀ attr ∈ exampleCreatePermission.attrs, attr.attrType = stunAttributeXorPeerAddress →
      (attr.addr exampleServer.mapping exampleCreatePermission.tid).family ≠ .unspec := by decide +kernel
  have decodes : ∀ addr, Lists exampleServer exampleCreatePermission addr → addr.family ≠ .unspec := by
    rintro addr ⟨attr, member, type, rfl⟩
    exact known attr member type
  have success : (handleTurnCreatePermission exampleServer exampleEnv exampleAllocated.ss
      exampleCreatePermission).2.respConstructed = true := by decide +kernel
  exact ⟨success, (create_permission_all_or_nothing (.init rfl rfl) decodes).2 success⟩

end Server
end TurnCluster
