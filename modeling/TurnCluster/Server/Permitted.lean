import TurnCluster.Server.PermissionUpdate

namespace TurnCluster
namespace Server

/-- Every permission in use was there before, for the same address, or is for one of the new addresses. -/
def PermissionsFrom (new : IoaAddr → Prop) (a a' : Allocation) : Prop :=
  ∀ tinfo info, AllocatedPermission a' tinfo info →
    (∃ old, AllocatedPermission a tinfo old ∧ old.addr = info.addr) ∨ new info.addr

variable {new : IoaAddr → Prop} {a a₁ a' : Allocation}

theorem PermissionsFrom.same (permissions : a'.addrToPerm = a.addrToPerm) : PermissionsFrom new a a' := by
  rintro tinfo info ⟨known, allocated⟩
  rw [permissions] at known
  exact Or.inl ⟨info, ⟨known, allocated⟩, rfl⟩

theorem PermissionsFrom.trans (first : PermissionsFrom new a a₁) (second : PermissionsFrom new a₁ a') :
    PermissionsFrom new a a' := by
  intro tinfo info after
  rcases second tinfo info after with ⟨old, between, addr⟩ | isNew
  · rw [← addr]
    exact first tinfo old between
  · exact Or.inr isNew

theorem PermissionsFrom.mono {wider : IoaAddr → Prop} (from' : PermissionsFrom new a a')
    (weaker : ∀ addr, new addr → wider addr) : PermissionsFrom wider a a' :=
  fun tinfo info after => (from' tinfo info after).imp_right (weaker info.addr)

variable (server : TurnServer) (env : Env) (ss : SuperSession) (m : Request) {tinfo : SlotRef}

theorem PermissionsFrom.set {info : TurnPermissionInfo}
    (changed : a'.addrToPerm.get = Function.update a.addrToPerm.get tinfo (some info)) (origin : info.allocated = true →
      (∃ old, AllocatedPermission a tinfo old ∧ old.addr = info.addr) ∨ new info.addr) : PermissionsFrom new a a' := by
  rintro tinfo' info' ⟨after, allocated⟩
  rw [changed] at after
  rcases update_some after with ⟨rfl, rfl⟩ | ⟨_, before⟩
  · exact origin allocated
  · exact Or.inl ⟨info', ⟨before, allocated⟩, rfl⟩

theorem PermissionsFrom.touch {old info : TurnPermissionInfo} (known : a.addrToPerm.get tinfo = some old)
    (changed : a'.addrToPerm = a.addrToPerm.set tinfo info) (addr : info.addr = old.addr)
    (allocated : info.allocated = old.allocated) : PermissionsFrom new a a' := by
  refine .set (by rw [changed, SlotTable.get_set known]) ?_
  intro isAllocated
  exact Or.inl ⟨old, ⟨known, allocated.symm.trans isAllocated⟩, addr.symm⟩

theorem permissionFor_from (a : Allocation) (addr : IoaAddr) : PermissionsFrom (· = addr) a (permissionFor a addr).1 := by
  unfold permissionFor
  split
  · exact .same rfl
  · exact .set (allocationAddPermission_get a addr) fun _ => Or.inr rfl

theorem updateTurnPermissionLifetime_from {server : TurnServer} {env : Env} {timeDelta : Nat}
    (updated : updateTurnPermissionLifetime server env a tinfo timeDelta = some a') : PermissionsFrom new a a' := by
  unfold updateTurnPermissionLifetime at updated
  split at updated
  · cases updated
  · rename_i info known
    split at updated
    · cases updated
    · cases Option.some.inj updated
      exact .touch known rfl rfl rfl

theorem updateChannelLifetime_from {server : TurnServer} {env : Env} {chn : SlotRef}
    (updated : updateChannelLifetime server env a chn = some a') : PermissionsFrom new a a' := by
  unfold updateChannelLifetime at updated
  split at updated
  · cases updated
  · split at updated
    · cases updated
    · split at updated
      · cases updated
      · rename_i a₁ first
        cases Option.some.inj updated
        exact (updateTurnPermissionLifetime_from first).trans (.same rfl)

theorem updatePermission_from (a : Allocation) (addr : IoaAddr) :
    PermissionsFrom (· = addr) a (updatePermission server env a addr).1 := by
  have found := permissionFor_from a addr
  rw [updatePermission_def]
  split
  · exact found
  · rename_i a₁ updated
    have touched := found.trans (updateTurnPermissionLifetime_from updated)
    split
    · exact touched
    · split
      · exact touched
      · rename_i a₂ channel
        exact touched.trans (updateChannelLifetime_from channel)

theorem updatePermissions_from (tid : List UInt8) (a : Allocation) (failed : Bool) (attrs : List Attribute) :
    PermissionsFrom (ListedIn server tid attrs) a (updatePermissions server env tid a failed attrs).1 := by
  induction attrs generalizing a failed with
  | nil => exact .same rfl
  | cons attr rest ih =>
    have later (addr : IoaAddr) : ListedIn server tid rest addr → ListedIn server tid (attr :: rest) addr :=
      fun ⟨x, member, listed⟩ => ⟨x, List.mem_cons_of_mem _ member, listed⟩
    unfold updatePermissions
    split
    · rename_i peer
      have first := updatePermission_from server env a (addrSetPort (attr.addr server.mapping tid) 0)
      refine (first.mono ?_).trans ((ih _ _).mono later)
      rintro addr rfl
      exact ⟨attr, List.mem_cons_self, peer, rfl⟩
    · exact (ih a failed).mono later

theorem allocationGetNewChInfo_from (a : Allocation) (chnum : UInt16) (peerAddr : IoaAddr) :
    PermissionsFrom (· = peerAddr) a (allocationGetNewChInfo a chnum peerAddr).1 := by
  obtain ⟨ch, _, _, _, _, _, made⟩ := allocationGetNewChInfo_eq a chnum peerAddr
  obtain ⟨info, known, _⟩ := permissionFor_get a peerAddr
  rw [made, putChannel_eq known]
  exact (permissionFor_from a peerAddr).trans (.touch known rfl rfl rfl)

theorem bindChannel_from (chnum : UInt16) (peerAddr : IoaAddr) :
    PermissionsFrom (fun addr => addr = peerAddr ∧ env.goodPeerAddr ss.realm.name addr = true) ss.alloc
      (bindChannel env ss chnum peerAddr).1 := by
  unfold bindChannel
  split
  · split <;> exact .same rfl
  · split
    · exact .same rfl
    · split
      · exact .same rfl
      · rename_i good
        rw [Bool.not_eq_false] at good
        refine (allocationGetNewChInfo_from ss.alloc chnum peerAddr).mono ?_
        rintro addr rfl
        exact ⟨rfl, good⟩

theorem turnChannelDelete_from (a : Allocation) (chn : SlotRef) : PermissionsFrom new a (turnChannelDelete a chn) := by
  unfold turnChannelDelete
  split
  · exact .same rfl
  · rename_i ch _
    dsimp only
    cases ch.owner with
    | none => exact .same rfl
    | some tinfo =>
      dsimp only
      unfold dropChannel
      split
      · exact .same rfl
      · rename_i info known
        exact .touch known rfl rfl rfl

theorem turnPermissionClean_from (a : Allocation) (tinfo : SlotRef) :
    PermissionsFrom new a (turnPermissionClean a tinfo) := by
  unfold turnPermissionClean
  split
  · exact .same rfl
  · rename_i info known
    split
    · exact .same rfl
    · have cleared : ((info.chns.values.foldl (fun a entry => chInfoClean a entry.2) a).addrToPerm.set tinfo .zero).get =
          Function.update a.addrToPerm.get tinfo (some .zero) := by
        rw [(chInfoClean_foldl info.chns.values a).1, SlotTable.get_set known]
      exact .set cleared fun allocated => nomatch allocated

namespace ChannelBindScan

/-- The relay socket that an accepted peer address has met. -/
def Relayed (ss : SuperSession) (s : ChannelBindScan) : Prop :=
  s.scan.errCode = 0 → s.addrFound = true → (getRelaySession ss s.peerAddr.family).s.isSome = true

variable (server : TurnServer) (ss : SuperSession) (tid : List UInt8) (attrs : List Attribute) {s : ChannelBindScan}

theorem onPeerAddress_relayed (s : ChannelBindScan) (a : Attribute) : Relayed ss (s.onPeerAddress server ss tid a) := by
  unfold onPeerAddress
  dsimp only
  by_cases relay : (getRelaySession ss (a.addr server.mapping tid).family).s.isSome = true
  · rw [if_pos relay]
    split
    · intro fine
      cases fine
    · exact fun _ _ => relay
  · rw [if_neg relay]
    split
    · intro fine
      cases fine
    · intro fine
      cases fine

theorem body_relayed (relayed : Relayed ss s) (running : s.running = true) (a : Attribute) :
    Relayed ss (body server ss tid s a) := by
  have fine : s.scan.errCode = 0 := by
    simp only [ChannelBindScan.running, Scan.running, Bool.and_eq_true, beq_iff_eq] at running
    exact running.1
  unfold body
  split
  · exact relayed
  · split
    · unfold onChannelNumber
      split
      · intro fine
        cases fine
      · split
        · intro fine
          cases fine
        · exact relayed
    · split
      · exact onPeerAddress_relayed server ss tid s a
      · exact fun _ => relayed fine

theorem scan_relayed : Relayed ss (scanAttrs running (body server ss tid) .start attrs) := by
  obtain ⟨_, _, _, relayed, _⟩ := @scanAttrs_passed _ running (body server ss tid) (fun _ s => Relayed ss s)
    (fun _ s a goes relayed => body_relayed server ss tid relayed goes a) [] .start
    (fun _ found => by cases found) attrs
  exact relayed

/-- The peer address that was found is one of those in the request. -/
def Named (server : TurnServer) (tid : List UInt8) (seen : List Attribute) (s : ChannelBindScan) : Prop :=
  s.addrFound = true →
    ∃ attr ∈ seen, attr.attrType = stunAttributeXorPeerAddress ∧ attr.addr server.mapping tid = s.peerAddr

theorem body_named {seen : List Attribute} (named : Named server tid seen s) (a : Attribute) :
    Named server tid (seen ++ [a]) (body server ss tid s a) := by
  have earlier : Named server tid (seen ++ [a]) s := fun found =>
    have ⟨attr, member, named⟩ := named found
    ⟨attr, List.mem_append_left _ member, named⟩
  unfold body
  split
  · exact earlier
  · split
    · unfold onChannelNumber
      split
      · exact earlier
      · split
        · exact earlier
        · exact earlier
    · split
      · rename_i peer
        have addr : (s.onPeerAddress server ss tid a).peerAddr = a.addr server.mapping tid := by
          unfold onPeerAddress
          dsimp only
          split <;> split <;> rfl
        exact fun _ => ⟨a, List.mem_append_right _ List.mem_cons_self, peer, addr.symm⟩
      · exact earlier

theorem scan_named : Named server tid attrs (scanAttrs running (body server ss tid) .start attrs) := by
  obtain ⟨passed, rest, split, named, _⟩ := @scanAttrs_passed _ running (body server ss tid) (Named server tid)
    (fun _ _ a _ named => body_named server ss tid named a) [] .start (fun found => by cases found) attrs
  intro found
  obtain ⟨attr, member, named⟩ := named found
  exact ⟨attr, split ▸ List.mem_append_left rest member, named⟩

end ChannelBindScan

/-- A ChannelBind makes permissions only for a peer that it lists, with a relay socket, and that the lists let
through. -/
theorem handleTurnChannelBind_origin :
    ∃ a', (handleTurnChannelBind server env ss m).1 = { ss with alloc := a' } ∧
      PermissionsFrom (fun addr => (getRelaySession ss addr.family).s.isSome = true ∧ Lists server m addr ∧
        env.goodPeerAddr ss.realm.name addr = true) ss.alloc a' := by
  unfold handleTurnChannelBind
  split
  · exact ⟨ss.alloc, rfl, .same rfl⟩
  · split
    · exact ⟨ss.alloc, rfl, .same rfl⟩
    · have relayed := ChannelBindScan.scan_relayed server ss m.tid m.attrs
      have named := ChannelBindScan.scan_named server ss m.tid m.attrs
      generalize scanAttrs ChannelBindScan.running (ChannelBindScan.body server ss m.tid) .start m.attrs = s
        at relayed named ⊢
      unfold channelBindChecked
      split
      · exact ⟨ss.alloc, rfl, .same rfl⟩
      · split
        · exact ⟨ss.alloc, rfl, .same rfl⟩
        · rename_i fine
          split
          · exact ⟨ss.alloc, rfl, .same rfl⟩
          · rename_i complete
            simp only [not_or, Bool.not_eq_false] at complete
            split
            · exact ⟨ss.alloc, rfl, .same rfl⟩
            · have bound : PermissionsFrom (fun addr => (getRelaySession ss addr.family).s.isSome = true ∧
                  Lists server m addr ∧ env.goodPeerAddr ss.realm.name addr = true) ss.alloc
                  (bindChannel env ss s.chnum s.peerAddr).1 := by
                refine (bindChannel_from env ss s.chnum s.peerAddr).mono ?_
                rintro addr ⟨rfl, good⟩
                exact ⟨relayed (not_not.mp fine) complete.2.2, named complete.2.2, good⟩
              split
              · rename_i a reply made
                rw [made] at bound
                exact ⟨a, rfl, bound⟩
              · rename_i a chn made
                rw [made] at bound
                split
                · exact ⟨a, rfl, bound⟩
                · rename_i a' updated
                  exact ⟨a', rfl, bound.trans (updateChannelLifetime_from updated)⟩

/-- A ChannelBind changes nothing but the tables, and makes permissions only for peers with a relay socket. -/
theorem handleTurnChannelBind_from :
    ∃ a', (handleTurnChannelBind server env ss m).1 = { ss with alloc := a' } ∧
      PermissionsFrom (fun addr => (getRelaySession ss addr.family).s.isSome = true) ss.alloc a' := by
  obtain ⟨a', state, origin⟩ := handleTurnChannelBind_origin server env ss m
  exact ⟨a', state, origin.mono fun _ listed => listed.1⟩

theorem handleTurnCreatePermission_origin :
    ∃ a', (handleTurnCreatePermission server env ss m).1 = { ss with alloc := a' } ∧
      PermissionsFrom (fun addr => ∃ peer, addr = addrSetPort peer 0 ∧ Lists server m peer ∧
        (getRelaySession ss peer.family).s.isSome = true ∧ env.goodPeerAddr ss.realm.name peer = true) ss.alloc a' := by
  rcases createPermission_cases server env ss m with ⟨same, _⟩ | ⟨accepted, _, state, _⟩
  · exact ⟨ss.alloc, same, .same rfl⟩
  · refine ⟨_, state, (updatePermissions_from server env m.tid ss.alloc false m.attrs).mono ?_⟩
    rintro addr ⟨attr, member, type, rfl⟩
    have lists : Lists server m (attr.addr server.mapping m.tid) := ⟨attr, member, type, rfl⟩
    exact ⟨_, rfl, lists, PermissionScan.Accepts.peer accepted lists⟩

theorem handleTurnCreatePermission_from :
    ∃ a', (handleTurnCreatePermission server env ss m).1 = { ss with alloc := a' } ∧
      PermissionsFrom (fun addr => (getRelaySession ss addr.family).s.isSome = true) ss.alloc a' := by
  obtain ⟨a', state, origin⟩ := handleTurnCreatePermission_origin server env ss m
  refine ⟨a', state, origin.mono ?_⟩
  rintro addr ⟨peer, rfl, _, relayed, _⟩
  rw [addrSetPort_family]
  exact relayed

end Server
end TurnCluster
