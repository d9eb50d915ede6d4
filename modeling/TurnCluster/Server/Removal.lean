import Mathlib.Order.Lattice.Nat
import Mathlib.Order.WithBot
import TurnCluster.Server.PermissionUpdate

namespace TurnCluster
namespace Server

/-- When a timer fires; one that is not set never does. -/
def timerTime (lifetimeEv : Option Nat) : WithTop Nat :=
  match lifetimeEv with
  | none => ⊤
  | some t => t

/-- When a permission is removed if nothing more arrives. -/
def TurnPermissionInfo.removal (info : TurnPermissionInfo) : WithTop Nat := timerTime info.lifetimeEv

/-- When a channel is removed if nothing more arrives: its own timer, or that of its permission. -/
def channelRemoval (a : Allocation) (ch : ChInfo) : WithTop Nat :=
  match ch.owner.bind a.addrToPerm.get with
  | none => timerTime ch.lifetimeEv
  | some info => min (timerTime ch.lifetimeEv) info.removal

/-- Everything that was in use still is, and for as long. -/
structure NeverShortened (a a' : Allocation) : Prop where
  permissions : ∀ {tinfo info}, AllocatedPermission a tinfo info →
    ∃ info', AllocatedPermission a' tinfo info' ∧ info.removal ≤ info'.removal
  channels : ∀ {chn ch}, LiveChannel a chn ch → ∃ ch', LiveChannel a' chn ch' ∧ channelRemoval a ch ≤ channelRemoval a' ch'

/-- What an update of some addresses does to one permission that was in use. -/
structure RenewedIn (expires : Nat) (listed : IoaAddr → Prop) (a' : Allocation) (tinfo : SlotRef)
    (info : TurnPermissionInfo) : Prop where
  renewed : (∃ addr, listed addr ∧ addrEqNoPort info.addr addr = true) →
    a'.addrToPerm.get tinfo = some (info.renewed expires)
  untouched : (∀ addr, listed addr → addrEqNoPort info.addr addr = false) → a'.addrToPerm.get tinfo = some info

variable (server : TurnServer) {a : Allocation} {tinfo : SlotRef} {info : TurnPermissionInfo}

theorem updatePermission_renewed (env : Env) (kept : TablesKept a) {addr : IoaAddr} (portless : addrGetPort addr = 0)
    (inUse : AllocatedPermission a tinfo info) :
    (updatePermission server env a addr).1.chns = a.chns ∧
      RenewedIn (env.ctime + server.permissionLifetime) (· = addr) (updatePermission server env a addr).1 tinfo info := by
  obtain ⟨own, known, allocated, found⟩ := permissionFor_get a addr
  obtain ⟨others, taken⟩ := permissionFor_frame a addr
  have changed := SlotTable.get_set known (own.renewed (env.ctime + server.permissionLifetime))
  rw [updatePermission_eq server env known allocated portless]
  refine ⟨permissionFor_chns a addr, ?_, ?_⟩
  · rintro ⟨_, isAddr, same⟩
    rw [isAddr] at same
    dsimp only
    rw [changed]
    rcases found with ⟨_, unchanged, equal⟩ | ⟨missing, _⟩
    · rw [unchanged] at known
      have here : tinfo = (permissionFor a addr).2 :=
        kept.linked.addrs (owner_eq_some.mpr ⟨info, inUse.1, inUse.2, rfl, rfl⟩)
          (owner_eq_some.mpr ⟨own, known, allocated, rfl, rfl⟩) (addrEqNoPort_trans same (addrEqNoPort_symm equal))
      rw [← here] at known
      rw [← here, Function.update_self, Option.some.inj (known.symm.trans inUse.1)]
    · rw [kept.unpermitted missing inUse.1 inUse.2] at same
      cases same
  · intro different
    dsimp only
    rw [changed]
    have elsewhere : tinfo ≠ (permissionFor a addr).2 := by
      rintro rfl
      have same := taken info inUse.1 inUse.2
      rw [different addr rfl] at same
      cases same
    rw [Function.update_of_ne elsewhere, others tinfo elsewhere]
    exact inUse.1

theorem updatePermissions_renewed (env : Env) (tid : List UInt8) (kept : TablesKept a) (failed : Bool)
    (attrs : List Attribute) (inUse : AllocatedPermission a tinfo info) :
    (updatePermissions server env tid a failed attrs).1.chns = a.chns ∧
      RenewedIn (env.ctime + server.permissionLifetime) (ListedIn server tid attrs)
        (updatePermissions server env tid a failed attrs).1 tinfo info := by
  induction attrs generalizing a failed info with
  | nil => exact ⟨rfl, (fun ⟨_, ⟨_, member, _⟩, _⟩ => nomatch member), fun _ => inUse.1⟩
  | cons attr rest ih =>
    unfold updatePermissions
    by_cases peer : attr.attrType = stunAttributeXorPeerAddress
    · rw [if_pos peer]
      have first := kept.updatePermission server env (addrSetPort (attr.addr server.mapping tid) 0)
      obtain ⟨chns, first'⟩ := updatePermission_renewed server env kept
        (addrGetPort_setPort_zero (attr.addr server.mapping tid)) inUse
      have listedIn (addr : IoaAddr) : ListedIn server tid (attr :: rest) addr ↔
          addr = addrSetPort (attr.addr server.mapping tid) 0 ∨ ListedIn server tid rest addr := by
        simp [ListedIn, peer]
      dsimp only
      by_cases same : addrEqNoPort info.addr (addrSetPort (attr.addr server.mapping tid) 0) = true
      · obtain ⟨chns', later⟩ := ih first _ ⟨first'.renewed ⟨_, rfl, same⟩, inUse.2⟩
        refine ⟨chns'.trans chns, fun _ => ?_, fun none => ?_⟩
        · by_cases again : ∃ addr, ListedIn server tid rest addr ∧ addrEqNoPort info.addr addr = true
          · exact later.renewed again
          · refine later.untouched fun addr member => ?_
            exact Bool.eq_false_iff.mpr fun equal => again ⟨addr, member, equal⟩
        · rw [none _ ((listedIn _).mpr (Or.inl rfl))] at same
          cases same
      · have before := first'.untouched fun addr equal => equal ▸ Bool.eq_false_iff.mpr same
        obtain ⟨chns', later⟩ := ih first _ ⟨before, inUse.2⟩
        refine ⟨chns'.trans chns, ?_, fun none => ?_⟩
        · rintro ⟨addr, member, equal⟩
          rcases (listedIn addr).mp member with rfl | again
          · exact absurd equal same
          · exact later.renewed ⟨addr, again, equal⟩
        · exact later.untouched fun addr member => none addr ((listedIn addr).mpr (Or.inr member))
    · rw [if_neg peer]
      have listed : ListedIn server tid (attr :: rest) = ListedIn server tid rest := by
        funext x
        simp [ListedIn, peer]
      rw [listed]
      exact ih kept failed inUse

/-- No permission that a request renews has a timer that runs longer than the new one. -/
def RenewsLater (server : TurnServer) (env : Env) (ss : SuperSession) (m : Request) : Prop :=
  ∀ tinfo info addr, AllocatedPermission ss.alloc tinfo info → Lists server m addr →
    addrEqNoPort info.addr addr = true → info.removal ≤ ((env.ctime + server.permissionLifetime : Nat) : WithTop Nat)

theorem TablesKept.neverShortened_iff {server : TurnServer} {env : Env} {ss : SuperSession} {m : Request}
    (kept : TablesKept ss.alloc) :
    NeverShortened ss.alloc (updatePermissions server env m.tid ss.alloc false m.attrs).1 ↔ RenewsLater server env ss m := by
  have renewed {tinfo : SlotRef} {info : TurnPermissionInfo} (inUse : AllocatedPermission ss.alloc tinfo info) :=
    updatePermissions_renewed server env m.tid kept false m.attrs inUse
  have listedIn {info : TurnPermissionInfo} : (∃ addr, ListedIn server m.tid m.attrs addr ∧
      addrEqNoPort info.addr addr = true) ↔ ∃ addr, Lists server m addr ∧ addrEqNoPort info.addr addr = true := by
    constructor
    · rintro ⟨_, ⟨attr, member, type, rfl⟩, same⟩
      rw [addrEqNoPort_setPort] at same
      exact ⟨_, ⟨attr, member, type, rfl⟩, same⟩
    · rintro ⟨_, ⟨attr, member, type, rfl⟩, same⟩
      exact ⟨_, ⟨attr, member, type, rfl⟩, by rw [addrEqNoPort_setPort]; exact same⟩
  constructor
  · intro never tinfo info addr inUse lists same
    obtain ⟨info', inUse', longer⟩ := never.permissions inUse
    have after := (renewed inUse).2.renewed (listedIn.mpr ⟨addr, lists, same⟩)
    rw [Option.some.inj (inUse'.1.symm.trans after)] at longer
    exact longer
  · intro later
    have permissions {tinfo : SlotRef} {info : TurnPermissionInfo} (inUse : AllocatedPermission ss.alloc tinfo info) :
        ∃ info', AllocatedPermission (updatePermissions server env m.tid ss.alloc false m.attrs).1 tinfo info' ∧
          info.removal ≤ info'.removal := by
      by_cases listed : ∃ addr, Lists server m addr ∧ addrEqNoPort info.addr addr = true
      · refine ⟨_, ⟨(renewed inUse).2.renewed (listedIn.mpr listed), inUse.2⟩, ?_⟩
        obtain ⟨addr, lists, same⟩ := listed
        exact later tinfo info addr inUse lists same
      · refine ⟨info, ⟨(renewed inUse).2.untouched fun addr member => ?_, inUse.2⟩, le_refl _⟩
        exact Bool.eq_false_iff.mpr fun same => listed (listedIn.mp ⟨addr, member, same⟩)
    refine ⟨permissions, ?_⟩
    intro chn ch live
    -- The channel keeps its own timer, and its permission one that fires no earlier.
    obtain ⟨tinfo, info, owner, inUse, _⟩ := kept.consistent.owner live
    obtain ⟨info', inUse', longer⟩ := permissions inUse
    refine ⟨ch, ⟨by rw [(renewed inUse).1]; exact live.1, live.2⟩, ?_⟩
    unfold channelRemoval
    rw [owner, Option.bind_some, Option.bind_some, inUse.1, inUse'.1]
    exact min_le_min_left _ longer

/-- A CreatePermission shortens nothing exactly when no permission that it renews would have lasted longer. -/
theorem create_permission_never_shortens {server : TurnServer} {env : Env} {ss : SuperSession} {m : Request}
    (kept : TablesKept ss.alloc) (success : (handleTurnCreatePermission server env ss m).2.respConstructed = true) :
    NeverShortened ss.alloc (handleTurnCreatePermission server env ss m).1.alloc ↔ RenewsLater server env ss m := by
  rcases createPermission_cases server env ss m with ⟨_, unanswered⟩ | ⟨_, _, state, _⟩
  · rw [unanswered] at success
    cases success
  · rw [state]
    exact kept.neverShortened_iff

/-- The example's allocation with a channel bound at 100, so that its permission lasts until 700. -/
def exampleBound : SuperSession := (handleTurnChannelBind exampleServer exampleEnv exampleAllocated.ss exampleChannelBind).1

theorem exampleBound_kept : TablesKept exampleBound.alloc :=
  handleTurnChannelBind_kept exampleServer exampleEnv (.init rfl rfl) exampleChannelBind

/-- A CreatePermission for the peer of the channel. -/
def exampleRenewal : Request := .ofAttributes stunMethodCreatePermission [examplePeer 0x0900000A (nswap16 4000)]

/-- At 500 the new permission would last longer than the old one. -/
theorem create_permission_never_shortens_late :
    NeverShortened exampleBound.alloc
      (handleTurnCreatePermission exampleServer { exampleEnv with ctime := 500 } exampleBound exampleRenewal).1.alloc := by
  refine (create_permission_never_shortens exampleBound_kept (by decide +kernel)).mpr ?_
  rintro tinfo info addr ⟨known, allocated⟩ _ _
  have timers : ∀ row ∈ List.range turnPermissionHashtableSize, ∀ info ∈ exampleBound.alloc.addrToPerm row,
      info.allocated = true → info.lifetimeEv = some 700 := by decide +kernel
  have row : tinfo.row ∈ List.range turnPermissionHashtableSize := by
    rw [List.mem_range, (exampleBound_kept.permissions known).row allocated]
    exact Nat.mod_lt _ (by decide)
  rw [TurnPermissionInfo.removal, timers tinfo.row row info (List.mem_of_getElem? known) allocated]
  exact WithTop.coe_le_coe.mpr (by decide)

/-- At 150 the permission of a channel is cut down from 700 to 450, and the channel with it. -/
theorem renewal_shortens_channel :
    ¬ ∀ (server : TurnServer) (env : Env) (ss : SuperSession) (m : Request), TablesKept ss.alloc →
      ss.alloc.isValid = true → 0 < server.channelLifetime → 0 < server.permissionLifetime →
        (handleTurnCreatePermission server env ss m).2.respConstructed = true →
          NeverShortened ss.alloc (handleTurnCreatePermission server env ss m).1.alloc := by
  intro claimed
  have never := claimed exampleServer { exampleEnv with ctime := 150 } exampleBound exampleRenewal exampleBound_kept
    (by decide +kernel) (by decide) (by decide) (by decide +kernel)
  have shortened : ∃ row ∈ List.range turnPermissionHashtableSize,
      (exampleBound.alloc.addrToPerm.get ⟨row, 0⟩).any (fun info => info.allocated && info.lifetimeEv == some 700) = true ∧
        ((handleTurnCreatePermission exampleServer { exampleEnv with ctime := 150 } exampleBound
          exampleRenewal).1.alloc.addrToPerm.get ⟨row, 0⟩).any (fun info => info.lifetimeEv == some 450) = true := by
    decide +kernel
  obtain ⟨row, _, before, after⟩ := shortened
  rw [Option.any_eq_true] at before after
  obtain ⟨info, known, inUse⟩ := before
  obtain ⟨info', known', timer'⟩ := after
  rw [Bool.and_eq_true, beq_iff_eq] at inUse
  rw [beq_iff_eq] at timer'
  obtain ⟨info'', inUse'', longer⟩ := never.permissions ⟨known, inUse.1⟩
  rw [Option.some.inj (inUse''.1.symm.trans known'), TurnPermissionInfo.removal, TurnPermissionInfo.removal, inUse.2,
    timer'] at longer
  exact absurd (WithTop.coe_le_coe.mp longer) (by decide)

end Server
end TurnCluster
