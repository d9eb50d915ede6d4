import TurnCluster.Lib.Run
import TurnCluster.Server.Expiry
import TurnCluster.Server.Identity
import TurnCluster.Server.Quota
import TurnCluster.Server.RealmQuota

namespace TurnCluster
namespace Server

/-- A call of a quota callback, with what the check says. -/
inductive QuotaCall
  | granted (c : Charge)
  | refused (c : Charge)
  | released (c : Charge)
  deriving DecidableEq, Repr

/-- What `dec_quota` passes to the callback. -/
def SuperSession.charge (ss : SuperSession) : Charge := ⟨some ss.username, ss.oauth, some ss.realm.name⟩

def decQuotaCalls (ss : SuperSession) : List QuotaCall :=
  if ss.quotaUsed = true then [.released ss.charge] else []

def incQuotaCalls (server : TurnServer) (env : Env) (ss : SuperSession) (username : List UInt8) : List QuotaCall :=
  if ss.quotaUsed = true then []
  else if server.longTerm = true ∧ ss.originSet = false then []
  else if env.quota username ss.oauth ss.realm.name = false then
    [.refused ⟨some username, ss.oauth, some ss.realm.name⟩]
  else [.granted ⟨some username, ss.oauth, some ss.realm.name⟩]

/-- A session with the calls that were made for it, the latest first. -/
structure PairingWorld where
  session : SuperSession
  calls : List QuotaCall

namespace PairingWorld

/-- `handle_turn_allocate`. -/
def allocate (server : TurnServer) (env : Env) (w : PairingWorld) (m : Request) : PairingWorld where
  session := (handleTurnAllocate server env w.session m).1
  calls :=
    match quotaName server w.session m with
    | none => w.calls
    | some name => incQuotaCalls server env w.session name ++ w.calls

/-- `resume_processing_after_username_check` up to the second reading of the request. The flag is
written before the quota is given back. -/
def resume (server : TurnServer) (env : Env) (w : PairingWorld) (answer : Option UserKey) (realm : List UInt8) :
    PairingWorld :=
  match w.session.client, answer with
  | some _, some key =>
    { session := acceptUserKey server env w.session key realm
      calls :=
        if realm ≠ [] ∧ realm ≠ w.session.realm.name then
          incQuotaCalls server env
              { decQuota w.session with oauth := key.oauth, realm := getRealmOptionsByName server env realm }
              w.session.username ++
            (decQuotaCalls { w.session with oauth := key.oauth } ++ w.calls)
        else w.calls }
  | _, _ => w

/-- `copy_auth_parameters`: after the copy the session has the name, the realm and the flags of the other. -/
def copyAuth (server : TurnServer) (env : Env) (w : PairingWorld) (orig : SuperSession) : PairingWorld where
  session := copyAuthParameters server env orig w.session
  calls := incQuotaCalls server env (decQuota orig) orig.username ++ (decQuotaCalls w.session ++ w.calls)

/-- `shutdown_client_connection`. -/
def shutdown (w : PairingWorld) (force : Bool) : PairingWorld where
  session := shutdownClientConnection w.session force
  calls := decQuotaCalls w.session ++ w.calls

end PairingWorld

inductive PairingEvent
  | allocate (env : Env) (m : Request)
  | auth (env : Env) (m : Request) (method : UInt16) (canResume : Bool)
  | resume (env : Env) (answer : Option UserKey) (realm : List UInt8)
  | copyAuth (env : Env) (orig : SuperSession)
  | shutdown (force : Bool)
  /-- The session changes in something else. -/
  | elsewhere (session : SuperSession)

def pairingStep (server : TurnServer) (w : PairingWorld) : PairingEvent → PairingWorld
  | .allocate env m => w.allocate server env m
  | .auth env m method canResume => { w with session := (checkStunAuth server env w.session m method canResume).ss }
  | .resume env answer realm => w.resume server env answer realm
  | .copyAuth env orig => w.copyAuth server env orig
  | .shutdown force => w.shutdown force
  | .elsewhere session => { w with session := session }

/-- Sessions that would release the same charge, or none. -/
structure SameHolder (ss ss' : SuperSession) : Prop where
  charge : ss'.charge = ss.charge
  used : ss'.quotaUsed = ss.quotaUsed

def pairingMachine (server : TurnServer) : Machine PairingWorld PairingEvent Unit where
  init w := ∃ id client, w = ⟨createNewSs server id client, []⟩
  enabled w e :=
    match e with
    | .elsewhere session => SameHolder w.session session
    | _ => True
  next w e := some (pairingStep server w e, ())

/-- The latest successful check. -/
def latestGrant : List QuotaCall → Option Charge
  | [] => none
  | .granted c :: _ => some c
  | _ :: rest => latestGrant rest

/-- Every release repeats the latest successful check before it. -/
def Paired : List QuotaCall → Prop
  | [] => True
  | .released c :: rest => latestGrant rest = some c ∧ Paired rest
  | _ :: rest => Paired rest

/-- The charges for which there was no release. -/
def unreleased : List QuotaCall → List Charge
  | [] => []
  | .granted c :: rest => c :: unreleased rest
  | .refused _ :: rest => unreleased rest
  | .released c :: rest => (unreleased rest).erase c

/-- While a charge is held, a ConnectionBind is for the session's realm, a request brings no other name to a session
that would take it, and a key that was looked up comes with the session's flag. -/
def KeepsCharged (server : TurnServer) (w : PairingWorld) : PairingEvent → Prop
  | .auth env m method _ => w.session.quotaUsed = true → server.longTerm = true →
      (∀ realm, realmRead m = some realm → method = stunMethodConnectionBind →
        (getRealmOptionsByName server env realm).name = w.session.realm.name) ∧
      ∀ name, nameRead w.session m method = some name →
        w.session.oauth = false ∧ w.session.username ≠ [] ∨ name = w.session.username
  | .resume _ answer _ => w.session.quotaUsed = true → ∀ key, answer = some key → key.oauth = w.session.oauth
  | _ => True

/-- The part of the session on which the charge depends. -/
def SuperSession.holder (ss : SuperSession) : Bool × Charge := (ss.quotaUsed, ss.charge)

variable {ss ss' : SuperSession} {calls : List QuotaCall}

theorem SameHolder.of_holder (holder : ss'.holder = ss.holder) : SameHolder ss ss' := by
  obtain ⟨used, charge⟩ := Prod.mk.inj holder
  exact ⟨charge, used⟩

theorem holder_frame : RelayFrame SuperSession.holder := by
  refine ⟨?_, ?_, fun _ _ => rfl, fun _ _ => rfl⟩
  · intro ss family r
    cases family <;> rfl
  · intro ss family
    cases family <;> rfl

section Holder

variable (server : TurnServer) (env : Env)
variable (ss : SuperSession)

/-- What a check of the quota makes of the holder depends on the holder and `origin_set` only. -/
theorem incQuota_holder (username : List UInt8) :
    (incQuota server env ss username).2.holder =
      if ss.quotaUsed = true ∨ (server.longTerm = true ∧ ss.originSet = false) ∨
        env.quota username ss.oauth ss.realm.name = false
      then ss.holder else (true, ⟨some username, ss.oauth, some ss.realm.name⟩) := by
  unfold incQuota
  by_cases used : ss.quotaUsed = true
  · rw [if_pos used, if_pos (.inl used)]
  · rw [if_neg used]
    by_cases early : server.longTerm = true ∧ ss.originSet = false
    · rw [if_pos early, if_pos (.inr (.inl early))]
    · rw [if_neg early]
      by_cases refused : env.quota username ss.oauth ss.realm.name = false
      · rw [if_pos refused, if_pos (.inr (.inr refused))]
      · rw [if_neg refused, if_neg (not_or.mpr ⟨used, not_or.mpr ⟨early, refused⟩⟩)]
        rfl

theorem allocateAccepted_holder (m : Request) (s : AllocateScan) :
    (allocateAccepted server env ss m s).1.holder = (incQuota server env ss s.username).2.holder := by
  have charged : (incQuota server env
      { ss with mobileId := bif server.mobility && !ss.isMobile then 0 else ss.mobileId } s.username).2.holder =
        (incQuota server env ss s.username).2.holder := by
    rw [incQuota_holder, incQuota_holder]
    rfl
  unfold allocateAccepted
  dsimp only
  split
  · exact charged
  · rw [holder_frame.allocateCharged]
    exact charged

theorem handleTurnAllocate_holder (m : Request) :
    (handleTurnAllocate server env ss m).1.holder =
      match quotaName server ss m with
      | none => ss.holder
      | some name => (incQuota server env ss name).2.holder := by
  unfold handleTurnAllocate quotaName
  by_cases valid : ss.alloc.isValid = true
  · rw [if_pos valid, if_pos valid]
  · rw [if_neg valid, if_neg valid]
    change (allocateChecked server env _ m (allocateScanned server ss m)).1.holder = _
    generalize allocateScanned server ss m = s
    unfold allocateChecked
    by_cases transport : s.transport = 0
    · rw [if_pos transport, if_pos (.inl transport)]
      rfl
    · rw [if_neg transport]
      by_cases unknown : s.scan.unknownAttrs ≠ []
      · rw [if_pos unknown, if_pos (.inr (.inl unknown))]
        rfl
      · rw [if_neg unknown]
        by_cases failed : s.scan.errCode ≠ 0
        · rw [if_pos failed, if_pos (.inr (.inr failed))]
          rfl
        · rw [if_neg failed, if_neg (not_or.mpr ⟨transport, not_or.mpr ⟨unknown, failed⟩⟩)]
          split
          · rfl
          · rw [allocateAccepted_holder]
            refine Eq.trans (b := (incQuota server env ss s.username).2.holder) ?_ ?_
            · rw [incQuota_holder, incQuota_holder]
              rfl
            · by_cases kept : ss.quotaUsed = true ∨ server.longTerm = true ∧ ss.originSet = false
              · rw [if_pos kept, incQuota_holder, if_pos (kept.imp id Or.inl)]
              · rw [if_neg kept]

theorem acceptUserKey_holder (key : UserKey) (realm : List UInt8) :
    (acceptUserKey server env ss key realm).holder =
      if realm ≠ [] ∧ realm ≠ ss.realm.name then
        (incQuota server env
          { decQuota ss with oauth := key.oauth, realm := getRealmOptionsByName server env realm } ss.username).2.holder
      else { ss with oauth := key.oauth }.holder := by
  unfold acceptUserKey
  dsimp only
  split
  · rw [incQuota_holder, incQuota_holder]
    rfl
  · rfl

theorem copyAuthParameters_holder (orig ss : SuperSession) :
    (copyAuthParameters server env orig ss).holder =
      (incQuota server env (decQuota orig) orig.username).2.holder := by
  unfold copyAuthParameters
  dsimp only
  rw [incQuota_holder, incQuota_holder]
  rfl

end Holder

/-- The holder after the check of any request, whatever the check comes to. -/
theorem checkStunAuth_holder (server : TurnServer) (env : Env) (ss : SuperSession) (m : Request) (method : UInt16)
    (canResume : Bool) (longTerm : server.longTerm = true) :
    (checkStunAuth server env ss m method canResume).ss.holder =
      (ss.quotaUsed, ⟨some (takenName ss.oauth ss.username (nameRead ss m method)), ss.oauth,
        some (takenRealm server env ss.realm method (realmRead m)).name⟩) := by
  obtain ⟨used, rest⟩ := Prod.mk.inj (checkStunAuth_identity server env ss m method canResume longTerm)
  obtain ⟨used, oauth⟩ := Prod.mk.inj used
  obtain ⟨username, realm⟩ := Prod.mk.inj rest
  rw [SuperSession.holder, SuperSession.charge, used, oauth, username, realm]

/-- What every such run keeps: a session that holds quota holds its latest grant, and nothing else is open. -/
structure Held (ss : SuperSession) (calls : List QuotaCall) : Prop where
  paired : Paired calls
  used : ss.quotaUsed = true → latestGrant calls = some ss.charge ∧ unreleased calls = [ss.charge]
  free : ss.quotaUsed = false → unreleased calls = []

theorem Held.congr (held : Held ss calls) (same : SameHolder ss ss') : Held ss' calls := by
  refine ⟨held.paired, ?_, ?_⟩
  · rw [same.used, same.charge]
    exact held.used
  · rw [same.used]
    exact held.free

theorem Held.change (held : Held ss calls) (before : ss.quotaUsed = false) (after : ss'.quotaUsed = false) :
    Held ss' calls := by
  refine ⟨held.paired, fun used => ?_, fun _ => held.free before⟩
  rw [after] at used
  cases used

theorem Held.dec (held : Held ss calls) (after : ss'.quotaUsed = false) : Held ss' (decQuotaCalls ss ++ calls) := by
  unfold decQuotaCalls
  by_cases used : ss.quotaUsed = true
  · obtain ⟨latest, only⟩ := held.used used
    rw [if_pos used]
    refine ⟨⟨latest, held.paired⟩, fun used' => ?_, fun _ => ?_⟩
    · rw [after] at used'
      cases used'
    · change (unreleased calls).erase ss.charge = []
      rw [only, List.erase_cons_head]
  · rw [if_neg used]
    exact held.change (Bool.eq_false_iff.mpr used) after

theorem Held.inc (held : Held ss calls) (server : TurnServer) (env : Env) (username : List UInt8) :
    Held (incQuota server env ss username).2 (incQuotaCalls server env ss username ++ calls) := by
  have holder := incQuota_holder server env ss username
  unfold incQuotaCalls
  by_cases used : ss.quotaUsed = true
  · rw [if_pos (.inl used)] at holder
    rw [if_pos used]
    exact held.congr (.of_holder holder)
  · rw [if_neg used]
    by_cases early : server.longTerm = true ∧ ss.originSet = false
    · rw [if_pos (.inr (.inl early))] at holder
      rw [if_pos early]
      exact held.congr (.of_holder holder)
    · rw [if_neg early]
      by_cases refused : env.quota username ss.oauth ss.realm.name = false
      · rw [if_pos (.inr (.inr refused))] at holder
        have kept : Held (incQuota server env ss username).2 calls := held.congr (.of_holder holder)
        rw [if_pos refused]
        exact ⟨kept.paired, kept.used, kept.free⟩
      · rw [if_neg (not_or.mpr ⟨used, not_or.mpr ⟨early, refused⟩⟩)] at holder
        obtain ⟨charged, charge⟩ := Prod.mk.inj holder
        rw [if_neg refused]
        refine ⟨held.paired, fun _ => ?_, fun free => ?_⟩
        · rw [charge]
          refine ⟨rfl, ?_⟩
          change _ :: unreleased calls = _
          rw [held.free (Bool.eq_false_iff.mpr used)]
        · exact absurd (charged.symm.trans free) (by decide)

section Steps

variable {server : TurnServer} {w : PairingWorld}

theorem Held.allocate (held : Held w.session w.calls) (env : Env) (m : Request) :
    Held (w.allocate server env m).session (w.allocate server env m).calls := by
  have holder := handleTurnAllocate_holder server env w.session m
  unfold PairingWorld.allocate
  cases reached : quotaName server w.session m with
  | none =>
    rw [reached] at holder
    exact held.congr (.of_holder holder)
  | some name =>
    rw [reached] at holder
    exact (held.inc server env name).congr (.of_holder holder)

theorem Held.auth (held : Held w.session w.calls) {env : Env} {m : Request} {method : UInt16} {canResume : Bool}
    (keeps : KeepsCharged server w (.auth env m method canResume)) :
    Held (checkStunAuth server env w.session m method canResume).ss w.calls := by
  by_cases longTerm : server.longTerm = true
  · have holder := checkStunAuth_holder server env w.session m method canResume longTerm
    by_cases used : w.session.quotaUsed = true
    · obtain ⟨realmKept, nameKept⟩ := keeps used longTerm
      have name : takenName w.session.oauth w.session.username (nameRead w.session m method) = w.session.username := by
        cases read : nameRead w.session m method with
        | none => rfl
        | some name =>
          unfold takenName
          dsimp only
          split
          · rfl
          · rename_i taken
            rcases nameKept name read with own | same
            · contradiction
            · exact same
      have realm : (takenRealm server env w.session.realm method (realmRead m)).name = w.session.realm.name := by
        cases read : realmRead m with
        | none => rfl
        | some realm =>
          unfold takenRealm
          dsimp only
          split
          · rename_i isBind
            exact realmKept realm read isBind
          · rfl
      rw [name, realm] at holder
      exact held.congr (.of_holder holder)
    · have free := Bool.eq_false_iff.mpr used
      exact held.change free ((congrArg Prod.fst holder).trans free)
  · have off := Bool.eq_false_iff.mpr longTerm
    have same : (checkStunAuth server env w.session m method canResume).ss = w.session := by
      unfold checkStunAuth
      rw [if_pos off]
    rw [same]
    exact held

theorem Held.resume (held : Held w.session w.calls) {env : Env} {answer : Option UserKey} {realm : List UInt8}
    (keeps : KeepsCharged server w (.resume env answer realm)) :
    Held (w.resume server env answer realm).session (w.resume server env answer realm).calls := by
  unfold PairingWorld.resume
  split
  · rename_i key _
    have holder := acceptUserKey_holder server env w.session key realm
    -- the flag is new before the quota is given back
    have flagged : Held { w.session with oauth := key.oauth } w.calls := by
      by_cases used : w.session.quotaUsed = true
      · rw [keeps used key rfl]
        exact held
      · have free := Bool.eq_false_iff.mpr used
        exact held.change free free
    dsimp only
    by_cases moves : realm ≠ [] ∧ realm ≠ w.session.realm.name
    · rw [if_pos moves] at holder ⊢
      have freed : Held { decQuota w.session with oauth := key.oauth, realm := getRealmOptionsByName server env realm }
          (decQuotaCalls { w.session with oauth := key.oauth } ++ w.calls) := flagged.dec rfl
      exact (freed.inc server env w.session.username).congr (.of_holder holder)
    · rw [if_neg moves] at holder ⊢
      exact flagged.congr (.of_holder holder)
  · exact held

theorem Held.copyAuth (held : Held w.session w.calls) (env : Env) (orig : SuperSession) :
    Held (w.copyAuth server env orig).session (w.copyAuth server env orig).calls := by
  have holder := copyAuthParameters_holder server env orig w.session
  have freed : Held (decQuota orig) (decQuotaCalls w.session ++ w.calls) := held.dec rfl
  exact (freed.inc server env orig.username).congr (.of_holder holder)

theorem shutdown_free (force : Bool) : (w.shutdown force).session.quotaUsed = false := by
  change (shutdownClientConnection w.session force).quotaUsed = false
  unfold shutdownClientConnection
  dsimp only
  split <;> rfl

theorem Held.shutdown (held : Held w.session w.calls) (force : Bool) :
    Held (w.shutdown force).session (w.shutdown force).calls :=
  held.dec (shutdown_free force)

theorem Held.step (held : Held w.session w.calls) {e : PairingEvent} (enabled : (pairingMachine server).enabled w e)
    (keeps : KeepsCharged server w e) : Held (pairingStep server w e).session (pairingStep server w e).calls := by
  cases e with
  | allocate env m => exact held.allocate env m
  | auth env m method canResume => exact held.auth keeps
  | resume env answer realm => exact held.resume keeps
  | copyAuth env orig => exact held.copyAuth env orig
  | shutdown force => exact held.shutdown force
  | elsewhere session => exact held.congr enabled

end Steps

/-- Every release is of the latest grant, and a shutdown leaves nothing charged, in every run that keeps a charged
session as it was charged. -/
theorem quota_calls_paired {server : TurnServer} {w : PairingWorld}
    (reach : (pairingMachine server).Reach (KeepsCharged server) w) :
    Paired w.calls ∧ ∀ force, unreleased (pairingStep server w (.shutdown force)).calls = [] := by
  have held : Held w.session w.calls := by
    refine reach.invariant (P := fun w => Held w.session w.calls) ?_ ?_
    · rintro _ ⟨id, client, rfl⟩
      exact ⟨trivial, fun used => (Bool.false_ne_true used).elim, fun _ => rfl⟩
    · intro s s' e o held enabled keeps run
      have next := congrArg Prod.fst (Option.some.inj run)
      dsimp only at next
      rw [← next]
      exact held.step enabled keeps
  exact ⟨held.paired, fun force => (held.shutdown force).free (shutdown_free force)⟩

/-- A new session whose first Allocate, of the user `a`, was granted quota in the realm `r`. -/
def exampleCharged : PairingWorld :=
  pairingStep exampleServer ⟨exampleKeyed, []⟩ (.allocate exampleEnv exampleOneName)

theorem exampleCharged_reach {guard : PairingWorld → PairingEvent → Prop}
    (elsewhere : ∀ w session, guard w (.elsewhere session)) (allocate : ∀ w env m, guard w (.allocate env m)) :
    (pairingMachine exampleServer).Reach guard exampleCharged := by
  have fresh : (pairingMachine exampleServer).Reach guard ⟨exampleNode.ss, []⟩ := .start ⟨_, _, rfl⟩
  have keyed : SameHolder exampleNode.ss exampleKeyed := ⟨rfl, rfl⟩
  have ready : (pairingMachine exampleServer).Reach guard ⟨exampleKeyed, []⟩ :=
    .next (e := .elsewhere exampleKeyed) fresh keyed (elsewhere _ _) rfl
  exact .next (e := .allocate exampleEnv exampleOneName) ready trivial (allocate _ _ _) rfl

theorem quota_calls_paired_closed :
    exampleCharged.calls = [.granted ⟨some [97], false, some [114]⟩] ∧ Paired exampleCharged.calls ∧
      unreleased (pairingStep exampleServer exampleCharged (.shutdown true)).calls = [] := by
  obtain ⟨paired, closed⟩ := quota_calls_paired (exampleCharged_reach (fun _ _ => trivial) (fun _ _ _ => trivial))
  exact ⟨by decide +kernel, paired, closed true⟩

/-- A ConnectionBind for the realm `q`, without a user name. -/
def exampleForeignBind : Request :=
  .ofAttributes stunMethodConnectionBind [⟨stunAttributeRealm, [113]⟩, exampleIntegrity [1]]

/-- After it the session gives the quota back in the realm `q`. -/
theorem foreign_bind_releases_elsewhere :
    ¬ ∀ (server : TurnServer) (w : PairingWorld), (pairingMachine server).Reach (fun _ _ => True) w →
      Paired w.calls ∧ ∀ force, unreleased (pairingStep server w (.shutdown force)).calls = [] := by
  intro claimed
  have charged : (pairingMachine exampleServer).Reach (fun _ _ => True) exampleCharged :=
    exampleCharged_reach (fun _ _ => trivial) (fun _ _ _ => trivial)
  have bound : (pairingMachine exampleServer).Reach (fun _ _ => True) (pairingStep exampleServer exampleCharged
      (.auth exampleEnv exampleForeignBind stunMethodConnectionBind true)) :=
    .next (e := .auth exampleEnv exampleForeignBind stunMethodConnectionBind true) charged trivial trivial rfl
  have closed : (pairingMachine exampleServer).Reach (fun _ _ => True) (pairingStep exampleServer
      (pairingStep exampleServer exampleCharged (.auth exampleEnv exampleForeignBind stunMethodConnectionBind true))
      (.shutdown true)) := .next (e := .shutdown true) bound trivial trivial rfl
  obtain ⟨paired, _⟩ := claimed exampleServer _ closed
  have calls : (pairingStep exampleServer (pairingStep exampleServer exampleCharged
      (.auth exampleEnv exampleForeignBind stunMethodConnectionBind true)) (.shutdown true)).calls =
        [.released ⟨some [97], false, some [113]⟩, .granted ⟨some [97], false, some [114]⟩] := by decide +kernel
  rw [calls] at paired
  exact absurd paired.1 (by decide)

end Server
end TurnCluster
