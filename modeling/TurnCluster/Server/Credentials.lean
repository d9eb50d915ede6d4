import TurnCluster.Server.Command

namespace TurnCluster
namespace Server

/-- The part of a session that says who its client is. -/
structure Credentials where
  username : List UInt8
  realm : List UInt8
  hmackey : List UInt8
  hmackeySet : Bool
  pwd : List UInt8
  oauth : Bool
  originSet : Bool

def SuperSession.credentials (ss : SuperSession) : Credentials :=
  ⟨ss.username, ss.realm.name, ss.hmackey, ss.hmackeySet, ss.pwd, ss.oauth, ss.originSet⟩

variable (server : TurnServer) (env : Env)

/-- A part of the session that neither its relays nor its bandwidth are in. -/
structure RelayFrame {α : Type} (f : SuperSession → α) : Prop where
  relay : ∀ ss family r, f (setRelaySession ss family r) = f ss
  failure : ∀ ss family, f (setRelaySessionFailure ss family) = f ss
  bandwidth : ∀ ss bps, f { ss with bps := bps } = f ss
  alloc : ∀ ss alloc, f { ss with alloc := alloc } = f ss

section Frame

variable {α : Type} {f : SuperSession → α} (frame : RelayFrame f)
include frame

variable (ss : SuperSession) (s : AllocateScan) (lifetime : Nat) (family : Option Family)

theorem RelayFrame.startRelay (s : RelaySocket) (lifetime : Nat) :
    f (Server.startRelay server env ss s lifetime).1 = f ss := by
  unfold Server.startRelay
  split
  · rfl
  · exact frame.relay _ _ _

theorem RelayFrame.createRelayConnection (transport : UInt8) (evenPort : Int) (token : Nat) :
    f (Server.createRelayConnection server env ss lifetime family transport evenPort token).1 = f ss := by
  unfold Server.createRelayConnection
  split
  · rfl
  · split
    · split
      · rfl
      · split
        · rfl
        · rw [frame.startRelay, frame.relay]
    · dsimp only
      split
      · exact frame.relay _ _ _
      · split
        · exact frame.relay _ _ _
        · rw [frame.startRelay, frame.relay]

theorem RelayFrame.allocateFamily (noted : Family) (fallback : Nat) :
    f (Server.allocateFamily server env ss s lifetime family noted fallback).1 = f ss := by
  have opened := frame.createRelayConnection server env ss lifetime family s.transport s.evenPort s.inReservationToken
  unfold Server.allocateFamily
  dsimp only
  split
  · rw [frame.failure, opened]
  · exact opened

theorem RelayFrame.allocateRelays : f (Server.allocateRelays server env ss s lifetime).1 = f ss := by
  unfold Server.allocateRelays
  split
  · exact frame.allocateFamily server env _ _ _ _ _ _
  · exact frame.allocateFamily server env _ _ _ _ _ _
  · exact frame.allocateFamily server env _ _ _ _ _ _
  · dsimp only
    split
    · split <;> simp only [frame.allocateFamily]
    · simp only [frame.allocateFamily]

theorem RelayFrame.allocateBandwidth (bps : Nat) : f (Server.allocateBandwidth env ss bps).1 = f ss := by
  unfold Server.allocateBandwidth
  dsimp only
  split
  · exact frame.bandwidth _ _
  · rfl

theorem RelayFrame.allocateCharged (m : Request) (s : AllocateScan) (lifetime : Nat) :
    f (Server.allocateCharged server env ss m s lifetime).1 = f ss := by
  unfold Server.allocateCharged
  dsimp only
  split
  · exact frame.allocateBandwidth env ss s.bps
  · have opened := frame.allocateRelays server env (Server.allocateBandwidth env ss s.bps).1 s lifetime
    rw [frame.allocateBandwidth] at opened
    split
    · exact opened
    · rw [frame.alloc]
      exact opened

end Frame

theorem credentials_frame : RelayFrame SuperSession.credentials := by
  refine ⟨?_, ?_, fun _ _ => rfl, fun _ _ => rfl⟩
  · intro ss family r
    cases family <;> rfl
  · intro ss family
    cases family <;> rfl

variable {m : Request} (ss : SuperSession) (s : AllocateScan) (method : UInt16) (stream : Bool) {auth : AuthResult}
  {usname : List UInt8} (a : Attribute) (canResume : Bool) (lifetime : Nat)

theorem incQuota_credentials (username : List UInt8) :
    (incQuota server env ss username).2.credentials = ss.credentials ∨
      (incQuota server env ss username).2.credentials = { ss.credentials with username := username } := by
  unfold incQuota
  split
  · exact .inl rfl
  · split
    · exact .inl rfl
    · split
      · exact .inl rfl
      · exact .inr rfl

theorem allocateAccepted_credentials (m : Request) (s : AllocateScan) :
    (allocateAccepted server env ss m s).1.credentials = ss.credentials ∨
      (allocateAccepted server env ss m s).1.credentials = { ss.credentials with username := s.username } := by
  have charged := incQuota_credentials server env
    { ss with mobileId := bif server.mobility && !ss.isMobile then 0 else ss.mobileId } s.username
  unfold allocateAccepted
  dsimp only
  split
  · exact charged
  · rw [credentials_frame.allocateCharged]
    exact charged

/-- One attribute's part in the name that an Allocate is charged to. -/
def chargeName (name : List UInt8) (a : Attribute) : List UInt8 :=
  if a.attrType = stunAttributeUsername ∧ a.value ≠ [] then cString a.value else name

/-- The last USERNAME that is not empty. -/
def chargedName (m : Request) : List UInt8 := m.attrs.foldl chargeName []

/-- The loop went through all attributes without an error. -/
def Scan.Clean (s : Scan) : Prop := s.errCode = 0 ∧ s.unknownAttrs = []

theorem Scan.Clean.running {s : Scan} (clean : s.Clean) : s.running = true := by
  simp [Scan.running, clean.1, clean.2, maxNumberOfUnknownAttrs]

theorem AllocateScan.onUsername_username {s : AllocateScan} {a : Attribute}
    (isName : a.attrType = stunAttributeUsername) (fine : (s.onUsername a).scan.errCode = 0) :
    (s.onUsername a).username = chargeName s.username a := by
  unfold AllocateScan.onUsername at fine ⊢
  by_cases empty : a.value = []
  · simp [empty, chargeName]
  · have charge : chargeName s.username a = cString a.value := if_pos ⟨isName, empty⟩
    rw [if_neg empty] at fine ⊢
    split at fine
    · cases fine
    · rename_i short
      split at fine
      · cases fine
      · rename_i secure
        rw [if_neg short, if_neg secure, charge]

theorem AllocateScan.fail_username (errCode : Nat) (reason : String) :
    (s.fail errCode reason).username = s.username := rfl

theorem AllocateScan.onMobilityTicket_username : (s.onMobilityTicket server a).username = s.username := by
  simp only [onMobilityTicket, apply_ite AllocateScan.username, fail_username, ite_self]

theorem AllocateScan.onRequestedTransport_username (s : AllocateScan) (a : Attribute) :
    (s.onRequestedTransport server stream a).username = s.username := by
  simp only [onRequestedTransport, apply_ite AllocateScan.username, fail_username, ite_self]

theorem AllocateScan.onDontFragment_username : (s.onDontFragment server).username = s.username := by
  simp only [onDontFragment, apply_ite AllocateScan.username, ite_self]

theorem AllocateScan.onLifetime_username : (s.onLifetime a).username = s.username := by
  simp only [onLifetime, apply_ite AllocateScan.username, fail_username, ite_self]

theorem AllocateScan.onEvenPort_username : (s.onEvenPort a).username = s.username := by
  simp only [onEvenPort, apply_ite AllocateScan.username, fail_username, ite_self]

theorem AllocateScan.onReservationToken_username : (s.onReservationToken a).username = s.username := by
  simp only [onReservationToken, apply_ite AllocateScan.username, fail_username, ite_self]

theorem AllocateScan.onAddressFamily_username (additional : Bool) (s : AllocateScan) (a : Attribute) :
    (s.onAddressFamily additional a).username = s.username := by
  unfold onAddressFamily
  cases a.requestedAddressFamily with
  | none => simp only [apply_ite AllocateScan.username, fail_username, ite_self]
  | some family =>
    cases family <;> simp only [apply_ite AllocateScan.username, fail_username, ite_self]

theorem AllocateScan.onAdditionalAddressFamily_username : (s.onAdditionalAddressFamily a).username = s.username := by
  simp only [onAdditionalAddressFamily, apply_ite AllocateScan.username, fail_username, onAddressFamily_username, ite_self]

theorem AllocateScan.body_username_of_ne {s : AllocateScan} {a : Attribute}
    (other : a.attrType ≠ stunAttributeUsername) : (AllocateScan.body server stream s a).username = s.username := by
  unfold AllocateScan.body
  rw [if_neg other]
  simp only [apply_ite AllocateScan.username, onMobilityTicket_username, onRequestedTransport_username,
    onDontFragment_username, onLifetime_username, onEvenPort_username, onReservationToken_username,
    onAdditionalAddressFamily_username, onAddressFamily_username, ite_self]

theorem AllocateScan.body_username {s : AllocateScan} {a : Attribute}
    (fine : (AllocateScan.body server stream s a).scan.errCode = 0) :
    (AllocateScan.body server stream s a).username = chargeName s.username a := by
  by_cases isName : a.attrType = stunAttributeUsername
  · have named : AllocateScan.body server stream s a = s.onUsername a := if_pos isName
    rw [named] at fine ⊢
    exact AllocateScan.onUsername_username isName fine
  · rw [AllocateScan.body_username_of_ne server stream isName, chargeName, if_neg]
    exact fun both => isName both.1

/-- Induction over the attributes: a loop that ends clean has seen all of them. -/
theorem AllocateScan.scan_username (s : AllocateScan) (attrs : List Attribute)
    (clean : (scanAttrs AllocateScan.running (AllocateScan.body server stream) s attrs).scan.Clean) :
    (scanAttrs AllocateScan.running (AllocateScan.body server stream) s attrs).username =
      attrs.foldl chargeName s.username := by
  induction attrs generalizing s with
  | nil => rfl
  | cons a rest next =>
    cases running : AllocateScan.running s with
    | false =>
      rw [scanAttrs_stopped _ running] at clean
      have goes := clean.running
      rw [AllocateScan.running, goes] at running
      cases running
    | true =>
      have turn : scanAttrs AllocateScan.running (AllocateScan.body server stream) s (a :: rest) =
          scanAttrs AllocateScan.running (AllocateScan.body server stream) (AllocateScan.body server stream s a) rest :=
        if_pos running
      rw [turn] at clean ⊢
      rw [next _ clean, List.foldl_cons]
      cases after : AllocateScan.running (AllocateScan.body server stream s a) with
      | false =>
        rw [scanAttrs_stopped _ after] at clean
        rw [AllocateScan.body_username server stream clean.1]
      | true =>
        have fine : (AllocateScan.body server stream s a).scan.errCode = 0 := by
          simp only [AllocateScan.running, Scan.running, Bool.and_eq_true, beq_iff_eq] at after
          exact after.1
        rw [AllocateScan.body_username server stream fine]

theorem allocateChecked_credentials (m : Request) (s : AllocateScan) :
    (allocateChecked server env ss m s).1.credentials = ss.credentials ∨
      s.scan.Clean ∧ (allocateChecked server env ss m s).1.credentials = { ss.credentials with username := s.username } := by
  unfold allocateChecked
  split
  · exact .inl rfl
  · split
    · exact .inl rfl
    · rename_i known
      split
      · exact .inl rfl
      · rename_i fine
        split
        · exact .inl rfl
        · rcases allocateAccepted_credentials server env ss m s with same | charged
          · exact .inl same
          · exact .inr ⟨⟨not_not.mp fine, not_not.mp known⟩, charged⟩

theorem handleTurnAllocate_credentials (m : Request) :
    (handleTurnAllocate server env ss m).1.credentials = ss.credentials ∨
      (handleTurnAllocate server env ss m).1.credentials = { ss.credentials with username := chargedName m } := by
  unfold handleTurnAllocate
  split
  · exact .inl rfl
  · dsimp only
    rcases allocateChecked_credentials server env _ m _ with same | ⟨clean, charged⟩
    · exact .inl same
    · rw [AllocateScan.scan_username server _ _ _ clean] at charged
      exact .inr charged

theorem refreshRelayConnection_credentials {ss after : SuperSession} {lifetime : Nat} {family : Family}
    (done : refreshRelayConnection env ss lifetime family = some after) : after.credentials = ss.credentials := by
  unfold refreshRelayConnection at done
  split at done
  · cases done
    exact credentials_frame.relay _ _ _
  · cases done

theorem refreshSix_credentials (af6 : Bool) :
    (refreshFamilies.refreshSix env ss lifetime af6).1.credentials = ss.credentials := by
  unfold refreshFamilies.refreshSix
  split
  · rfl
  · rfl
  · rename_i done
    exact refreshRelayConnection_credentials env done

theorem refreshFamilies_credentials (af4 af6 : Bool) :
    (refreshFamilies env ss lifetime af4 af6).1.credentials = ss.credentials := by
  unfold refreshFamilies
  split
  · rfl
  · exact refreshSix_credentials env ss lifetime af6
  · rename_i after done
    rw [refreshSix_credentials, refreshRelayConnection_credentials env done]

theorem refreshOwn_credentials (s : RefreshScan) (af4c af6c : Bool) :
    (refreshOwn server env ss s af4c af6c).1.credentials = ss.credentials := by
  unfold refreshOwn
  dsimp only
  split
  · exact refreshFamilies_credentials env _ _ _ _
  · exact refreshFamilies_credentials env _ _ _ _

theorem handleTurnRefresh_credentials {server : TurnServer} (fixed : server.mobility = false) (node : Node) (m : Request)
    (canResume : Bool) :
    (handleTurnRefresh server env node m canResume).node.ss.credentials = node.ss.credentials ∧
      (handleTurnRefresh server env node m canResume).lookup = none := by
  unfold handleTurnRefresh
  dsimp only
  split
  · exact ⟨rfl, rfl⟩
  · rename_i mobile
    unfold refreshChecked
    split
    · exact ⟨rfl, rfl⟩
    · split
      · exact ⟨rfl, rfl⟩
      · split
        · rename_i invalid
          exact absurd ⟨invalid, fixed⟩ mobile
        · exact ⟨refreshOwn_credentials server env _ _ _ _, rfl⟩

theorem handleTurnChannelBind_credentials (m : Request) :
    (handleTurnChannelBind server env ss m).1.credentials = ss.credentials := by
  unfold handleTurnChannelBind
  split
  · rfl
  · split
    · rfl
    · unfold channelBindChecked
      repeat' split
      all_goals rfl

theorem handleTurnCreatePermission_credentials (m : Request) :
    (handleTurnCreatePermission server env ss m).1.credentials = ss.credentials := by
  unfold handleTurnCreatePermission
  split
  · rfl
  · unfold createPermissionChecked
    repeat' split
    all_goals rfl

theorem runHandler_credentials {server : TurnServer} (fixed : server.mobility = false) (node : Node) (m : Request)
    (method : UInt16) (canResume : Bool) :
    ((runHandler server env node m method canResume).node.ss.credentials = node.ss.credentials ∨
      method = stunMethodAllocate ∧ (runHandler server env node m method canResume).node.ss.credentials =
        { node.ss.credentials with username := chargedName m }) ∧
    (runHandler server env node m method canResume).lookup = none := by
  unfold runHandler
  split
  · rename_i isAllocate
    refine ⟨?_, rfl⟩
    rcases handleTurnAllocate_credentials server env node.ss m with same | charged
    · exact .inl same
    · exact .inr ⟨isAllocate, charged⟩
  · split
    · have refreshed := handleTurnRefresh_credentials env fixed node m canResume
      exact ⟨.inl refreshed.1, refreshed.2⟩
    · split
      · exact ⟨.inl (handleTurnChannelBind_credentials server env node.ss m), rfl⟩
      · split
        · exact ⟨.inl (handleTurnCreatePermission_credentials server env node.ss m), rfl⟩
        · exact ⟨.inl rfl, rfl⟩

/-- The name and the realm that a request carries, as C strings of the sizes the server reads. -/
def claimedUsername (m : Request) : Option (List UInt8) :=
  (firstOfType m.attrs stunAttributeUsername).map (fun a => boundedString stunMaxUsernameSize a.value)

def claimedRealm (m : Request) : Option (List UInt8) :=
  (firstOfType m.attrs stunAttributeRealm).map (fun a => boundedString stunMaxRealmSize a.value)

/-- What `check_stun_auth` has established without OAuth whenever it goes as far as the key. -/
structure Claims (m : Request) (before after : Credentials) : Prop where
  realm : claimedRealm m = some before.realm
  username : claimedUsername m = some after.username

/-- A session without a name takes the one that a request claims. -/
def TakesName (m : Request) (before after : Credentials) : Prop :=
  after = before ∨ before.username = [] ∧ Claims m before after ∧ after = { before with username := after.username }

/-- The ways in which the check of a request can end without OAuth. -/
structure AuthSpec (server : TurnServer) (m : Request) (before : Credentials) (auth : AuthResult) : Prop where
  kept : TakesName m before auth.ss.credentials
  pass : auth.passes = true → Claims m before auth.ss.credentials ∧
    (before.hmackeySet = true ∨ before.pwd ≠ []) ∧ 1 ≤ stunCheckMessageIntegrityByKeyStr server m before.hmackey
  wait : ∀ lookup, auth.lookup = some lookup → Claims m before auth.ss.credentials ∧ lookup.request = m ∧
    lookup.username = auth.ss.username ∧ lookup.realm = before.realm

theorem AuthSpec.refused {server : TurnServer} {before : Credentials} (kept : TakesName m before auth.ss.credentials)
    (refused : auth.reply.errCode ≠ 0) (answered : auth.lookup = none) : AuthSpec server m before auth := by
  refine ⟨kept, ?_, ?_⟩
  · intro passes
    simp only [AuthResult.passes, Reply.goesOn, Bool.and_eq_true, beq_iff_eq] at passes
    exact absurd passes.1.1.1 refused
  · intro lookup waits
    rw [answered] at waits
    cases waits

theorem renamed_username (usname : List UInt8) : (renamed ss usname).username = usname := by
  unfold renamed
  split
  · rfl
  · split
    · assumption
    · rfl

theorem renamed_credentials {ss : SuperSession} (agrees : ss.username ≠ [] → ss.username = usname) :
    (renamed ss usname).credentials = ss.credentials ∨
      ss.username = [] ∧ (renamed ss usname).credentials = { ss.credentials with username := usname } := by
  unfold renamed
  split
  · rename_i empty
    exact .inr ⟨empty, rfl⟩
  · rename_i has
    rw [if_pos (agrees has)]
    exact .inl rfl

theorem renamed_takesName {ss : SuperSession} (agrees : ss.username ≠ [] → ss.username = usname)
    (realm : claimedRealm m = some ss.realm.name) (username : claimedUsername m = some usname) :
    Claims m ss.credentials (renamed ss usname).credentials ∧
      TakesName m ss.credentials (renamed ss usname).credentials := by
  have claims : Claims m ss.credentials (renamed ss usname).credentials :=
    ⟨realm, username.trans (congrArg some (renamed_username ss usname).symm)⟩
  refine ⟨claims, ?_⟩
  rcases renamed_credentials agrees with same | ⟨empty, changed⟩
  · exact .inl same
  · refine .inr ⟨empty, claims, ?_⟩
    rw [changed]

theorem checkCredentials_spec {ss : SuperSession} (agrees : ss.username ≠ [] → ss.username = usname)
    (realm : claimedRealm m = some ss.realm.name) (username : claimedUsername m = some usname) :
    AuthSpec server m ss.credentials
      (checkCredentials server (renamed ss usname) m usname ss.realm.name canResume) := by
  obtain ⟨claims, taken⟩ := renamed_takesName agrees realm username
  have key : (renamed ss usname).hmackey = ss.hmackey ∧ (renamed ss usname).hmackeySet = ss.hmackeySet ∧
      (renamed ss usname).pwd = ss.pwd := by
    rcases renamed_credentials agrees with same | ⟨-, changed⟩
    · exact ⟨congrArg Credentials.hmackey same, congrArg Credentials.hmackeySet same, congrArg Credentials.pwd same⟩
    · exact ⟨congrArg Credentials.hmackey changed, congrArg Credentials.hmackeySet changed,
        congrArg Credentials.pwd changed⟩
  unfold checkCredentials
  rw [key.1, key.2.1, key.2.2]
  split
  · rename_i valid
    exact ⟨taken, fun _ => ⟨claims, valid⟩, fun _ waits => by cases waits⟩
  · split
    · refine ⟨taken, fun passes => by simp [AuthResult.passes] at passes, ?_⟩
      intro lookup waits
      cases waits
      exact ⟨claims, rfl, (renamed_username ss usname).symm, rfl⟩
    · exact .refused taken (by decide : (401 : Nat) ≠ 0) rfl

theorem checkUsername_spec {ss : SuperSession} (off : ss.oauth = false) (realm : claimedRealm m = some ss.realm.name) :
    AuthSpec server m ss.credentials (checkUsername server ss m method ss.realm.name canResume) := by
  unfold checkUsername
  split
  · exact .refused (.inl rfl) (by decide : (400 : Nat) ≠ 0) rfl
  · rename_i a first
    have username : claimedUsername m = some (boundedString stunMaxUsernameSize a.value) := by
      simp [claimedUsername, first]
    dsimp only
    split
    · exact .refused (.inl rfl) (by decide : (400 : Nat) ≠ 0) rfl
    · split
      · split
        · exact .refused (.inl rfl) (by decide : (437 : Nat) ≠ 0) rfl
        · exact .refused (.inl rfl) (by decide : (441 : Nat) ≠ 0) rfl
      · rename_i agree
        have agrees : ss.username ≠ [] → ss.username = boundedString stunMaxUsernameSize a.value := by
          intro has
          by_contra other
          exact agree ⟨off, has, other⟩
        split
        · exact .refused (renamed_takesName agrees realm username).2 (by decide : (400 : Nat) ≠ 0) rfl
        · exact checkCredentials_spec server canResume agrees realm username

theorem checkRealm_spec {ss : SuperSession} {method : UInt16} (off : ss.oauth = false)
    (notBind : method ≠ stunMethodConnectionBind) :
    AuthSpec server m ss.credentials (checkRealm server env ss m method canResume) := by
  unfold checkRealm
  split
  · exact .refused (.inl rfl) (by decide : (400 : Nat) ≠ 0) rfl
  · rename_i a first
    have realm : claimedRealm m = some (boundedString stunMaxRealmSize a.value) := by
      simp [claimedRealm, first]
    dsimp only
    split
    · exact .refused (.inl rfl) (by decide : (400 : Nat) ≠ 0) rfl
    · split
      · split
        · exact .refused (.inl rfl) (by decide : (437 : Nat) ≠ 0) rfl
        · exact .refused (.inl rfl) (by decide : (441 : Nat) ≠ 0) rfl
      · rename_i agrees
        rw [not_not] at agrees
        rw [agrees] at realm ⊢
        exact checkUsername_spec server method canResume off realm

theorem renewNonce_credentials : (renewNonce server env ss).credentials = ss.credentials := by
  unfold renewNonce
  split <;> rfl

theorem checkStunAuth_spec {server : TurnServer} (longTerm : server.longTerm = true) {ss : SuperSession}
    {method : UInt16} (canResume : Bool) (off : ss.oauth = false) (notBind : method ≠ stunMethodConnectionBind) :
    AuthSpec server m ss.credentials (checkStunAuth server env ss m method canResume) := by
  have renewed := renewNonce_credentials server env ss
  unfold checkStunAuth
  rw [if_neg (by simp [longTerm])]
  dsimp only
  split
  · exact .refused (.inl renewed) (by decide : (401 : Nat) ≠ 0) rfl
  · split
    · exact .refused (.inl renewed) (by decide : (401 : Nat) ≠ 0) rfl
    · rw [← renewed]
      exact checkRealm_spec server env canResume ((congrArg Credentials.oauth renewed).trans off) notBind

/-- The check found an error. -/
def AuthResult.Refused (auth : AuthResult) : Prop := auth.reply.errCode ≠ 0 ∧ auth.lookup = none

/-- The check neither found an error nor has to wait. -/
def AuthResult.Clear (auth : AuthResult) : Prop := auth.reply.errCode = 0 ∧ auth.lookup = none

theorem AuthResult.clear_of_passes (passes : auth.passes = true) : auth.Clear := by
  simp only [AuthResult.passes, Reply.goesOn, Bool.and_eq_true, beq_iff_eq, Option.isNone_iff_eq_none] at passes
  exact ⟨passes.1.1.1, passes.2⟩

theorem AuthResult.Clear.not_refused (clear : auth.Clear) : ¬ auth.Refused :=
  fun refused => refused.1 clear.1

theorem authError_refused {errCode : Nat} (error : errCode ≠ 0) (reason : Option String) :
    (authError ss errCode reason).Refused := ⟨error, rfl⟩

theorem createChallengeResponse_refused : (createChallengeResponse ss).Refused :=
  ⟨(by decide : (401 : Nat) ≠ 0), rfl⟩

/-- A check that comes to the key of the session: the session has taken the name of the
request, which without OAuth it does only if it has none. -/
structure ReachesKey (server : TurnServer) (ss : SuperSession) (m : Request) (canResume : Bool) (auth : AuthResult)
    (usname : List UInt8) : Prop where
  claimed : claimedUsername m = some usname
  agrees : ss.oauth = false → ss.username ≠ [] → ss.username = usname
  result : auth = checkCredentials server (renamed ss usname) m usname ss.realm.name canResume

section Reaches

variable {server} {env} {ss : SuperSession} {m : Request} {method : UInt16} {canResume : Bool}

theorem checkUsername_reaches (going : ¬ (checkUsername server ss m method ss.realm.name canResume).Refused) :
    ∃ usname, ReachesKey server ss m canResume (checkUsername server ss m method ss.realm.name canResume) usname := by
  unfold checkUsername at going ⊢
  cases first : firstOfType m.attrs stunAttributeUsername with
  | none =>
    rw [first] at going
    exact absurd (authError_refused ss (by decide) none) going
  | some a =>
    have claimed : claimedUsername m = some (boundedString stunMaxUsernameSize a.value) := by
      simp [claimedUsername, first]
    rw [first] at going
    dsimp only at going ⊢
    split at going
    · exact absurd (authError_refused ss (by decide) none) going
    · rename_i secure
      rw [if_neg secure]
      split at going
      · split at going
        · exact absurd (authError_refused ss (by decide) _) going
        · exact absurd (authError_refused ss (by decide) _) going
      · rename_i allowed
        rw [if_neg allowed]
        split at going
        · exact absurd (authError_refused _ (by decide) none) going
        · refine ⟨_, claimed, ?_, rfl⟩
          intro off has
          by_contra other
          exact allowed ⟨off, has, other⟩

theorem checkRealm_reaches (notBind : method ≠ stunMethodConnectionBind)
    (going : ¬ (checkRealm server env ss m method canResume).Refused) :
    ∃ usname, ReachesKey server ss m canResume (checkRealm server env ss m method canResume) usname := by
  unfold checkRealm at going ⊢
  cases first : firstOfType m.attrs stunAttributeRealm with
  | none =>
    rw [first] at going
    exact absurd (authError_refused ss (by decide) none) going
  | some a =>
    rw [first] at going
    dsimp only at going ⊢
    rw [if_neg notBind] at going ⊢
    split at going
    · exact absurd (authError_refused ss (by decide) none) going
    · rename_i secure
      rw [if_neg secure]
      split at going
      · rename_i other
        rw [if_pos other]
        split at going
        · split at going
          · exact absurd (authError_refused ss (by decide) _) going
          · exact absurd (authError_refused ss (by decide) _) going
        · rename_i on
          rw [if_neg on]
          exact checkUsername_reaches going
      · rename_i same
        rw [not_not.mp same] at going ⊢
        rw [if_neg (not_not.mpr rfl)]
        exact checkUsername_reaches going

theorem checkStunAuth_reaches (longTerm : server.longTerm = true) (notBind : method ≠ stunMethodConnectionBind)
    (going : ¬ (checkStunAuth server env ss m method canResume).Refused) :
    ∃ usname, ReachesKey server (renewNonce server env ss) m canResume
      (checkStunAuth server env ss m method canResume) usname := by
  unfold checkStunAuth at going ⊢
  rw [longTerm, if_neg (by decide)] at going ⊢
  dsimp only at going ⊢
  cases first : firstOfType m.attrs stunAttributeMessageIntegrity with
  | none =>
    rw [first] at going
    exact absurd (createChallengeResponse_refused _) going
  | some a =>
    rw [first] at going
    dsimp only at going ⊢
    split at going
    · exact absurd (createChallengeResponse_refused _) going
    · rename_i long
      rw [if_neg long]
      exact checkRealm_reaches notBind going

end Reaches

/-- The session has a key, and the request was signed with it. -/
def Signed (server : TurnServer) (credentials : Credentials) (m : Request) : Prop :=
  (credentials.hmackeySet = true ∨ credentials.pwd ≠ []) ∧
    1 ≤ stunCheckMessageIntegrityByKeyStr server m credentials.hmackey

instance (server : TurnServer) (credentials : Credentials) (m : Request) : Decidable (Signed server credentials m) :=
  inferInstanceAs (Decidable (_ ∧ _))

/-- A new name never comes with a key. -/
theorem Signed.of_renamed {server : TurnServer} {ss : SuperSession}
    (signed : Signed server (renamed ss usname).credentials m) : Signed server ss.credentials m := by
  unfold renamed at signed
  split at signed
  · exact signed
  · split at signed
    · exact signed
    · exact ⟨signed.1.imp_left nofun, signed.2⟩

theorem ReachesKey.passed {server : TurnServer} {ss : SuperSession} {canResume : Bool}
    (reaches : ReachesKey server ss m canResume auth usname) (clear : auth.Clear) :
    Signed server ss.credentials m ∧ auth = ⟨renamed ss usname, .empty, true, none⟩ := by
  obtain ⟨-, -, rfl⟩ := reaches
  unfold checkCredentials at clear ⊢
  split
  · rename_i valid
    exact ⟨Signed.of_renamed valid, rfl⟩
  · rename_i invalid
    rw [if_neg invalid] at clear
    split at clear
    · cases clear.2
    · exact absurd clear.1 (by decide : (401 : Nat) ≠ 0)

end Server
end TurnCluster
