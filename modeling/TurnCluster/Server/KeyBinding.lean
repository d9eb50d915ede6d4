import TurnCluster.Lib.Run
import TurnCluster.Server.Credentials

namespace TurnCluster
namespace Server

/-- A key that the user database returned for a name and a realm. -/
structure Grant where
  username : List UInt8
  realm : List UInt8
  key : List UInt8
  deriving DecidableEq, Repr

/-- The first MESSAGE-INTEGRITY of a request was made with a key that was
granted for the name and the realm that the request carries. -/
def Authentic (server : TurnServer) (granted : List Grant) (m : Request) : Prop :=
  ∃ sar username realm key, firstIntegrity m = some sar ∧ claimedUsername m = some username ∧
    claimedRealm m = some realm ∧ ⟨username, realm, key⟩ ∈ granted ∧
    m.buf.slice (sar + 4) sha1SizeBytes = server.hmac key (hmacCovered m.buf sar)

/-- A session with the requests that wait for their keys, and what has been granted so far. -/
structure KeyState where
  node : Node
  pending : List Lookup
  granted : List Grant
  /-- The request whose handler the last step entered. -/
  entered : Option Request

inductive KeyEvent
  | request (env : Env) (m : Request)
  | answer (env : Env) (place : Nat) (result : Option UserKey)
  /-- Timers, indications and data, which leave the credentials alone. -/
  | other (ss : SuperSession)

/-- Without OAuth no key comes from a token. -/
def KeyState.enabled (s : KeyState) : KeyEvent → Prop
  | .request _ _ => True
  | .answer _ place result => place < s.pending.length ∧ ∀ key ∈ result, key.oauth = false
  | .other ss => ss.credentials = s.node.ss.credentials

def KeyState.record (s : KeyState) (m : Request) (r : CommandResult) : KeyState :=
  { s with
    node := r.outcome.node
    pending := s.pending ++ r.outcome.lookup.toList
    entered := if r.entered = true ∧ isGuarded m.method = true then some m else none }

/-- The state in which the request that waited is read once more. -/
def KeyState.answered (s : KeyState) (place : Nat) (lookup : Lookup) (result : Option UserKey) : KeyState :=
  { s with
    pending := s.pending.eraseIdx place
    granted := (result.map (fun key => Grant.mk lookup.username lookup.realm key.hmackey)).toList ++ s.granted }

def KeyState.step (server : TurnServer) (s : KeyState) : KeyEvent → KeyState
  | .request env m => s.record m (readClientConnection server env s.node m true)
  | .answer env place result =>
    match s.pending[place]? with
    | none => s
    | some lookup =>
      (s.answered place lookup result).record lookup.request
        (resumeProcessingAfterUsernameCheck server env s.node lookup result)
  | .other ss => { s with node := { s.node with ss := ss }, entered := none }

/-- A new session of a UDP client, with long-term credentials and without OAuth and mobility. -/
def KeyState.Fresh (server : TurnServer) (s : KeyState) : Prop :=
  server.longTerm = true ∧ server.oauth = false ∧ server.mobility = false ∧
    ∃ id client mobile, client.stream = false ∧ s = ⟨⟨createNewSs server id client, mobile⟩, [], [], none⟩

def keyMachine (server : TurnServer) : Machine KeyState KeyEvent Unit where
  init := KeyState.Fresh server
  enabled := KeyState.enabled
  next s e := some (s.step server e, ())

/-- The realm that the ORIGIN attributes of a first Allocate select. -/
def originRealm (server : TurnServer) (env : Env) (realm : List UInt8) (attrs : List Attribute) : List UInt8 :=
  match attrs.findSome? (fun a => env.originToRealm (corigin env a)) with
  | some name => (getRealmOptionsByName server env name).name
  | none => if attrs = [] then realm else server.defaultRealm.name

/-- The name an Allocate is charged to is the one that it authenticates. -/
def OneName (m : Request) : Prop :=
  m.method = stunMethodAllocate → ∀ username, claimedUsername m = some username → chargedName m = username

/-- A first Allocate on a session that has a key does not choose another realm. -/
def OriginKeepsRealm (server : TurnServer) (env : Env) (ss : SuperSession) (m : Request) : Prop :=
  m.method = stunMethodAllocate → ss.originSet = false → ss.hmackeySet = true →
    originRealm server env ss.realm.name (origins m) = ss.realm.name

/-- No key is granted for an empty name, nor for an empty realm once the session has another. -/
def GrantsNamed (ss : SuperSession) (lookup : Lookup) (result : Option UserKey) : Prop :=
  result.isSome = true → lookup.username ≠ [] ∧ (lookup.realm = [] → ss.realm.name = [])

def KeepsKeys (server : TurnServer) (s : KeyState) : KeyEvent → Prop
  | .request env m => OneName m ∧ OriginKeepsRealm server env s.node.ss m
  | .answer _ place result => ∀ lookup, s.pending[place]? = some lookup → GrantsNamed s.node.ss lookup result
  | .other _ => True

/-- The key of the session was granted for its name and realm. -/
def Keyed (granted : List Grant) (c : Credentials) : Prop :=
  c.hmackeySet = true ∨ c.pwd ≠ [] →
    c.hmackeySet = true ∧ c.username ≠ [] ∧ ⟨c.username, c.realm, c.hmackey⟩ ∈ granted

/-- What is known of a request that waits. -/
structure Waits (c : Credentials) (lookup : Lookup) : Prop where
  username : lookup.username ≠ [] → c.username = lookup.username
  realm : lookup.realm.length ≤ stunMaxRealmSize
  oneName : OneName lookup.request
  origin : lookup.request.method = stunMethodAllocate → c.originSet = true

structure Bound (server : TurnServer) (s : KeyState) : Prop where
  longTerm : server.longTerm = true
  fixed : server.mobility = false
  off : s.node.ss.oauth = false
  keyed : Keyed s.granted s.node.ss.credentials
  waits : ∀ lookup ∈ s.pending, Waits s.node.ss.credentials lookup
  entered : ∀ m, s.entered = some m → Authentic server s.granted m

variable {server : TurnServer} {granted : List Grant}
variable {m : Request} {before : Credentials} (env : Env) {s : KeyState} {after : Credentials} {auth : AuthResult}
  {lookup : Lookup} {r : CommandResult} {realm : List UInt8} {result : Option UserKey}

theorem authentic_of_check {username key : List UInt8} (hasName : claimedUsername m = some username)
    (hasRealm : claimedRealm m = some realm) (member : ⟨username, realm, key⟩ ∈ granted)
    (checked : 1 ≤ stunCheckMessageIntegrityByKeyStr server m key) : Authentic server granted m := by
  unfold stunCheckMessageIntegrityByKeyStr at checked
  split at checked
  · cases checked
  · rename_i sar first
    split at checked
    · cases checked
    · split at checked
      · cases checked
      · split at checked
        · cases checked
        · split at checked
          · rename_i equal
            exact ⟨sar, username, realm, key, first, hasName, hasRealm, member, equal⟩
          · cases checked

theorem Keyed.takesName (keyed : Keyed granted before) (takes : TakesName m before after) : Keyed granted after := by
  rcases takes with same | ⟨empty, -, changed⟩
  · rw [same]
    exact keyed
  · intro hasKey
    rw [changed] at hasKey
    exact absurd empty (keyed hasKey).2.1

theorem Keyed.mono {more : List Grant} {c : Credentials} (keyed : Keyed granted c) (subset : granted ⊆ more) :
    Keyed more c := by
  intro hasKey
  obtain ⟨isSet, has, member⟩ := keyed hasKey
  exact ⟨isSet, has, subset member⟩

theorem TakesName.username (takes : TakesName m before after) (has : before.username ≠ []) :
    after.username = before.username := by
  rcases takes with same | ⟨empty, -⟩
  · rw [same]
  · exact absurd empty has

theorem TakesName.originSet (takes : TakesName m before after) : after.originSet = before.originSet := by
  rcases takes with same | ⟨-, -, changed⟩
  · rw [same]
  · rw [changed]

theorem TakesName.oauth (takes : TakesName m before after) : after.oauth = before.oauth := by
  rcases takes with same | ⟨-, -, changed⟩
  · rw [same]
  · rw [changed]

theorem AuthSpec.authentic (spec : AuthSpec server m before auth) (keyed : Keyed granted before)
    (passes : auth.passes = true) : Authentic server granted m := by
  obtain ⟨claims, hasKey, checked⟩ := spec.pass passes
  obtain ⟨-, has, member⟩ := keyed hasKey
  have username := claims.username
  rw [spec.kept.username has] at username
  exact authentic_of_check username claims.realm member checked

/-- What one request may do to a session whose key is bound. -/
structure StepSpec (server : TurnServer) (granted : List Grant) (m : Request) (before : Credentials)
    (r : CommandResult) : Prop where
  keyed : Keyed granted r.outcome.node.ss.credentials
  username : before.username ≠ [] → r.outcome.node.ss.credentials.username = before.username
  originSet : before.originSet = true → r.outcome.node.ss.credentials.originSet = true
  oauth : r.outcome.node.ss.credentials.oauth = before.oauth
  entered : r.entered = true → isGuarded m.method = true → Authentic server granted m
  waits : ∀ lookup, r.outcome.lookup = some lookup → Waits r.outcome.node.ss.credentials lookup

theorem StepSpec.unchanged (keyed : Keyed granted before) (same : r.outcome.node.ss.credentials = before)
    (entered : r.entered = true → isGuarded m.method = true → Authentic server granted m)
    (answered : r.outcome.lookup = none) : StepSpec server granted m before r := by
  refine ⟨same ▸ keyed, fun _ => by rw [same], fun set => by rw [same]; exact set, by rw [same], entered, ?_⟩
  intro lookup waits
  rw [answered] at waits
  cases waits

theorem boundedString_length (size : Nat) (value : List UInt8) : (boundedString size value).length ≤ size :=
  (List.takeWhile_sublist _).length_le.trans (List.length_take_le _ _)

theorem claimedRealm_length (claimed : claimedRealm m = some realm) : realm.length ≤ stunMaxRealmSize := by
  unfold claimedRealm at claimed
  obtain ⟨a, -, rfl⟩ := Option.map_eq_some_iff.mp claimed
  exact boundedString_length _ _

theorem AuthSpec.waiting (spec : AuthSpec server m before auth) (oneName : OneName m)
    (origin : m.method = stunMethodAllocate → before.originSet = true) (waits : auth.lookup = some lookup) :
    Waits auth.ss.credentials lookup := by
  obtain ⟨claims, request, username, realm⟩ := spec.wait lookup waits
  refine ⟨fun _ => username.symm, ?_, ?_, ?_⟩
  · rw [realm]
    exact claimedRealm_length claims.realm
  · rw [request]
    exact oneName
  · rw [request, spec.kept.originSet]
    exact origin

theorem runHandler_keeps (fixed : server.mobility = false) (env : Env) (node : Node) (canResume : Bool)
    (oneName : OneName m) (claims : m.method = stunMethodAllocate → claimedUsername m = some node.ss.username) :
    (runHandler server env node m m.method canResume).node.ss.credentials = node.ss.credentials := by
  rcases (runHandler_credentials env fixed node m m.method canResume).1 with same | ⟨isAllocate, charged⟩
  · exact same
  · rw [charged, oneName isAllocate _ (claims isAllocate)]
    rfl

theorem authAndRun_spec (longTerm : server.longTerm = true) (fixed : server.mobility = false) (env : Env)
    (node : Node) (canResume : Bool) (off : node.ss.oauth = false) (keyed : Keyed granted node.ss.credentials)
    (oneName : OneName m) (origin : m.method = stunMethodAllocate → node.ss.originSet = true) :
    StepSpec server granted m node.ss.credentials (authAndRun server env node m m.method canResume) := by
  unfold authAndRun
  split
  · rename_i due
    have notBind : m.method ≠ stunMethodConnectionBind := by
      simp only [needsAuthHere, Bool.and_eq_true, bne_iff_ne] at due
      exact due.1
    have spec : AuthSpec server m node.ss.credentials (checkStunAuth server env node.ss m m.method canResume) :=
      checkStunAuth_spec env longTerm canResume off notBind
    have keyedAfter := keyed.takesName spec.kept
    unfold runChecked
    dsimp only
    split
    · rename_i passes
      have authentic := spec.authentic keyed passes
      have claims := (spec.pass passes).1
      have kept := runHandler_keeps fixed env { node with ss := (checkStunAuth server env node.ss m m.method canResume).ss }
        canResume oneName (fun _ => claims.username)
      have quiet := (runHandler_credentials env fixed
        { node with ss := (checkStunAuth server env node.ss m m.method canResume).ss } m m.method canResume).2
      refine ⟨?_, ?_, ?_, ?_, fun _ _ => authentic, ?_⟩
      · rw [kept]
        exact keyedAfter
      · intro has
        rw [kept]
        exact spec.kept.username has
      · intro set
        rw [kept]
        exact spec.kept.originSet.trans set
      · rw [kept]
        exact spec.kept.oauth
      · intro lookup waits
        rw [quiet] at waits
        cases waits
    · exact ⟨keyedAfter, spec.kept.username, spec.kept.originSet.trans, spec.kept.oauth, nofun,
        fun lookup waits => spec.waiting oneName origin waits⟩
  · rename_i notDue
    have isBind : m.method = stunMethodConnectionBind := by
      by_contra other
      exact notDue (by simp [needsAuthHere, fixed, other])
    refine .unchanged keyed ?_ ?_ (runHandler_credentials env fixed node m m.method canResume).2
    · refine runHandler_keeps fixed env node canResume oneName ?_
      intro isAllocate
      rw [isBind] at isAllocate
      exact absurd isAllocate (by decide)
    · intro _ guarded
      rw [isBind] at guarded
      exact absurd guarded (by decide)

theorem originRealm_cons (realm : List UInt8) (a : Attribute) (rest : List Attribute) :
    originRealm server env realm (a :: rest) =
      match env.originToRealm (corigin env a) with
      | some name => (getRealmOptionsByName server env name).name
      | none => originRealm server env server.defaultRealm.name rest := by
  unfold originRealm
  rw [List.findSome?_cons]
  cases env.originToRealm (corigin env a) with
  | some name => rfl
  | none =>
    dsimp only
    cases rest.findSome? (fun a => env.originToRealm (corigin env a)) with
    | some name => rfl
    | none => simp

/-- Induction over the origins: the first known one decides, and unknown ones lead to the default realm. -/
theorem takeOrigin_credentials (ss : SuperSession) (attrs : List Attribute) :
    (takeOrigin server env ss attrs).credentials =
      { ss.credentials with realm := originRealm server env ss.realm.name attrs } := by
  induction attrs generalizing ss with
  | nil => rfl
  | cons a rest next =>
    rw [takeOrigin, originRealm_cons]
    unfold getRealmOptionsByOrigin
    cases env.originToRealm (corigin env a) with
    | some name => rfl
    | none =>
      dsimp only
      rw [if_neg Bool.false_ne_true, next]
      rfl

theorem beforeAuth_credentials (server : TurnServer) (env : Env) (ss : SuperSession) (m : Request) (method : UInt16) :
    (beforeAuth server env ss m method).1.credentials = ss.credentials ∨
      method = stunMethodAllocate ∧ ss.originSet = false ∧ (beforeAuth server env ss m method).1.credentials =
        { ss.credentials with realm := originRealm server env ss.realm.name (origins m), originSet := true } := by
  unfold beforeAuth
  dsimp only
  split
  · split <;> exact .inl rfl
  · rename_i unset
    split
    · rename_i first
      refine .inr ⟨first.2, Bool.not_eq_true _ ▸ unset, ?_⟩
      show { (takeOrigin server env ss (origins m)).credentials with originSet := true } = _
      rw [takeOrigin_credentials]
    · exact .inl rfl

theorem beforeAuth_originSet {ss : SuperSession} {method : UInt16} (isAllocate : method = stunMethodAllocate)
    (goesOn : (beforeAuth server env ss m method).2.goesOn = true) :
    (beforeAuth server env ss m method).1.originSet = true := by
  unfold beforeAuth at goesOn ⊢
  dsimp only at goesOn ⊢
  split
  · rename_i set
    split <;> exact set
  · rename_i unset
    rw [if_neg unset] at goesOn
    split
    · rfl
    · rename_i noFirst
      rw [if_neg noFirst] at goesOn
      simp only [Reply.goesOn, Bool.and_eq_true, beq_iff_eq] at goesOn
      exact absurd ⟨goesOn.1.1, isAllocate⟩ noFirst

theorem Keyed.beforeAuth {ss : SuperSession} (keyed : Keyed granted ss.credentials)
    (keeps : OriginKeepsRealm server env ss m) : Keyed granted (beforeAuth server env ss m m.method).1.credentials := by
  rcases beforeAuth_credentials server env ss m m.method with same | ⟨isAllocate, unset, changed⟩
  · rw [same]
    exact keyed
  · rw [changed]
    intro hasKey
    obtain ⟨isSet, has, member⟩ := keyed hasKey
    refine ⟨isSet, has, ?_⟩
    rw [keeps isAllocate unset isSet]
    exact member

theorem processRequest_spec (longTerm : server.longTerm = true) (fixed : server.mobility = false) (env : Env)
    {node : Node} (canResume : Bool) (off : node.ss.oauth = false) (keyed : Keyed granted node.ss.credentials)
    (oneName : OneName m) (keeps : OriginKeepsRealm server env node.ss m) :
    StepSpec server granted m node.ss.credentials (processRequest server env node m canResume) := by
  unfold processRequest
  split
  · exact .unchanged keyed rfl nofun rfl
  · split
    · exact .unchanged keyed rfl nofun rfl
    · split
      · have before := beforeAuth_credentials server env node.ss m m.method
        have keyedBefore := keyed.beforeAuth env keeps
        have username : (beforeAuth server env node.ss m m.method).1.credentials.username =
            node.ss.credentials.username := by
          rcases before with same | ⟨-, -, changed⟩
          · rw [same]
          · rw [changed]
        have originSet : node.ss.credentials.originSet = true →
            (beforeAuth server env node.ss m m.method).1.credentials.originSet = true := by
          intro set
          rcases before with same | ⟨-, -, changed⟩
          · rw [same]
            exact set
          · rw [changed]
        have oauth : (beforeAuth server env node.ss m m.method).1.credentials.oauth = node.ss.credentials.oauth := by
          rcases before with same | ⟨-, -, changed⟩
          · rw [same]
          · rw [changed]
        dsimp only
        split
        · rename_i goesOn
          have spec := authAndRun_spec longTerm fixed env
            { node with ss := (beforeAuth server env node.ss m m.method).1 } canResume (oauth.trans off) keyedBefore oneName
            (fun isAllocate => beforeAuth_originSet env isAllocate goesOn)
          refine ⟨spec.keyed, ?_, fun set => spec.originSet (originSet set), spec.oauth.trans oauth, spec.entered,
            spec.waits⟩
          intro has
          rw [← username] at has ⊢
          exact spec.username has
        · exact ⟨keyedBefore, fun _ => username, originSet, oauth, nofun, nofun⟩
      · rename_i insecure
        have isBinding : m.method = stunMethodBinding := by
          by_contra other
          exact insecure (.inl other)
        refine .unchanged keyed ?_ ?_ (runHandler_credentials env fixed node m m.method canResume).2
        · refine runHandler_keeps fixed env node canResume oneName ?_
          intro isAllocate
          rw [isBinding] at isAllocate
          exact absurd isAllocate (by decide)
        · intro _ guarded
          rw [isBinding] at guarded
          exact absurd guarded (by decide)

theorem readClientConnection_spec (longTerm : server.longTerm = true) (fixed : server.mobility = false) (env : Env)
    {node : Node} {m : Request} (canResume : Bool) (off : node.ss.oauth = false)
    (keyed : Keyed granted node.ss.credentials) (oneName : OneName m)
    (keeps : OriginKeepsRealm server env node.ss m) :
    StepSpec server granted m node.ss.credentials (readClientConnection server env node m canResume) := by
  unfold readClientConnection
  split
  · exact .unchanged keyed rfl nofun rfl
  · unfold handleTurnCommand
    split
    · obtain ⟨bound, username, originSet, oauth, entered, waits⟩ :=
        processRequest_spec longTerm fixed env canResume off keyed oneName keeps
      exact ⟨bound, username, originSet, oauth, entered, waits⟩
    · exact .unchanged keyed rfl nofun rfl

theorem Bound.fresh (fresh : s.Fresh server) : Bound server s := by
  obtain ⟨longTerm, -, fixed, id, client, mobile, -, rfl⟩ := fresh
  refine ⟨longTerm, fixed, rfl, ?_, nofun, nofun⟩
  rintro (isSet | pwd)
  · cases isSet
  · exact absurd rfl pwd

theorem Waits.mono (waits : Waits before lookup) (username : before.username ≠ [] → after.username = before.username)
    (originSet : before.originSet = true → after.originSet = true) : Waits after lookup := by
  refine ⟨?_, waits.realm, waits.oneName, fun isAllocate => originSet (waits.origin isAllocate)⟩
  intro has
  have same := waits.username has
  rw [username (same ▸ has), same]

theorem Bound.record (longTerm : server.longTerm = true) (fixed : server.mobility = false)
    (off : before.oauth = false) (spec : StepSpec server s.granted m before r)
    (waits : ∀ lookup ∈ s.pending, Waits before lookup) : Bound server (s.record m r) := by
  refine ⟨longTerm, fixed, spec.oauth.trans off, spec.keyed, ?_, ?_⟩
  · intro lookup member
    rcases List.mem_append.mp member with earlier | new
    · exact (waits lookup earlier).mono spec.username spec.originSet
    · exact spec.waits lookup (Option.mem_toList.mp new)
  · intro entering isEntered
    simp only [KeyState.record] at isEntered
    split at isEntered
    · rename_i allowed
      cases isEntered
      exact spec.entered allowed.1 allowed.2
    · cases isEntered

/-- The session ends up in the realm of the lookup, unless that is empty. -/
theorem acceptUserKey_credentials (server : TurnServer) (env : Env) (ss : SuperSession) (key : UserKey)
    (short : realm.length ≤ stunMaxRealmSize) (named : realm = [] → ss.realm.name = []) :
    (acceptUserKey server env ss key realm).credentials =
      ⟨ss.username, realm, key.hmackey, true, key.pwd, key.oauth, ss.originSet⟩ := by
  unfold acceptUserKey
  dsimp only
  split
  · rename_i moved
    have options : (getRealmOptionsByName server env realm).name = realm := by
      rw [getRealmOptionsByName, if_neg moved.1]
      exact List.take_of_length_le short
    rcases incQuota_credentials server env
      { decQuota { ss with
          hmackey := key.hmackey, hmackeySet := true, oauth := key.oauth, maxSessionTimeAuth := key.maxSessionTime
          pwd := key.pwd } with
        realm := getRealmOptionsByName server env realm } ss.username with same | charged
    · exact same.trans (by simp [SuperSession.credentials, decQuota, options])
    · exact charged.trans (by simp [SuperSession.credentials, decQuota, options])
  · rename_i stays
    have same : ss.realm.name = realm := by
      by_cases empty : realm = []
      · rw [named empty, empty]
      · by_contra differs
        exact stays ⟨empty, fun equal => differs equal.symm⟩
    simp [SuperSession.credentials, same]

/-- The session in which a request that waited is read once more. -/
def resumed (server : TurnServer) (env : Env) (ss : SuperSession) (lookup : Lookup) (result : Option UserKey) :
    SuperSession :=
  match result with
  | some key => acceptUserKey server env ss key lookup.realm
  | none => ss

theorem resumed_keyed (server : TurnServer) (env : Env) {ss : SuperSession} (keyed : Keyed granted ss.credentials)
    (waits : Waits ss.credentials lookup) (named : GrantsNamed ss lookup result) (off : ss.oauth = false)
    (tokenless : ∀ key ∈ result, key.oauth = false) :
    Keyed ((result.map (fun key => Grant.mk lookup.username lookup.realm key.hmackey)).toList ++ granted)
      (resumed server env ss lookup result).credentials ∧
    (resumed server env ss lookup result).credentials.username = ss.credentials.username ∧
    (resumed server env ss lookup result).credentials.originSet = ss.credentials.originSet ∧
    (resumed server env ss lookup result).credentials.oauth = false := by
  cases result with
  | none => exact ⟨keyed, rfl, rfl, off⟩
  | some key =>
    obtain ⟨has, realm⟩ := named rfl
    have username : ss.username = lookup.username := waits.username has
    have taken := acceptUserKey_credentials server env ss key waits.realm realm
    simp only [resumed, taken]
    refine ⟨?_, rfl, rfl, tokenless key rfl⟩
    intro _
    refine ⟨rfl, ?_, ?_⟩
    · rw [username]
      exact has
    · rw [username]
      exact List.mem_append_left _ (List.mem_singleton.mpr rfl)

theorem Bound.answer (bound : Bound server s) (env : Env) {place : Nat} (found : s.pending[place]? = some lookup)
    (named : GrantsNamed s.node.ss lookup result) (tokenless : ∀ key ∈ result, key.oauth = false) :
    Bound server ((s.answered place lookup result).record lookup.request
      (resumeProcessingAfterUsernameCheck server env s.node lookup result)) := by
  have waits := bound.waits lookup (List.mem_of_getElem? found)
  obtain ⟨keyed, username, originSet, off⟩ := resumed_keyed server env bound.keyed waits named bound.off tokenless
  by_cases gone : s.node.ss.client = none
  · have nothing : resumeProcessingAfterUsernameCheck server env s.node lookup result = ignored s.node := if_pos gone
    have more : s.granted ⊆ (s.answered place lookup result).granted := List.subset_append_right _ _
    rw [nothing]
    refine .record bound.longTerm bound.fixed bound.off (.unchanged (bound.keyed.mono more) rfl nofun rfl) ?_
    exact fun other member => bound.waits other (List.mem_of_mem_eraseIdx member)
  have resumes : resumeProcessingAfterUsernameCheck server env s.node lookup result =
      readClientConnection server env { s.node with ss := resumed server env s.node.ss lookup result }
        lookup.request false := by
    cases result <;> exact if_neg gone
  rw [resumes]
  refine .record bound.longTerm bound.fixed off (@readClientConnection_spec server _ bound.longTerm bound.fixed env
    { s.node with ss := resumed server env s.node.ss lookup result } _ false off keyed waits.oneName ?_) ?_
  · intro isAllocate unset
    have set := originSet.trans (waits.origin isAllocate)
    exact absurd (set.symm.trans unset) (by decide)
  · intro other member
    have earlier := bound.waits other (List.mem_of_mem_eraseIdx member)
    exact earlier.mono (fun _ => username) (fun set => originSet.trans set)

theorem Bound.step {e : KeyEvent} (bound : Bound server s) (enabled : s.enabled e) (keeps : KeepsKeys server s e) :
    Bound server (s.step server e) := by
  cases e with
  | request env m =>
    exact .record bound.longTerm bound.fixed bound.off
      (readClientConnection_spec bound.longTerm bound.fixed env true bound.off bound.keyed keeps.1 keeps.2) bound.waits
  | answer env place result =>
    simp only [KeyState.step]
    split
    · exact bound
    · rename_i lookup found
      exact bound.answer env found (keeps lookup found) enabled.2
  | other ss =>
    have same : ss.credentials = s.node.ss.credentials := enabled
    refine ⟨bound.longTerm, bound.fixed, (congrArg Credentials.oauth same).trans bound.off, ?_, ?_, nofun⟩
    · simp only [KeyState.step, same]
      exact bound.keyed
    · simp only [KeyState.step, same]
      exact bound.waits

/-- In every run in which an Allocate is charged to the name it authenticates, a
session with a key keeps its realm, and no key is granted for an empty name or
realm, a handler is entered only for requests made with a key of the user they name. -/
theorem entered_requests_authentic {s : KeyState} (reach : (keyMachine server).Reach (KeepsKeys server) s) :
    ∀ m, s.entered = some m → Authentic server s.granted m := by
  have bound : Bound server s := by
    refine reach.invariant .fresh ?_
    intro s s' e o bound enabled keeps run
    cases Option.some.inj run
    exact bound.step enabled keeps
  exact bound.entered

theorem reach_keyStep {guard : KeyState → KeyEvent → Prop} (reach : (keyMachine server).Reach guard s) (e : KeyEvent)
    (enabled : s.enabled e) (allowed : guard s e) : (keyMachine server).Reach guard (s.step server e) :=
  .next (e := e) reach enabled allowed rfl

theorem entered_of_request (s : KeyState) {env : Env}
    (entered : (readClientConnection server env s.node m true).entered = true) (guarded : isGuarded m.method = true) :
    (s.step server (.request env m)).entered = some m :=
  if_pos ⟨entered, guarded⟩

theorem granted_of_request (s : KeyState) (env : Env) (m : Request) :
    (s.step server (.request env m)).granted = s.granted := rfl

def exampleStart : KeyState := ⟨exampleNode, [], [], none⟩

theorem exampleStart_fresh : exampleStart.Fresh exampleServer :=
  ⟨rfl, rfl, rfl, 1, ⟨.inet, false, false⟩, fun _ => none, rfl, rfl⟩

/-- A Refresh under the name `v`, made with the key 1. -/
def exampleRefresh : Request :=
  .ofAttributes stunMethodRefresh (exampleCredentials [118] ++ [exampleIntegrity [1]])

def exampleAsked (m : Request) : KeyState := exampleStart.step exampleServer (.request exampleEnv m)

/-- The database answers with the key 1. -/
def exampleAnswered (m : Request) : KeyState :=
  (exampleAsked m).step exampleServer (.answer exampleEnv 0 (some ⟨[1], [], false, 0⟩))

/-- A user of the database sends a Refresh and is let in. -/
theorem entered_requests_authentic_granted :
    (exampleAnswered exampleRefresh).entered.isSome = true ∧
      ∀ m, (exampleAnswered exampleRefresh).entered = some m →
        Authentic exampleServer (exampleAnswered exampleRefresh).granted m := by
  refine ⟨by decide +kernel, ?_⟩
  have asked : (keyMachine exampleServer).Reach (KeepsKeys exampleServer) (exampleAsked exampleRefresh) := by
    refine reach_keyStep (.start exampleStart_fresh) _ trivial ⟨?_, ?_⟩
    · intro isAllocate
      exact absurd isAllocate (by decide +kernel)
    · intro isAllocate
      exact absurd isAllocate (by decide +kernel)
  have waiting : 0 < (exampleAsked exampleRefresh).pending.length := by decide +kernel
  refine entered_requests_authentic (reach_keyStep asked (.answer exampleEnv 0 _) ⟨waiting, by simp⟩ ?_)
  intro lookup found _
  have names : ((exampleAsked exampleRefresh).pending[0]?).map (fun l => (l.username, l.realm)) =
      some ([118], [114]) := by decide +kernel
  rw [found] at names
  obtain ⟨username, realm⟩ := Prod.mk.inj (Option.some.inj names)
  rw [username, realm]
  exact ⟨by decide, nofun⟩

/-- An Allocate of the user `a` that names `v` once more behind its other attributes. -/
def exampleSecondName : Request :=
  .ofAttributes stunMethodAllocate (exampleCredentials [97] ++
    [⟨stunAttributeRequestedTransport, [17, 0, 0, 0]⟩, ⟨stunAttributeUsername, [118]⟩, exampleIntegrity [1]])

/-- The session is charged to the second name and then takes the key of `a` for one of `v`. -/
theorem second_username_takes_over :
    ¬ ∀ server s, (keyMachine server).Reach (fun _ _ => True) s →
      ∀ m, s.entered = some m → Authentic server s.granted m := by
  intro claimed
  have asked : (keyMachine exampleServer).Reach (fun _ _ => True) (exampleAsked exampleSecondName) :=
    reach_keyStep (.start exampleStart_fresh) _ trivial trivial
  have waiting : 0 < (exampleAsked exampleSecondName).pending.length := by decide +kernel
  have answered : (keyMachine exampleServer).Reach (fun _ _ => True) (exampleAnswered exampleSecondName) :=
    reach_keyStep asked (.answer exampleEnv 0 _) ⟨waiting, by simp⟩ trivial
  have refreshed := reach_keyStep answered (.request exampleEnv exampleRefresh) trivial trivial
  have entered : ((exampleAnswered exampleSecondName).step exampleServer
      (.request exampleEnv exampleRefresh)).entered = some exampleRefresh :=
    entered_of_request _ (by decide +kernel) (by decide +kernel)
  obtain ⟨_, username, realm, key, -, hasName, -, member, -⟩ := claimed _ _ refreshed _ entered
  have granted : (exampleAnswered exampleSecondName).granted = [⟨[97], [114], [1]⟩] := by decide +kernel
  have name : claimedUsername exampleRefresh = some [118] := by decide +kernel
  have isV : username = [118] := Option.some.inj (hasName.symm.trans name)
  have isA : username = [97] := by
    rw [granted_of_request, granted, List.mem_singleton] at member
    exact (Grant.mk.inj member).1
  exact absurd (isV.symm.trans isA) (by decide)

end Server
end TurnCluster
