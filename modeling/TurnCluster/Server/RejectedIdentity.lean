import TurnCluster.Server.Identity

namespace TurnCluster
namespace Server

/-- The credentials of a request from its arrival on: where the answer is postponed, they are checked once more when
the user database has answered and the client still has a socket. A ConnectionBind is not: it is read again on the
session that owns the connection, which refuses it for its allocation. -/
def checkedRequest (server : TurnServer) (env later : Env) (ss : SuperSession) (m : Request) (method : UInt16)
    (canResume : Bool) (answer : Option UserKey) : AuthResult :=
  let first := checkStunAuth server env ss m method canResume
  match first.lookup with
  | none => first
  | some lookup =>
    if method = stunMethodConnectionBind ∨ first.ss.client = none then first
    else checkStunAuth server later (resumed server later first.ss lookup answer) m method false

/-- What a check says. -/
def AuthResult.answer (auth : AuthResult) : Reply × Bool × Option Lookup :=
  (auth.reply, auth.messageIntegrity, auth.lookup)

/-- The session with another nonce. -/
def withNonce (ss : SuperSession) (nonce : List UInt8) (expirationTime : Nat) : SuperSession :=
  { ss with nonce := nonce, nonceExpirationTime := expirationTime }

/-- The session keeps its name and realm, and unless a key was looked up later requests are received as before. -/
structure NoTrace (server : TurnServer) (env : Env) (before : SuperSession) (m : Request) (method : UInt16) (canResume : Bool)
    (after : SuperSession) : Prop where
  username : after.username = before.username
  realm : after.realm = before.realm
  later : (checkStunAuth server env before m method canResume).lookup = none →
    ∀ env' m' method' canResume', (checkStunAuth server env' after m' method' canResume').answer =
      (checkStunAuth server env' before m' method' canResume').answer

/-- The session has a name that it keeps, or the request no other one that is read; and a ConnectionBind is for the
session's realm. -/
def Unmarked (server : TurnServer) (env : Env) (ss : SuperSession) (m : Request) (method : UInt16) : Prop :=
  (∀ name, nameRead ss m method = some name → ss.oauth = false ∧ ss.username ≠ [] ∨ name = ss.username) ∧
    ∀ realm, realmRead m = some realm → method = stunMethodConnectionBind → getRealmOptionsByName server env realm = ss.realm

section Checks

variable (server : TurnServer) (env : Env)
variable (ss : SuperSession) (nonce : List UInt8) (time : Nat) (m : Request) (method : UInt16) (realm : List UInt8)
  {lookup : Lookup} {read : Option (List UInt8)}

theorem takenName_eq_iff {oauth : Bool} {username : List UInt8} :
    takenName oauth username read = username ↔
      ∀ name, read = some name → oauth = false ∧ username ≠ [] ∨ name = username := by
  unfold takenName
  cases read with
  | none => simp
  | some name =>
    dsimp only
    by_cases keeps : oauth = false ∧ username ≠ []
    · rw [if_pos keeps]
      exact ⟨fun _ _ _ => Or.inl keeps, fun _ => rfl⟩
    · rw [if_neg keeps]
      constructor
      · rintro same other read
        cases Option.some.inj read
        exact Or.inr same
      · intro kept
        rcases kept name rfl with named | same
        · exact absurd named keeps
        · exact same

theorem takenRealm_eq_iff {realm : RealmOptions} {method : UInt16} :
    takenRealm server env realm method read = realm ↔
      ∀ name, read = some name → method = stunMethodConnectionBind → getRealmOptionsByName server env name = realm := by
  unfold takenRealm
  cases read with
  | none => simp
  | some name =>
    dsimp only
    by_cases bind : method = stunMethodConnectionBind
    · rw [if_pos bind]
      constructor
      · intro same other read _
        cases Option.some.inj read
        exact same
      · intro same
        exact same name rfl bind
    · rw [if_neg bind]
      exact ⟨fun _ _ _ isBind => absurd isBind bind, fun _ => rfl⟩

theorem checkStunAuth_unmarked_iff (canResume : Bool) (longTerm : server.longTerm = true) :
    ((checkStunAuth server env ss m method canResume).ss.username = ss.username ∧
        (checkStunAuth server env ss m method canResume).ss.realm = ss.realm) ↔ Unmarked server env ss m method := by
  obtain ⟨_, rest⟩ := Prod.mk.inj (checkStunAuth_identity server env ss m method canResume longTerm)
  obtain ⟨username, realm⟩ := Prod.mk.inj rest
  rw [username, realm, takenName_eq_iff, takenRealm_eq_iff]
  rfl

theorem checkCredentials_withNonce (usname realm : List UInt8) (canResume : Bool) :
    (checkCredentials server (withNonce ss nonce time) m usname realm canResume).answer =
      (checkCredentials server ss m usname realm canResume).answer := by
  unfold checkCredentials withNonce
  dsimp only
  split
  · rfl
  · split <;> rfl

theorem checkUsername_withNonce (canResume : Bool) :
    (checkUsername server (withNonce ss nonce time) m method realm canResume).answer =
      (checkUsername server ss m method realm canResume).answer := by
  have username : (withNonce ss nonce time).username = ss.username := rfl
  have oauth : (withNonce ss nonce time).oauth = ss.oauth := rfl
  have name (usname : List UInt8) :
      renamed (withNonce ss nonce time) usname = withNonce (renamed ss usname) nonce time := by
    unfold renamed
    rw [username]
    split
    · rfl
    · split <;> rfl
  unfold checkUsername
  split
  · rfl
  · rename_i a first
    dsimp only
    rw [username, oauth]
    by_cases insecure : isSecureString (boundedString stunMaxUsernameSize a.value) true = false
    · rw [if_pos insecure, if_pos insecure]
      rfl
    · rw [if_neg insecure, if_neg insecure]
      by_cases other : ss.oauth = false ∧ ss.username ≠ [] ∧ ss.username ≠ boundedString stunMaxUsernameSize a.value
      · rw [if_pos other, if_pos other]
        split <;> rfl
      · rw [if_neg other, if_neg other]
        cases firstOfType m.attrs stunAttributeNonce with
        | none => rfl
        | some _ =>
          exact (congrArg (fun ss => (checkCredentials server ss m _ realm canResume).answer) (name _)).trans
            (checkCredentials_withNonce server (renamed ss _) nonce time m _ realm canResume)

theorem checkRealm_withNonce (canResume : Bool) :
    (checkRealm server env (withNonce ss nonce time) m method canResume).answer =
      (checkRealm server env ss m method canResume).answer := by
  have realm : (withNonce ss nonce time).realm = ss.realm := rfl
  have oauth : (withNonce ss nonce time).oauth = ss.oauth := rfl
  unfold checkRealm
  split
  · rfl
  · dsimp only
    split
    · rfl
    · split
      · exact checkUsername_withNonce server { ss with realm := _ } nonce time m method _ canResume
      · rw [realm, oauth]
        split
        · split
          · split <;> rfl
          · exact checkUsername_withNonce server ss nonce time m method _ canResume
        · exact checkUsername_withNonce server ss nonce time m method _ canResume

theorem renewNonce_withNonce : ∃ nonce time, renewNonce server env ss = withNonce ss nonce time := by
  unfold renewNonce
  split
  · exact ⟨_, _, rfl⟩
  · exact ⟨ss.nonce, ss.nonceExpirationTime, rfl⟩

theorem checkStunAuth_withNonce (canResume : Bool) :
    (checkStunAuth server env (withNonce ss nonce time) m method canResume).answer =
      (checkStunAuth server env ss m method canResume).answer := by
  obtain ⟨n, t, first⟩ := renewNonce_withNonce server env (withNonce ss nonce time)
  obtain ⟨n', t', second⟩ := renewNonce_withNonce server env ss
  unfold checkStunAuth
  split
  · rfl
  · dsimp only
    rw [first, second]
    split
    · rfl
    · split
      · rfl
      · exact (checkRealm_withNonce server env ss n t m method canResume).trans
          (checkRealm_withNonce server env ss n' t' m method canResume).symm

theorem renamed_self {ss : SuperSession} {usname : List UInt8} (same : (renamed ss usname).username = ss.username) :
    renamed ss usname = ss := by
  rw [renamed_username] at same
  subst same
  unfold renamed
  split
  · rfl
  · rw [if_pos rfl]

theorem checkUsername_frame (canResume : Bool) :
    (checkUsername server ss m method realm canResume).ss = ss ∨
      ∃ usname, (checkUsername server ss m method realm canResume).ss = renamed ss usname := by
  unfold checkUsername
  split
  · exact Or.inl rfl
  · dsimp only
    split
    · exact Or.inl rfl
    · split
      · split <;> exact Or.inl rfl
      · split
        · exact Or.inr ⟨_, rfl⟩
        · rw [checkCredentials_ss]
          exact Or.inr ⟨_, rfl⟩

theorem checkRealm_frame (canResume : Bool) :
    ∃ realm, (checkRealm server env ss m method canResume).ss = { ss with realm := realm } ∨
      ∃ usname, (checkRealm server env ss m method canResume).ss = renamed { ss with realm := realm } usname := by
  unfold checkRealm
  split
  · exact ⟨ss.realm, Or.inl rfl⟩
  · dsimp only
    split
    · exact ⟨ss.realm, Or.inl rfl⟩
    · split
      · exact ⟨_, checkUsername_frame server { ss with realm := getRealmOptionsByName server env _ } m method _ canResume⟩
      · split
        · split
          · split <;> exact ⟨ss.realm, Or.inl rfl⟩
          · exact ⟨ss.realm, checkUsername_frame server ss m method _ canResume⟩
        · exact ⟨ss.realm, checkUsername_frame server ss m method _ canResume⟩

theorem checkStunAuth_frame (canResume : Bool) :
    ∃ nonce time options,
      (checkStunAuth server env ss m method canResume).ss = { withNonce ss nonce time with realm := options } ∨
      ∃ usname, (checkStunAuth server env ss m method canResume).ss =
        renamed { withNonce ss nonce time with realm := options } usname := by
  obtain ⟨nonce, time, renewed⟩ := renewNonce_withNonce server env ss
  unfold checkStunAuth
  split
  · exact ⟨ss.nonce, ss.nonceExpirationTime, ss.realm, Or.inl rfl⟩
  · dsimp only
    rw [renewed]
    split
    · exact ⟨nonce, time, ss.realm, Or.inl rfl⟩
    · split
      · exact ⟨nonce, time, ss.realm, Or.inl rfl⟩
      · exact ⟨nonce, time, checkRealm_frame server env (withNonce ss nonce time) m method canResume⟩

theorem checkStunAuth_nonceOnly {ss : SuperSession} {m : Request} {method : UInt16} {canResume : Bool}
    (username : (checkStunAuth server env ss m method canResume).ss.username = ss.username)
    (realm : (checkStunAuth server env ss m method canResume).ss.realm = ss.realm) :
    ∃ nonce time, (checkStunAuth server env ss m method canResume).ss = withNonce ss nonce time := by
  obtain ⟨nonce, time, options, written | ⟨usname, written⟩⟩ := checkStunAuth_frame server env ss m method canResume
  · rw [written] at realm ⊢
    cases realm
    exact ⟨nonce, time, rfl⟩
  · rw [written] at username realm ⊢
    have same : options = ss.realm := (congrArg (fun identity => identity.2.2) (renamed_identity _ usname)).symm.trans realm
    cases same
    exact ⟨nonce, time, renamed_self username⟩

theorem checkCredentials_lookup {server : TurnServer} {ss : SuperSession} {m : Request} {usname realm : List UInt8}
    {canResume : Bool} (waits : (checkCredentials server ss m usname realm canResume).lookup = some lookup) :
    lookup.realm = realm := by
  unfold checkCredentials at waits
  split at waits
  · cases waits
  · split at waits
    · cases waits
      rfl
    · cases waits

theorem nameRead_claimed {ss : SuperSession} {m : Request} {method : UInt16} {name : List UInt8}
    (read : nameRead ss m method = some name) : claimedUsername m = some name := by
  unfold nameRead at read
  split at read
  · cases read
  · split at read
    · exact (Option.filter_eq_some_iff.mp read).1
    · cases read

theorem resumed_identity {ss : SuperSession} {m : Request} {method : UInt16} {canResume : Bool} (later : Env)
    (answer : Option UserKey) (longTerm : server.longTerm = true) (notBind : method ≠ stunMethodConnectionBind)
    (waits : (checkStunAuth server env ss m method canResume).lookup = some lookup) :
    let first := checkStunAuth server env ss m method canResume
    let second := checkStunAuth server later (resumed server later first.ss lookup answer) m method false
    second.ss.username = first.ss.username ∧ second.ss.realm = first.ss.realm := by
  intro first second
  -- the name that the first check has read is the one that the session has now
  obtain ⟨usname, claimed, -, result⟩ := checkStunAuth_reaches longTerm notBind
    (fun refused => nomatch waits.symm.trans refused.2)
  have left : first.ss = renamed (renewNonce server env ss) usname :=
    (congrArg AuthResult.ss result).trans (checkCredentials_ss server _ m usname _ canResume)
  have named : first.ss.username = usname := by rw [left, renamed_username]
  have asked : lookup.realm = first.ss.realm.name := by
    have realm : first.ss.realm = (renewNonce server env ss).realm := by
      rw [left]
      exact congrArg (fun identity => identity.2.2) (renamed_identity _ usname)
    rw [realm]
    exact checkCredentials_lookup (result ▸ waits)
  have kept : (resumed server later first.ss lookup answer).username = first.ss.username ∧
      (resumed server later first.ss lookup answer).realm = first.ss.realm := by
    unfold resumed
    cases answer with
    | none => exact ⟨rfl, rfl⟩
    | some key =>
      dsimp only
      unfold acceptUserKey
      rw [if_neg (fun other => other.2 asked)]
      exact ⟨rfl, rfl⟩
  obtain ⟨_, again⟩ := Prod.mk.inj (checkStunAuth_identity server later
    (resumed server later first.ss lookup answer) m method false longTerm)
  obtain ⟨usernameAgain, realmAgain⟩ := Prod.mk.inj again
  constructor
  · show second.ss.username = _
    rw [usernameAgain, kept.1]
    refine takenName_eq_iff.mpr (fun name read => Or.inr ?_)
    have isClaimed := nameRead_claimed read
    rw [claimed] at isClaimed
    rw [named]
    exact (Option.some.inj isClaimed).symm
  · show second.ss.realm = _
    rw [realmAgain, (takenRealm_eq_iff server later).mpr (fun _ _ isBind => absurd isBind notBind), kept.2]

end Checks

/-- A request, rejected or not, leaves no trace on the session exactly if it is one that does not mark it. -/
theorem rejected_leaves_no_trace_iff {server : TurnServer} {env later : Env} {ss : SuperSession} {m : Request}
    {method : UInt16} {canResume : Bool} {answer : Option UserKey} (longTerm : server.longTerm = true) :
    NoTrace server env ss m method canResume (checkedRequest server env later ss m method canResume answer).ss ↔
      Unmarked server env ss m method := by
  have unmarked := checkStunAuth_unmarked_iff server env ss m method canResume longTerm
  have same : (checkedRequest server env later ss m method canResume answer).ss.username =
        (checkStunAuth server env ss m method canResume).ss.username ∧
      (checkedRequest server env later ss m method canResume answer).ss.realm =
        (checkStunAuth server env ss m method canResume).ss.realm := by
    unfold checkedRequest
    dsimp only
    split
    · exact ⟨rfl, rfl⟩
    · rename_i lookup waits
      split
      · exact ⟨rfl, rfl⟩
      · rename_i again
        exact resumed_identity server env later answer longTerm (not_or.mp again).1 waits
  rw [← unmarked, ← same.1, ← same.2]
  constructor
  · intro trace
    exact ⟨trace.username, trace.realm⟩
  · rintro ⟨username, realm⟩
    refine ⟨username, realm, ?_⟩
    intro atOnce env' m' method' canResume'
    have first : checkedRequest server env later ss m method canResume answer =
        checkStunAuth server env ss m method canResume := by
      unfold checkedRequest
      dsimp only
      rw [atOnce]
    rw [first] at username realm ⊢
    obtain ⟨nonce, time, nonceOnly⟩ := checkStunAuth_nonceOnly server env username realm
    rw [nonceOnly]
    exact checkStunAuth_withNonce server env' ss nonce time m' method' canResume'

/-- A Refresh of `a` that lacks a NONCE. -/
def exampleNonceless : Request :=
  .ofAttributes stunMethodRefresh
    [⟨stunAttributeUsername, [97]⟩, ⟨stunAttributeRealm, [114]⟩, exampleIntegrity [1]]

/-- The session that has a name already rejects it and stays as it is. -/
theorem rejected_leaves_no_trace_named :
    (checkedRequest exampleServer exampleEnv exampleEnv exampleAllocated.ss exampleNonceless stunMethodRefresh true
        none).reply.errCode = 441 ∧
      NoTrace exampleServer exampleEnv exampleAllocated.ss exampleNonceless stunMethodRefresh true
        (checkedRequest exampleServer exampleEnv exampleEnv exampleAllocated.ss exampleNonceless stunMethodRefresh true
          none).ss := by
  refine ⟨by decide +kernel, (rejected_leaves_no_trace_iff rfl).mpr ⟨?_, ?_⟩⟩
  · intro name _
    exact Or.inl ⟨rfl, by decide⟩
  · intro realm _ isBind
    exact absurd isBind (by decide)

/-- A new session rejects it as well, and takes the name `a` from it. -/
theorem nonceless_request_leaves_name :
    ¬ ∀ (server : TurnServer) (env later : Env) (ss : SuperSession) (m : Request) (method : UInt16) (canResume : Bool)
      (answer : Option UserKey), server.longTerm = true →
        (checkedRequest server env later ss m method canResume answer).reply.errCode ≠ 0 →
        NoTrace server env ss m method canResume (checkedRequest server env later ss m method canResume answer).ss := by
  intro claimed
  have trace := claimed exampleServer exampleEnv exampleEnv exampleNode.ss exampleNonceless stunMethodRefresh true none rfl
    (by decide +kernel)
  have name : (checkedRequest exampleServer exampleEnv exampleEnv exampleNode.ss exampleNonceless stunMethodRefresh true
      none).ss.username = [97] := by decide +kernel
  exact absurd (name.symm.trans trace.username) (by decide)

end Server
end TurnCluster
