import TurnCluster.Server.KeyBinding

namespace TurnCluster
namespace Server

/-- The realm that `check_stun_auth` reads from a request. -/
def realmRead (m : Request) : Option (List UInt8) :=
  match firstOfType m.attrs stunAttributeMessageIntegrity with
  | none => none
  | some a => if a.value.length ≠ sha1SizeBytes then none else (claimedRealm m).filter (isSecureString · false)

/-- The user name that `check_stun_auth` comes to reading: OAuth lets it pass over a wrong realm. -/
def nameRead (ss : SuperSession) (m : Request) (method : UInt16) : Option (List UInt8) :=
  match realmRead m with
  | none => none
  | some realm =>
    if method = stunMethodConnectionBind ∨ realm = ss.realm.name ∨ ss.oauth = true then
      (claimedUsername m).filter (isSecureString · true)
    else none

/-- The name that a session has after it has read another one: with OAuth it takes every name. -/
def takenName (oauth : Bool) (username : List UInt8) : Option (List UInt8) → List UInt8
  | none => username
  | some name => if oauth = false ∧ username ≠ [] then username else name

/-- The realm of the session after a request. -/
def takenRealm (server : TurnServer) (env : Env) (realm : RealmOptions) (method : UInt16) (read : Option (List UInt8)) :
    RealmOptions :=
  match read with
  | none => realm
  | some name => if method = stunMethodConnectionBind then getRealmOptionsByName server env name else realm

/-- Whose session it is, and whether it is charged for and has the flag of OAuth. -/
def SuperSession.identity (ss : SuperSession) : (Bool × Bool) × List UInt8 × RealmOptions :=
  ((ss.quotaUsed, ss.oauth), ss.username, ss.realm)

section Checks

variable (server : TurnServer) (env : Env)
variable (ss : SuperSession) (m : Request) (method : UInt16) (usname realm : List UInt8) (canResume : Bool)
  {text : List UInt8}

theorem checkCredentials_ss : (checkCredentials server ss m usname realm canResume).ss = ss := by
  unfold checkCredentials
  split
  · rfl
  · split <;> rfl

theorem filter_insecure {mode : Bool} (insecure : isSecureString text mode = false) :
    (some text).filter (isSecureString · mode) = none := by
  simp [Option.filter, insecure]

theorem filter_secure {mode : Bool} (secure : ¬ isSecureString text mode = false) :
    (some text).filter (isSecureString · mode) = some text := by
  simp [Option.filter, Bool.eq_true_of_not_eq_false secure]

theorem renamed_identity : (renamed ss usname).identity = ((ss.quotaUsed, ss.oauth), usname, ss.realm) := by
  unfold renamed
  split
  · rfl
  · split
    · rename_i same
      rw [← same]
      rfl
    · rfl

theorem renewNonce_identity : (renewNonce server env ss).identity = ss.identity := by
  unfold renewNonce
  split <;> rfl

theorem checkUsername_identity :
    (checkUsername server ss m method realm canResume).ss.identity =
      ((ss.quotaUsed, ss.oauth), takenName ss.oauth ss.username ((claimedUsername m).filter (isSecureString · true)),
        ss.realm) := by
  unfold checkUsername claimedUsername
  cases found : firstOfType m.attrs stunAttributeUsername with
  | none => rfl
  | some a =>
    dsimp only [Option.map_some]
    generalize boundedString stunMaxUsernameSize a.value = usname
    by_cases insecure : isSecureString usname true = false
    · rw [if_pos insecure, filter_insecure insecure]
      rfl
    · rw [if_neg insecure, filter_secure insecure]
      unfold takenName
      dsimp only
      by_cases other : ss.oauth = false ∧ ss.username ≠ [] ∧ ss.username ≠ usname
      · have kept : (if ss.oauth = false ∧ ss.username ≠ [] then ss.username else usname) = ss.username :=
          if_pos ⟨other.1, other.2.1⟩
        rw [if_pos other, kept]
        split <;> rfl
      · have taken : (if ss.oauth = false ∧ ss.username ≠ [] then ss.username else usname) = usname := by
          split
          · rename_i kept
            by_contra differs
            exact other ⟨kept.1, kept.2, differs⟩
          · rfl
        rw [if_neg other, taken]
        split
        · exact renamed_identity ss usname
        · rw [checkCredentials_ss]
          exact renamed_identity ss usname

theorem checkRealm_identity :
    (checkRealm server env ss m method canResume).ss.identity =
      match (claimedRealm m).filter (isSecureString · false) with
      | none => ss.identity
      | some realm =>
        ((ss.quotaUsed, ss.oauth), takenName ss.oauth ss.username
          (if method = stunMethodConnectionBind ∨ realm = ss.realm.name ∨ ss.oauth = true then
            (claimedUsername m).filter (isSecureString · true) else none),
          takenRealm server env ss.realm method (some realm)) := by
  unfold checkRealm claimedRealm
  cases found : firstOfType m.attrs stunAttributeRealm with
  | none => rfl
  | some a =>
    dsimp only [Option.map_some]
    generalize boundedString stunMaxRealmSize a.value = realm
    by_cases insecure : isSecureString realm false = false
    · rw [if_pos insecure, filter_insecure insecure]
      rfl
    · rw [if_neg insecure, filter_secure insecure]
      unfold takenRealm
      dsimp only
      by_cases bind : method = stunMethodConnectionBind
      · rw [if_pos bind, if_pos bind, if_pos (Or.inl bind)]
        exact checkUsername_identity server _ m method realm canResume
      · rw [if_neg bind, if_neg bind]
        by_cases other : realm ≠ ss.realm.name
        · rw [if_pos other]
          by_cases off : ss.oauth = false
          · have unread : ¬ (method = stunMethodConnectionBind ∨ realm = ss.realm.name ∨ ss.oauth = true) := by
              rintro (isBind | same | on)
              · exact bind isBind
              · exact other same
              · exact absurd (off.symm.trans on) (by decide)
            rw [if_pos off, if_neg unread]
            split <;> rfl
          · rw [if_neg off, if_pos (Or.inr (Or.inr (Bool.eq_true_of_not_eq_false off)))]
            exact checkUsername_identity server ss m method _ canResume
        · rw [if_neg other, if_pos (Or.inr (Or.inl (not_not.mp other)))]
          exact checkUsername_identity server ss m method realm canResume

/-- Whose session it is after the check of any request, whatever the check comes to. -/
theorem checkStunAuth_identity (longTerm : server.longTerm = true) :
    (checkStunAuth server env ss m method canResume).ss.identity =
      ((ss.quotaUsed, ss.oauth), takenName ss.oauth ss.username (nameRead ss m method),
        takenRealm server env ss.realm method (realmRead m)) := by
  have nonce := renewNonce_identity server env ss
  obtain ⟨used, rest⟩ := Prod.mk.inj nonce
  obtain ⟨username, realm⟩ := Prod.mk.inj rest
  obtain ⟨used, oauth⟩ := Prod.mk.inj used
  unfold checkStunAuth nameRead realmRead
  rw [if_neg (by rw [longTerm]; decide)]
  cases firstOfType m.attrs stunAttributeMessageIntegrity with
  | none => exact nonce
  | some a =>
    dsimp only
    by_cases wrong : a.value.length ≠ sha1SizeBytes
    · rw [if_pos wrong, if_pos wrong]
      exact nonce
    · rw [if_neg wrong, if_neg wrong, checkRealm_identity, used, username, realm, oauth]
      cases (claimedRealm m).filter (isSecureString · false) with
      | none => exact nonce
      | some read => rfl

end Checks

end Server
end TurnCluster
