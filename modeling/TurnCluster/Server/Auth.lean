import TurnCluster.Server.Session

namespace TurnCluster
namespace Server

def sha1SizeBytes : Nat := 20

/-- The bytes an HMAC covers: the message up to its MESSAGE-INTEGRITY, with a
header that says it ends behind that attribute. -/
def hmacCovered (buf : Memory) (sar : AttrRef) : List UInt8 :=
  buf.slice 0 2 ++ bytes16 (nswap16 (UInt16.ofNat (sar + 4 + sha1SizeBytes - stunHeaderLength))) ++
    buf.slice 4 (sar - 4)

/-- The reference of the first MESSAGE-INTEGRITY. -/
def firstIntegrity (m : Request) : Option AttrRef :=
  stunAttrGetFirstByTypeStr m.buf m.len stunAttributeMessageIntegrity

/-- `stun_check_message_integrity_by_key_str` with long-term credentials and SHA-1. -/
def stunCheckMessageIntegrityByKeyStr (server : TurnServer) (m : Request) (key : List UInt8) : Int :=
  match firstIntegrity m with
  | none => -1
  | some sar =>
    if stunAttrGetLen m.buf sar ≠ sha1SizeBytes then -1
    else
      match stunGetCommandMessageLenStr m.buf m.len with
      | none => -1
      | some origLen =>
        if origLen < sar + 4 + sha1SizeBytes then -1
        else if m.buf.slice (sar + 4) sha1SizeBytes = server.hmac key (hmacCovered m.buf sar) then 1 else 0

/-- A request that waits for the key of its user. -/
structure Lookup where
  username : List UInt8
  realm : List UInt8
  request : Request

structure AuthResult where
  ss : SuperSession
  reply : Reply
  messageIntegrity : Bool
  /-- The lookup for which the answer is postponed. -/
  lookup : Option Lookup

/-- A new nonce, if there is none or the old one has expired. -/
def renewNonce (server : TurnServer) (env : Env) (ss : SuperSession) : SuperSession :=
  if ss.nonce = [] ∨ server.staleNonce ≠ 0 ∧ ss.nonceExpirationTime < env.ctime then
    { ss with nonce := env.randomNonce, nonceExpirationTime := env.ctime + server.staleNonce }
  else ss

def authError (ss : SuperSession) (errCode : Nat) (reason : Option String) : AuthResult :=
  ⟨ss, { Reply.empty with errCode := errCode, reason := reason }, false, none⟩

/-- A 401 with nonce and realm, and the name of the OAuth server if there is one. -/
def createChallengeResponse (ss : SuperSession) : AuthResult :=
  ⟨ss, { Reply.empty with errCode := 401, respConstructed := true }, false, none⟩

/-- The end of `check_stun_auth`: the key is used, or looked up first. -/
def checkCredentials (server : TurnServer) (ss : SuperSession) (m : Request) (usname realm : List UInt8) (canResume : Bool) :
    AuthResult :=
  if (ss.hmackeySet = true ∨ ss.pwd ≠ []) ∧ 1 ≤ stunCheckMessageIntegrityByKeyStr server m ss.hmackey then
    ⟨ss, .empty, true, none⟩
  else if canResume = true then ⟨ss, .empty, false, some ⟨usname, realm, m⟩⟩
  else createChallengeResponse ss

/-- The session takes the name of the request; another name than before, which only OAuth lets pass, loses it its key. -/
def renamed (ss : SuperSession) (usname : List UInt8) : SuperSession :=
  if ss.username = [] then { ss with username := usname }
  else if ss.username = usname then ss
  else { ss with hmackeySet := false, username := usname }

/-- The part of `check_stun_auth` from the user name on. -/
def checkUsername (server : TurnServer) (ss : SuperSession) (m : Request) (method : UInt16) (realm : List UInt8)
    (canResume : Bool) : AuthResult :=
  match firstOfType m.attrs stunAttributeUsername with
  | none => authError ss 400 none
  | some a =>
    let usname := boundedString stunMaxUsernameSize a.value
    if isSecureString usname true = false then authError ss 400 none
    else if ss.oauth = false ∧ ss.username ≠ [] ∧ ss.username ≠ usname then
      if method = stunMethodAllocate then authError ss 437 (some "Allocation mismatch: wrong credentials")
      else authError ss 441 none
    else
      match firstOfType m.attrs stunAttributeNonce with
      | none => authError (renamed ss usname) 400 none
      | some _ => checkCredentials server (renamed ss usname) m usname realm canResume

/-- The part from the realm on: an OAuth session goes on with its own realm in place of another one. -/
def checkRealm (server : TurnServer) (env : Env) (ss : SuperSession) (m : Request) (method : UInt16)
    (canResume : Bool) : AuthResult :=
  match firstOfType m.attrs stunAttributeRealm with
  | none => authError ss 400 none
  | some a =>
    let realm := boundedString stunMaxRealmSize a.value
    if isSecureString realm false = false then authError ss 400 none
    else if method = stunMethodConnectionBind then
      checkUsername server { ss with realm := getRealmOptionsByName server env realm } m method realm canResume
    else if realm ≠ ss.realm.name then
      if ss.oauth = false then
        if method = stunMethodAllocate then
          authError ss 437 (some "Allocation mismatch: wrong credentials: the realm value is incorrect")
        else authError ss 441 (some "Wrong credentials: the realm value is incorrect")
      else checkUsername server ss m method ss.realm.name canResume
    else checkUsername server ss m method realm canResume

def checkStunAuth (server : TurnServer) (env : Env) (ss : SuperSession) (m : Request) (method : UInt16)
    (canResume : Bool) : AuthResult :=
  if server.longTerm = false then ⟨ss, .empty, false, none⟩
  else
    let ss := renewNonce server env ss
    match firstOfType m.attrs stunAttributeMessageIntegrity with
    | none => createChallengeResponse ss
    | some a =>
      if a.value.length ≠ sha1SizeBytes then createChallengeResponse ss
      else checkRealm server env ss m method canResume

end Server
end TurnCluster
