import Mathlib.Data.List.TakeWhile
import TurnCluster.Server.Command
import TurnCluster.Server.RealmQuota
import TurnCluster.Server.RtcpMap

namespace TurnCluster
namespace Server

/-- The number that decimal figures denote. -/
def decimal (figures : List UInt8) : Nat := figures.foldl (fun value figure => 10 * value + (figure.toNat - 48)) 0

/-- `isspace`. -/
def isSpace (b : UInt8) : Bool := b == 32 || (9 ≤ b && b ≤ 13)

/-- The sign in front of a number, and what stands behind it. -/
def splitSign : List UInt8 → Int × List UInt8
  | [] => (1, [])
  | c :: rest => if c = 45 then (-1, rest) else if c = 43 then (1, rest) else (1, c :: rest)

/-- `atol`, with a `long` of 64 bits. -/
def atol (text : List UInt8) : Int :=
  let (sign, figures) := splitSign (text.dropWhile isSpace)
  max (-2 ^ 63) (min (sign * decimal (figures.takeWhile isFigure)) (2 ^ 63 - 1))

/-- A `long` as a `turn_time_t`. -/
def turnTimeOf (value : Int) : UInt32 := UInt32.ofNat (value % 2 ^ 32).toNat

/-- `get_rest_api_timestamp`. -/
def getRestApiTimestamp (separator : UInt8) (usname : List UInt8) : UInt32 :=
  turnTimeOf (
    if separator ∈ usname then
      let front := usname.takeWhile (· ≠ separator)
      if front = [] then atol usname.tail
      else if front.all isFigure = true then atol front
      else atol (usname.drop (front.length + 1))
    else atol usname)

/-- What keys are made with: the password that a secret gives a user, and the key of a user with a password. -/
structure KeyMaking where
  password : List UInt8 → List UInt8 → Option (List UInt8)
  integrityKey : List UInt8 → List UInt8 → List UInt8 → Option (List UInt8)

/-- What `get_user_key` is called with and finds. -/
structure KeyQuery where
  usname : List UInt8
  realm : List UInt8
  request : Request
  ctime : UInt32
  /-- The request has an access token, and what the part that reads it returns. -/
  oauth : Option Int
  /-- What `get_auth_secrets` gives, if it succeeds. -/
  secrets : Option (List (List UInt8))

/-- How `get_user_key` ends. -/
inductive KeyLookup
  | byOauth (ret : Int)
  | secretsUnreadable
  | expired
  /-- The time is right, but the request has no MESSAGE-INTEGRITY of the right size. -/
  | noIntegrity
  /-- The secrets were tried; the key of the first one that the request was made with. -/
  | checked (key : Option (List UInt8))
  /-- Without time stamps the accounts are looked up. -/
  | accounts
  deriving DecidableEq

/-- The time stamp has passed, and the secrets are next. -/
def KeyLookup.reachesSecrets : KeyLookup → Bool
  | .noIntegrity => true
  | .checked _ => true
  | _ => false

/-- The loop over the secrets. -/
def trySecrets (server : TurnServer) (make : KeyMaking) (q : KeyQuery) : List (List UInt8) → Option (List UInt8)
  | [] => none
  | secret :: rest =>
    match (make.password secret q.usname).bind (make.integrityKey q.usname q.realm) with
    | none => trySecrets server make q rest
    | some key =>
      if 1 ≤ stunCheckMessageIntegrityByKeyStr server q.request key then some key else trySecrets server make q rest

def checkSecrets (server : TurnServer) (make : KeyMaking) (q : KeyQuery) (secrets : List (List UInt8)) : KeyLookup :=
  match firstIntegrity q.request with
  | none => .noIntegrity
  | some sar =>
    if stunAttrGetLen q.request.buf sar ≠ sha1SizeBytes then .noIntegrity else .checked (trySecrets server make q secrets)

/-- `get_user_key`. -/
def getUserKey (params : UserNameParams) (server : TurnServer) (make : KeyMaking) (q : KeyQuery) : KeyLookup :=
  match q.oauth with
  | some ret => .byOauth ret
  | none =>
    if params.useAuthSecretWithTimestamp = true then
      match q.secrets with
      | none => .secretsUnreadable
      | some secrets =>
        if turnTimeBefore (getRestApiTimestamp params.restApiSeparator q.usname) q.ctime = false then
          checkSecrets server make q secrets
        else .expired
    else .accounts

/-- The name starts with a letter. -/
def isLetter (b : UInt8) : Bool := (65 ≤ b && b ≤ 90) || (97 ≤ b && b ≤ 122)

/-- Figures and a name, in either order, with the separator between them; the figures denote `ts`. Where they stand in
front, the separator is none of them. -/
def Stamped (separator : UInt8) (usname : List UInt8) (ts : Nat) : Prop :=
  ∃ figures name : List UInt8, figures ≠ [] ∧ figures.all isFigure = true ∧ decimal figures = ts ∧
    name.head?.any isLetter = true ∧ separator ∉ name ∧
    (usname = figures ++ separator :: name ∧ separator ∉ figures ∨ usname = name ++ separator :: figures)

section Parsing

variable {separator : UInt8} {figures name usname : List UInt8} {ts : Nat}

theorem isFigure_bounds {b : UInt8} (figure : isFigure b = true) : 48 ≤ b.toNat ∧ b.toNat ≤ 57 := by
  simp only [isFigure, Bool.and_eq_true, decide_eq_true_eq, UInt8.le_iff_toNat_le] at figure
  exact figure

theorem atol_figures (nonempty : figures ≠ []) (all : figures.all isFigure = true) (small : decimal figures < 2 ^ 63) :
    atol figures = decimal figures := by
  obtain ⟨first, rest, rfl⟩ := List.exists_cons_of_ne_nil nonempty
  have bounds := isFigure_bounds (List.all_eq_true.mp all first List.mem_cons_self)
  have notSpace : isSpace first = false := by
    simp only [isSpace, Bool.or_eq_false_iff, Bool.and_eq_false_iff, beq_eq_false_iff_ne, decide_eq_false_iff_not,
      UInt8.le_iff_toNat_le, ne_eq, ← UInt8.toNat_inj]
    have space : (32 : UInt8).toNat = 32 := rfl
    have last : (13 : UInt8).toNat = 13 := rfl
    omega
  have unsigned : first ≠ 45 ∧ first ≠ 43 := by
    constructor <;> rintro rfl <;> exact absurd bounds (by decide)
  have whole : (first :: rest).takeWhile isFigure = first :: rest :=
    List.takeWhile_eq_self_iff.mpr (List.all_eq_true.mp all)
  simp only [atol, List.dropWhile_cons, notSpace, Bool.false_eq_true, if_false, splitSign, if_neg unsigned.1,
    if_neg unsigned.2, whole, one_mul]
  omega

/-- `strchr` finds the separator behind a front without it. -/
theorem takeWhile_before {front behind : List UInt8} (absent : separator ∉ front) :
    (front ++ separator :: behind).takeWhile (· ≠ separator) = front := by
  have kept : ∀ c ∈ front, decide (c ≠ separator) = true := fun c here =>
    decide_eq_true fun same => absent (same ▸ here)
  rw [List.takeWhile_append_of_pos kept, List.takeWhile_cons_of_neg (by simp), List.append_nil]

theorem name_not_figures (letter : name.head?.any isLetter = true) : name ≠ [] ∧ ¬ name.all isFigure = true := by
  cases name with
  | nil => cases letter
  | cons c rest =>
    refine ⟨List.cons_ne_nil _ _, fun all => ?_⟩
    have bounds := isFigure_bounds (List.all_eq_true.mp all c List.mem_cons_self)
    simp only [List.head?_cons, Option.any_some, isLetter, Bool.or_eq_true, Bool.and_eq_true, decide_eq_true_eq,
      UInt8.le_iff_toNat_le] at letter
    have upper : (65 : UInt8).toNat = 65 := rfl
    have lower : (97 : UInt8).toNat = 97 := rfl
    omega

theorem getRestApiTimestamp_stamped (stamped : Stamped separator usname ts) (small : ts < 2 ^ 32) :
    (getRestApiTimestamp separator usname).toNat = ts := by
  obtain ⟨figures, name, nonempty, all, rfl, letter, absent, form⟩ := stamped
  have number := atol_figures nonempty all (by omega)
  have time : (turnTimeOf (decimal figures)).toNat = decimal figures := by
    simp only [turnTimeOf, UInt32.toNat_ofNat']
    omega
  obtain ⟨named, notFigures⟩ := name_not_figures letter
  rcases form with ⟨rfl, apart⟩ | rfl
  · simp only [getRestApiTimestamp, List.mem_append, List.mem_cons, true_or, or_true, if_true, takeWhile_before apart,
      if_neg nonempty, all, number, time]
  · have behind : (name ++ separator :: figures).drop (name.length + 1) = figures := by
      rw [List.drop_append, List.drop_eq_nil_of_le (by omega), Nat.add_sub_cancel_left]
      rfl
    simp only [getRestApiTimestamp, List.mem_append, List.mem_cons, true_or, or_true, if_true, takeWhile_before absent,
      if_neg named, if_neg notFigures, behind, number, time]

end Parsing

variable (server : TurnServer) (make : KeyMaking) {q : KeyQuery}

theorem checkSecrets_reaches (q : KeyQuery) (secrets : List (List UInt8)) :
    (checkSecrets server make q secrets).reachesSecrets = true := by
  unfold checkSecrets
  split
  · rfl
  · split <;> rfl

/-- For a request with a MESSAGE-INTEGRITY of the right size the secrets are not only reached but tried. -/
theorem checkSecrets_tries (secrets : List (List UInt8)) {sar : AttrRef} (found : firstIntegrity q.request = some sar)
    (size : stunAttrGetLen q.request.buf sar = sha1SizeBytes) :
    checkSecrets server make q secrets = .checked (trySecrets server make q secrets) := by
  simp only [checkSecrets, found, size, ne_eq, not_true_eq_false, if_false]

/-- With time stamps in use and secrets that can be read, the secrets are reached exactly if the stamp does not count as
before the current time. -/
theorem getUserKey_reaches {params : UserNameParams} (limited : params.useAuthSecretWithTimestamp = true)
    (plain : q.oauth = none) {secrets : List (List UInt8)} (readable : q.secrets = some secrets) :
    (getUserKey params server make q).reachesSecrets = true ↔
      turnTimeBefore (getRestApiTimestamp params.restApiSeparator q.usname) q.ctime = false := by
  simp only [getUserKey, plain, limited, readable, if_true]
  by_cases due : turnTimeBefore (getRestApiTimestamp params.restApiSeparator q.usname) q.ctime = false
  · rw [if_pos due]
    exact iff_of_true (checkSecrets_reaches server make q secrets) due
  · rw [if_neg due]
    exact iff_of_false (by decide) due

/-- `get_user_key` reaches the secrets exactly for a stamp that is not before the current time, if and only if the stamp
lies less than 2^31 seconds ahead and at most 2^31 seconds back. -/
theorem time_limited_credentials_iff {params : UserNameParams} (server : TurnServer) (make : KeyMaking) {q : KeyQuery}
    (limited : params.useAuthSecretWithTimestamp = true) (plain : q.oauth = none) {secrets : List (List UInt8)}
    (readable : q.secrets = some secrets) {ts : Nat} (stamped : Stamped params.restApiSeparator q.usname ts)
    (small : ts < 2 ^ 32) :
    ((getUserKey params server make q).reachesSecrets = true ↔ q.ctime.toNat ≤ ts) ↔
      ts < q.ctime.toNat + 2 ^ 31 ∧ q.ctime.toNat ≤ ts + 2 ^ 31 := by
  have read := getRestApiTimestamp_stamped stamped small
  rw [getUserKey_reaches server make limited plain readable, ← read]
  exact turnTimeBefore_eq_false_iff _ _

/-- Keys that are put together from what they are made of. -/
def exampleMaking : KeyMaking where
  password secret usname := some (secret ++ usname)
  integrityKey usname realm pwd := some (usname ++ realm ++ pwd)

/-- The user `5:a` in the realm `r` at the time `ctime`. -/
def exampleQuery (ctime : UInt32) : KeyQuery where
  usname := [53, 58, 97]
  realm := [114]
  request := .ofAttributes stunMethodAllocate []
  ctime := ctime
  oauth := none
  secrets := some [[115]]

def exampleParams : UserNameParams := ⟨true, 58⟩

theorem example_stamped (ctime : UInt32) : Stamped exampleParams.restApiSeparator (exampleQuery ctime).usname 5 := by
  exact ⟨[53], [97], by decide, by decide, rfl, by decide, by decide, Or.inl ⟨rfl, by decide⟩⟩

/-- At the time 6 the stamp 5 has expired. -/
theorem time_limited_credentials_iff_expired :
    ¬ (getUserKey exampleParams exampleServer exampleMaking (exampleQuery 6)).reachesSecrets = true := by
  have near := time_limited_credentials_iff exampleServer exampleMaking rfl rfl rfl (example_stamped 6) (by decide)
  rw [near.mpr (by decide)]
  decide

/-- More than 2^31 seconds later the stamp 5 is good again. -/
theorem old_stamp_revives :
    Stamped exampleParams.restApiSeparator (exampleQuery 2147483654).usname 5 ∧
      5 < (exampleQuery 2147483654).ctime.toNat ∧
      (getUserKey exampleParams exampleServer exampleMaking (exampleQuery 2147483654)).reachesSecrets = true :=
  ⟨example_stamped 2147483654, by decide, by decide⟩

end Server
end TurnCluster
