import Mathlib.Algebra.Group.Nat.Defs
import Mathlib.Data.List.Perm.Basic
import Mathlib.Logic.Function.Basic
import TurnCluster.Lib.Run
import TurnCluster.Stun.Attribute

namespace TurnCluster
namespace Server

theorem toInt_add_one {x : Int32} (room : x.toInt < 2 ^ 31 - 1) : (x + 1).toInt = x.toInt + 1 := by
  have low := x.le_toInt
  rw [Int32.toInt_add]
  change (x.toInt + 1).bmod (2 ^ 32) = x.toInt + 1
  exact Int.bmod_eq_of_le (by omega) (by omega)

theorem toInt_sub_one {x : Int32} (positive : 0 < x.toInt) : (x - 1).toInt = x.toInt - 1 := by
  have high := x.toInt_lt
  rw [Int32.toInt_sub]
  change (x.toInt - 1).bmod (2 ^ 32) = x.toInt - 1
  exact Int.bmod_eq_of_le (by omega) (by omega)

/-- An `int` converted to `size_t`. -/
def sizeOfVint (x : Int32) : Nat := (x.toInt % 2 ^ 64).toNat

theorem le_sizeOfVint (x : Int32) : x.toInt ≤ sizeOfVint x := by
  have high := x.toInt_lt
  rw [sizeOfVint]
  omega

/-- The options of `turn_params` that say how a user name is read. -/
structure UserNameParams where
  useAuthSecretWithTimestamp : Bool
  /-- Never the zero byte. -/
  restApiSeparator : UInt8

def isFigure (b : UInt8) : Bool := 48 ≤ b && b ≤ 57

/-- `get_real_username`: with time stamps in use, a name is what stands behind the stamp, or before
the separator if what stands there is no number. -/
def getRealUsername (params : UserNameParams) (usname : List UInt8) : List UInt8 :=
  if usname ≠ [] ∧ params.useAuthSecretWithTimestamp = true then
    if params.restApiSeparator ∈ usname then
      let front := usname.takeWhile (· ≠ params.restApiSeparator)
      if front = [] then usname.tail
      else if front.all isFigure = true then usname.drop (front.length + 1)
      else front
    else usname
  else usname

/-- The part of `realm_params_t` that the quota functions read or copy. -/
structure RealmParams where
  name : List UInt8
  totalQuota : Int32
  userQuota : Int32
  totalCurrentAllocs : Int32
  allocCounters : List UInt8 → Option Nat

/-- What the map `realms` has for a name: the default record, or one made for this name. -/
inductive RealmEntry
  | default
  | own (rp : RealmParams)

/-- `default_realm_params_ptr` and `realms`. -/
structure Realms where
  default : RealmParams
  realms : List UInt8 → Option RealmEntry

/-- Where a record lies: records of the map are known by the name they were made for. -/
inductive RealmPtr
  | default
  | own (name : List UInt8)
  deriving DecidableEq, Repr

/-- `create_default_realm`. -/
def createDefaultRealm : Realms where
  default := { name := [], totalQuota := 0, userQuota := 0, totalCurrentAllocs := 0, allocCounters := fun _ => none }
  realms := fun _ => none

/-- `set_default_realm_name`. The key is the name as it was stored. -/
def setDefaultRealmName (w : Realms) (realm : List UInt8) : Realms where
  default := { w.default with name := realm.take stunMaxRealmSize }
  realms := Function.update w.realms (realm.take stunMaxRealmSize) (some .default)

/-- `get_realm`, with the record it returns a pointer to. A record for a new name starts as a copy of
the default record; only its counters are its own. -/
def getRealm (w : Realms) (name : Option (List UInt8)) : RealmPtr × RealmParams × Realms :=
  match name with
  | none => (.default, w.default, w)
  | some [] => (.default, w.default, w)
  | some (b :: rest) =>
    match w.realms (b :: rest) with
    | some .default => (.default, w.default, w)
    | some (.own rp) => (.own (b :: rest), rp, w)
    | none =>
      let ret : RealmParams :=
        { w.default with name := (b :: rest).take stunMaxRealmSize, allocCounters := fun _ => none }
      (.own (b :: rest), ret, { w with realms := Function.update w.realms (b :: rest) (some (.own ret)) })

def Realms.params (w : Realms) : RealmPtr → Option RealmParams
  | .default => some w.default
  | .own name =>
    match w.realms name with
    | some (.own rp) => some rp
    | _ => none

/-- A write through the pointer. -/
def Realms.store (w : Realms) (ptr : RealmPtr) (rp : RealmParams) : Realms :=
  match ptr with
  | .default => { w with default := rp }
  | .own name => { w with realms := Function.update w.realms name (some (.own rp)) }

/-- The lock section of `check_new_allocation_quota`; `none` is a refusal. -/
def RealmParams.charge (rp : RealmParams) (username : List UInt8) : Option RealmParams :=
  if rp.totalQuota ≠ 0 ∧ rp.totalQuota ≤ rp.totalCurrentAllocs then none
  else if username ≠ [] then
    match rp.allocCounters username with
    | none =>
      some { rp with
        allocCounters := Function.update rp.allocCounters username (some 1)
        totalCurrentAllocs := rp.totalCurrentAllocs + 1 }
    | some value =>
      if rp.userQuota ≠ 0 ∧ sizeOfVint rp.userQuota ≤ value then none
      else
        some { rp with
          allocCounters := Function.update rp.allocCounters username (some ((value + 1) % 2 ^ 64))
          totalCurrentAllocs := rp.totalCurrentAllocs + 1 }
  else some { rp with totalCurrentAllocs := rp.totalCurrentAllocs + 1 }

/-- The lock section of `release_allocation_quota`. -/
def RealmParams.discharge (rp : RealmParams) (username : List UInt8) : RealmParams where
  name := rp.name
  totalQuota := rp.totalQuota
  userQuota := rp.userQuota
  totalCurrentAllocs := if rp.totalCurrentAllocs ≠ 0 then rp.totalCurrentAllocs - 1 else 0
  allocCounters :=
    if username ≠ [] then
      match rp.allocCounters username with
      | none => rp.allocCounters
      | some value =>
        if value ≠ 0 then Function.update rp.allocCounters username (some (value - 1)) else rp.allocCounters
    else rp.allocCounters

/-- The arguments of both functions; `none` is the null pointer. -/
structure Charge where
  user : Option (List UInt8)
  oauth : Bool
  realm : Option (List UInt8)
  deriving DecidableEq, Repr

/-- The local `username` of both functions. -/
def Charge.username (params : UserNameParams) (c : Charge) : List UInt8 :=
  if c.oauth = true then [] else getRealUsername params (c.user.getD [])

/-- `check_new_allocation_quota`. -/
def checkNewAllocationQuota (params : UserNameParams) (w : Realms) (c : Charge) : Bool × Realms :=
  if c.user = none ∧ c.oauth = false then (true, w)
  else
    let (ptr, rp, w₁) := getRealm w c.realm
    match rp.charge (c.username params) with
    | none => (false, w₁)
    | some rp' => (true, w₁.store ptr rp')

/-- `release_allocation_quota`. -/
def releaseAllocationQuota (params : UserNameParams) (w : Realms) (c : Charge) : Realms :=
  if c.user = none then w
  else
    let (ptr, rp, w₁) := getRealm w c.realm
    w₁.store ptr (rp.discharge (c.username params))

def changeTotalQuota (w : Realms) (realm : Option (List UInt8)) (value : Int32) : Realms :=
  let (ptr, rp, w₁) := getRealm w realm
  w₁.store ptr { rp with totalQuota := value }

def changeUserQuota (w : Realms) (realm : Option (List UInt8)) (value : Int32) : Realms :=
  let (ptr, rp, w₁) := getRealm w realm
  w₁.store ptr { rp with userQuota := value }

/-- The record that `get_realm` finds or makes. -/
def Realms.ptrOf (w : Realms) (realm : Option (List UInt8)) : RealmPtr := (getRealm w realm).1

/-- Successful checks not yet released, of the realm with this record. -/
def outstanding (w : Realms) (held : List Charge) (ptr : RealmPtr) : Nat :=
  held.countP (fun c => w.ptrOf c.realm = ptr)

/-- Those among them that were made for one user and not by OAuth. -/
def userOutstanding (params : UserNameParams) (w : Realms) (held : List Charge) (ptr : RealmPtr)
    (name : List UInt8) : Nat :=
  held.countP (fun c => w.ptrOf c.realm = ptr ∧ c.oauth = false ∧ c.username params = name)

/-- The counters of a record say what is outstanding in its realm. -/
structure RecordCounts (params : UserNameParams) (w : Realms) (held : List Charge) (ptr : RealmPtr)
    (rp : RealmParams) : Prop where
  total : rp.totalCurrentAllocs.toInt = outstanding w held ptr
  user : ∀ name, (rp.allocCounters name).getD 0 = userOutstanding params w held ptr name

structure QuotaWorld where
  store : Realms
  held : List Charge

inductive QuotaEvent
  | check (c : Charge)
  | release (c : Charge)
  /-- A call of `get_realm` from elsewhere, as `get_realm_options_by_name` makes it. -/
  | mention (realm : Option (List UInt8))
  | changeTotalQuota (realm : Option (List UInt8)) (value : Int32)
  | changeUserQuota (realm : Option (List UInt8)) (value : Int32)

/-- One of the two functions that count. -/
def QuotaEvent.isQuotaCall : QuotaEvent → Bool
  | .check _ => true
  | .release _ => true
  | _ => false

/-- One call, with the result of a check. -/
def quotaStep (params : UserNameParams) (w : QuotaWorld) : QuotaEvent → QuotaWorld × Bool
  | .check c =>
    let (allowed, store) := checkNewAllocationQuota params w.store c
    (⟨store, if allowed = true then c :: w.held else w.held⟩, allowed)
  | .release c => (⟨releaseAllocationQuota params w.store c, w.held.erase c⟩, true)
  | .mention realm => (⟨(getRealm w.store realm).2.2, w.held⟩, true)
  | .changeTotalQuota realm value => (⟨Server.changeTotalQuota w.store realm value, w.held⟩, true)
  | .changeUserQuota realm value => (⟨Server.changeUserQuota w.store realm value, w.held⟩, true)

/-- A server that starts with the names given to the default realm; releases repeat earlier checks. -/
def quotaMachine (params : UserNameParams) (names : List (List UInt8)) : Machine QuotaWorld QuotaEvent Bool where
  init w := w = ⟨names.foldl setDefaultRealmName createDefaultRealm, []⟩
  enabled w e :=
    match e with
    | .release c => c ∈ w.held
    | _ => True
  next w e := some (quotaStep params w e)

/-- Every record counts what is outstanding. -/
def Counts (params : UserNameParams) (w : QuotaWorld) : Prop :=
  ∀ ptr rp, w.store.params ptr = some rp → RecordCounts params w.store w.held ptr rp

/-- A refusal of this check has a quota that is used up; the quotas are those of the record that
`get_realm` finds or makes. -/
def RefusalFounded (params : UserNameParams) (w : QuotaWorld) (c : Charge) : Prop :=
  let (ptr, rp, _) := getRealm w.store c.realm
  (checkNewAllocationQuota params w.store c).1 = false →
    rp.totalQuota ≠ 0 ∧ rp.totalQuota.toInt ≤ outstanding w.store w.held ptr ∨
      rp.userQuota ≠ 0 ∧ rp.userQuota.toInt ≤ userOutstanding params w.store w.held ptr (c.username params)

/-- A realm that has no record yet is named only while nothing is outstanding in the default realm. -/
def MadeFromIdle (w : QuotaWorld) (realm : Option (List UInt8)) : Prop :=
  w.store.params (w.store.ptrOf realm) = none → outstanding w.store w.held .default = 0

/-- A check names a user; unless it is by OAuth, the name that is read from it is not empty. -/
def Charge.Named (params : UserNameParams) (c : Charge) : Prop :=
  c.user ≠ none ∧ (c.oauth = false → c.username params ≠ [])

def Countable (params : UserNameParams) (w : QuotaWorld) : QuotaEvent → Prop
  | .check c =>
    c.Named params ∧ MadeFromIdle w c.realm ∧ outstanding w.store w.held (w.store.ptrOf c.realm) < 2 ^ 31 - 1
  | .release _ => True
  | .mention realm => MadeFromIdle w realm
  | .changeTotalQuota realm _ => MadeFromIdle w realm
  | .changeUserQuota realm _ => MadeFromIdle w realm

theorem Realms.ptrOf_cons (w : Realms) (b : UInt8) (rest : List UInt8) :
    w.ptrOf (some (b :: rest)) =
      match w.realms (b :: rest) with
      | some .default => .default
      | _ => .own (b :: rest) := by
  rw [ptrOf, getRealm]
  cases w.realms (b :: rest) with
  | none => rfl
  | some entry => cases entry <;> rfl

variable {w : Realms} {held : List Charge} {ptr : RealmPtr} {c : Charge} {old : RealmParams} {w' : Realms}
  {rp : RealmParams}

/-- Names lead to the records they led to as long as no entry turns from or into the default record. -/
theorem Realms.ptrOf_congr (same : ∀ name, w'.realms name = some .default ↔ w.realms name = some .default)
    (realm : Option (List UInt8)) : w'.ptrOf realm = w.ptrOf realm := by
  match realm with
  | none => rfl
  | some [] => rfl
  | some (b :: rest) =>
    have sameEntry := same (b :: rest)
    rw [ptrOf_cons, ptrOf_cons]
    by_cases default : w.realms (b :: rest) = some .default
    · rw [default, sameEntry.mpr default]
    · have default' : w'.realms (b :: rest) ≠ some .default := fun h => default (sameEntry.mp h)
      split
      · contradiction
      · rfl

theorem Realms.params_store (w : Realms) (ptr : RealmPtr) (rp : RealmParams) :
    (w.store ptr rp).params ptr = some rp := by
  cases ptr with
  | default => rfl
  | own name => simp only [store, params, Function.update_self]

theorem Realms.params_store_of_ne (w : Realms) {other : RealmPtr} (rp : RealmParams) (apart : other ≠ ptr) :
    (w.store ptr rp).params other = w.params other := by
  cases ptr with
  | default =>
    cases other with
    | default => contradiction
    | own name => rfl
  | own name =>
    cases other with
    | default => rfl
    | own name' =>
      have apart' : name' ≠ name := fun same => apart (congrArg RealmPtr.own same)
      simp only [store, params, Function.update_of_ne apart']

theorem Realms.ptrOf_update {name : List UInt8} (owned : w.realms name ≠ some .default) (rp : RealmParams)
    (realm : Option (List UInt8)) :
    ({ w with realms := Function.update w.realms name (some (.own rp)) } : Realms).ptrOf realm = w.ptrOf realm := by
  refine ptrOf_congr (fun name' => ?_) realm
  by_cases same : name' = name
  · subst same
    simp [owned]
  · simp only [Function.update_of_ne same]

theorem Realms.ptrOf_store (present : w.params ptr = some old) (rp : RealmParams) (realm : Option (List UInt8)) :
    (w.store ptr rp).ptrOf realm = w.ptrOf realm := by
  cases ptr with
  | default =>
    refine ptrOf_congr (fun name => ?_) realm
    rfl
  | own name =>
    refine ptrOf_update ?_ rp realm
    intro default
    simp [params, default] at present

/-- What `get_realm` gives: a record that is there afterwards, and was there before or is a copy of the
default record with counters of its own. -/
structure Found (w : Realms) (ptr : RealmPtr) (rp : RealmParams) (w' : Realms) : Prop where
  here : w'.params ptr = some rp
  others : ∀ other, other ≠ ptr → w'.params other = w.params other
  names : ∀ realm, w'.ptrOf realm = w.ptrOf realm
  source : w.params ptr = some rp ∨
    w.params ptr = none ∧ rp.totalCurrentAllocs = w.default.totalCurrentAllocs ∧ rp.allocCounters = fun _ => none

theorem Found.refl (present : w.params ptr = some rp) : Found w ptr rp w :=
  ⟨present, fun _ _ => rfl, fun _ => rfl, .inl present⟩

theorem getRealm_found (w : Realms) (realm : Option (List UInt8)) :
    Found w (getRealm w realm).1 (getRealm w realm).2.1 (getRealm w realm).2.2 := by
  match realm with
  | none => exact .refl rfl
  | some [] => exact .refl rfl
  | some (b :: rest) =>
    rw [getRealm]
    cases entry : w.realms (b :: rest) with
    | none =>
      refine ⟨?_, ?_, Realms.ptrOf_update (by simp [entry]) _, .inr ⟨?_, rfl, rfl⟩⟩
      · simp only [Realms.params, Function.update_self]
      · intro other apart
        exact w.params_store_of_ne _ apart
      · simp only [Realms.params, entry]
    | some known =>
      cases known with
      | default => exact .refl rfl
      | own rp => exact .refl (by simp only [Realms.params, entry])

theorem outstanding_congr (names : ∀ realm, w'.ptrOf realm = w.ptrOf realm) (held : List Charge) (ptr : RealmPtr) :
    outstanding w' held ptr = outstanding w held ptr := by
  simp only [outstanding, names]

theorem userOutstanding_congr (names : ∀ realm, w'.ptrOf realm = w.ptrOf realm) (params : UserNameParams)
    (held : List Charge) (ptr : RealmPtr) (name : List UInt8) :
    userOutstanding params w' held ptr name = userOutstanding params w held ptr name := by
  simp only [userOutstanding, names]

theorem RecordCounts.congr {params : UserNameParams} (counts : RecordCounts params w held ptr rp)
    (names : ∀ realm, w'.ptrOf realm = w.ptrOf realm) : RecordCounts params w' held ptr rp := by
  refine ⟨?_, fun name => ?_⟩
  · rw [outstanding_congr names, counts.total]
  · rw [userOutstanding_congr names, counts.user name]

theorem outstanding_cons (w : Realms) (c : Charge) (held : List Charge) (ptr : RealmPtr) :
    outstanding w (c :: held) ptr = outstanding w held ptr + if w.ptrOf c.realm = ptr then 1 else 0 := by
  simp only [outstanding, List.countP_cons, decide_eq_true_iff]

theorem userOutstanding_cons (params : UserNameParams) (w : Realms) (c : Charge) (held : List Charge)
    (ptr : RealmPtr) (name : List UInt8) :
    userOutstanding params w (c :: held) ptr name = userOutstanding params w held ptr name +
      if w.ptrOf c.realm = ptr ∧ c.oauth = false ∧ c.username params = name then 1 else 0 := by
  simp only [userOutstanding, List.countP_cons, decide_eq_true_iff]

theorem userOutstanding_le (params : UserNameParams) (w : Realms) (held : List Charge) (ptr : RealmPtr)
    (name : List UInt8) : userOutstanding params w held ptr name ≤ outstanding w held ptr := by
  refine List.countP_mono_left (fun c _ counted => ?_)
  rw [decide_eq_true_iff] at counted ⊢
  exact counted.1

theorem Charge.direct_of_username {params : UserNameParams} (named : c.username params ≠ []) : c.oauth = false := by
  by_contra byOauth
  exact named (if_pos (Bool.eq_true_of_not_eq_false byOauth))

theorem RecordCounts.cons_of_ne {params : UserNameParams} (apart : ptr ≠ w.ptrOf c.realm) :
    RecordCounts params w (c :: held) ptr rp ↔ RecordCounts params w held ptr rp := by
  have total : outstanding w (c :: held) ptr = outstanding w held ptr := by
    rw [outstanding_cons, if_neg apart.symm, Nat.add_zero]
  have user : ∀ name, userOutstanding params w (c :: held) ptr name = userOutstanding params w held ptr name := by
    intro name
    rw [userOutstanding_cons, if_neg (fun counted => apart counted.1.symm), Nat.add_zero]
  constructor
  · rintro ⟨totalEq, userEq⟩
    exact ⟨by rw [totalEq, total], fun name => by rw [userEq name, user name]⟩
  · rintro ⟨totalEq, userEq⟩
    exact ⟨by rw [totalEq, total], fun name => by rw [userEq name, user name]⟩

theorem RecordCounts.charge {params : UserNameParams} {rp' : RealmParams}
    (counts : RecordCounts params w held (w.ptrOf c.realm) rp) (named : c.Named params)
    (room : outstanding w held (w.ptrOf c.realm) < 2 ^ 31 - 1) (charged : rp.charge (c.username params) = some rp') :
    RecordCounts params w (c :: held) (w.ptrOf c.realm) rp' := by
  have total : (rp.totalCurrentAllocs + 1).toInt = (outstanding w (c :: held) (w.ptrOf c.realm) : Nat) := by
    have before := counts.total
    rw [outstanding_cons, if_pos rfl, toInt_add_one (by omega), before]
    rfl
  by_cases empty : c.username params = []
  · have byOauth : c.oauth = true := by
      by_contra direct
      exact named.2 (Bool.eq_false_iff.mpr direct) empty
    rw [RealmParams.charge, empty] at charged
    split at charged
    · cases charged
    · cases charged
      refine ⟨total, fun name => ?_⟩
      rw [userOutstanding_cons, if_neg (by simp [byOauth])]
      exact counts.user name
  · have direct := Charge.direct_of_username empty
    have value := counts.user (c.username params)
    have bound := userOutstanding_le params w held (w.ptrOf c.realm) (c.username params)
    -- only the counter of this user changes, and by one
    have user : ∀ name, ((Function.update rp.allocCounters (c.username params)
        (some ((rp.allocCounters (c.username params)).getD 0 + 1))) name).getD 0 =
          userOutstanding params w (c :: held) (w.ptrOf c.realm) name := by
      intro name
      rw [userOutstanding_cons]
      by_cases same : name = c.username params
      · subst same
        rw [Function.update_self, if_pos ⟨rfl, direct, rfl⟩, Option.getD_some, value]
      · rw [Function.update_of_ne same, if_neg (fun counted => same counted.2.2.symm)]
        exact counts.user name
    rw [RealmParams.charge, if_pos empty] at charged
    split at charged
    · cases charged
    · split at charged
      · rename_i fresh
        cases charged
        rw [fresh] at user
        exact ⟨total, user⟩
      · rename_i value' present
        split at charged
        · cases charged
        · cases charged
          rw [present, Option.getD_some] at value user
          refine ⟨total, ?_⟩
          rw [Nat.mod_eq_of_lt (by omega)]
          exact user

theorem RealmParams.counter_discharge (rp : RealmParams) {username : List UInt8} (named : username ≠ [])
    (name : List UInt8) :
    ((rp.discharge username).allocCounters name).getD 0 =
      (rp.allocCounters name).getD 0 - if name = username then 1 else 0 := by
  simp only [discharge, if_pos named]
  by_cases same : name = username
  · subst same
    rw [if_pos rfl]
    cases value : rp.allocCounters name with
    | none => simp [value]
    | some n =>
      by_cases zero : n = 0
      · simp [value, zero]
      · simp [zero]
  · rw [if_neg same, Nat.sub_zero]
    cases value : rp.allocCounters username with
    | none => rfl
    | some n =>
      by_cases zero : n = 0
      · simp [zero]
      · simp [zero, same]

theorem RealmParams.counters_discharge_empty (rp : RealmParams) : (rp.discharge []).allocCounters = rp.allocCounters := by
  simp [discharge]

theorem RecordCounts.discharge {params : UserNameParams}
    (counts : RecordCounts params w (c :: held) (w.ptrOf c.realm) rp) (named : c.Named params) :
    RecordCounts params w held (w.ptrOf c.realm) (rp.discharge (c.username params)) := by
  have before := counts.total
  rw [outstanding_cons, if_pos rfl] at before
  refine ⟨?_, fun name => ?_⟩
  · have positive : 0 < rp.totalCurrentAllocs.toInt := by omega
    have charged : rp.totalCurrentAllocs ≠ 0 := fun zero => by simp [zero] at positive
    simp only [RealmParams.discharge, if_pos charged]
    rw [toInt_sub_one positive]
    omega
  · have value := counts.user name
    rw [userOutstanding_cons] at value
    by_cases empty : c.username params = []
    · rw [if_neg (fun counted => named.2 counted.2.1 empty)] at value
      rw [empty, RealmParams.counters_discharge_empty]
      exact value
    · have direct := Charge.direct_of_username empty
      rw [RealmParams.counter_discharge rp empty, value]
      by_cases same : name = c.username params
      · rw [if_pos same, if_pos ⟨rfl, direct, same.symm⟩, Nat.add_sub_cancel]
      · rw [if_neg same, if_neg (fun counted => same counted.2.2.symm), Nat.sub_zero, Nat.add_zero]

/-- What every run of countable steps keeps. -/
structure Balanced (params : UserNameParams) (w : QuotaWorld) : Prop where
  counts : Counts params w
  known : ∀ c ∈ w.held, w.store.params (w.store.ptrOf c.realm) ≠ none
  named : ∀ c ∈ w.held, c.Named params

theorem Balanced.outstanding_of_absent {params : UserNameParams} {w : QuotaWorld} (balanced : Balanced params w)
    (absent : w.store.params ptr = none) : outstanding w.store w.held ptr = 0 := by
  rw [outstanding, List.countP_eq_zero]
  intro c member there
  refine balanced.known c member ?_
  rw [of_decide_eq_true there]
  exact absent

/-- A record that `get_realm` finds or makes counts, and so do all others. -/
theorem Balanced.getRealm {params : UserNameParams} {w : QuotaWorld} (balanced : Balanced params w)
    {realm : Option (List UInt8)} (idle : MadeFromIdle w realm) :
    Balanced params ⟨(Server.getRealm w.store realm).2.2, w.held⟩ := by
  have found := getRealm_found w.store realm
  refine ⟨?_, ?_, balanced.named⟩
  · intro ptr rp present
    refine RecordCounts.congr ?_ found.names
    by_cases same : ptr = w.store.ptrOf realm
    · subst same
      have this := Option.some.inj (present.symm.trans found.here)
      subst this
      rcases found.source with old | ⟨absent, total, counters⟩
      · exact balanced.counts _ _ old
      · -- the copied total is right because the default realm had nothing to copy
        have nothing := balanced.outstanding_of_absent absent
        have default := (balanced.counts .default _ rfl).total
        rw [idle absent] at default
        refine ⟨?_, fun name => ?_⟩
        · rw [total, default]
          exact congrArg Nat.cast nothing.symm
        · have none := userOutstanding_le params w.store w.held (w.store.ptrOf realm) name
          rw [counters]
          exact (Nat.eq_zero_of_le_zero (none.trans nothing.le)).symm
    · rw [found.others ptr same] at present
      exact balanced.counts ptr rp present
  · intro c member
    rw [found.names]
    by_cases same : w.store.ptrOf c.realm = w.store.ptrOf realm
    · rw [same, Realms.ptrOf, found.here]
      exact Option.some_ne_none _
    · rw [found.others _ same]
      exact balanced.known c member

theorem Balanced.store {params : UserNameParams} {w : QuotaWorld} (balanced : Balanced params w)
    (present : w.store.params ptr = some old) (counts : RecordCounts params w.store held ptr rp)
    (others : ∀ other rp, other ≠ ptr → RecordCounts params w.store w.held other rp →
      RecordCounts params w.store held other rp)
    (members : ∀ c ∈ held, c ∈ w.held ∨ w.store.ptrOf c.realm = ptr ∧ c.Named params) :
    Balanced params ⟨w.store.store ptr rp, held⟩ := by
  have names := Realms.ptrOf_store present rp
  refine ⟨?_, ?_, ?_⟩
  · intro other rp' there
    refine RecordCounts.congr ?_ names
    by_cases same : other = ptr
    · subst same
      have this := Option.some.inj (there.symm.trans (w.store.params_store other rp))
      subst this
      exact counts
    · rw [w.store.params_store_of_ne rp same] at there
      exact others other rp' same (balanced.counts other rp' there)
  · intro c member
    rw [names]
    by_cases same : w.store.ptrOf c.realm = ptr
    · rw [same, Realms.params_store]
      exact Option.some_ne_none _
    · rw [w.store.params_store_of_ne rp same]
      rcases members c member with old | ⟨here, _⟩
      · exact balanced.known c old
      · contradiction
  · intro c member
    rcases members c member with old | ⟨_, named⟩
    · exact balanced.named c old
    · exact named

theorem Balanced.check {params : UserNameParams} {w : QuotaWorld} (balanced : Balanced params w)
    (countable : Countable params w (.check c)) : Balanced params (quotaStep params w (.check c)).1 := by
  obtain ⟨named, idle, room⟩ := countable
  have found := getRealm_found w.store c.realm
  have balanced' := balanced.getRealm idle
  have here : (Server.getRealm w.store c.realm).2.2.ptrOf c.realm = (Server.getRealm w.store c.realm).1 :=
    found.names c.realm
  simp only [quotaStep, checkNewAllocationQuota, if_neg (fun null => named.1 (And.left null))]
  cases charged : (Server.getRealm w.store c.realm).2.1.charge (c.username params) with
  | none => exact balanced'
  | some rp' =>
    have counts := balanced'.counts _ _ found.here
    refine balanced'.store found.here ?_ ?_ ?_
    · rw [← here] at counts ⊢
      refine counts.charge named ?_ charged
      rw [outstanding_congr found.names, found.names]
      exact room
    · intro other rp apart old
      rw [← here] at apart
      exact (RecordCounts.cons_of_ne apart).mpr old
    · intro d member
      rcases List.mem_cons.mp member with same | old
      · subst same
        exact .inr ⟨here, named⟩
      · exact .inl old

theorem Balanced.release {params : UserNameParams} {w : QuotaWorld} (balanced : Balanced params w) (held : c ∈ w.held) :
    Balanced params (quotaStep params w (.release c)).1 := by
  have named := balanced.named c held
  have found := getRealm_found w.store c.realm
  have idle : MadeFromIdle w c.realm := fun absent => absurd absent (balanced.known c held)
  have balanced' := balanced.getRealm idle
  have here : (Server.getRealm w.store c.realm).2.2.ptrOf c.realm = (Server.getRealm w.store c.realm).1 :=
    found.names c.realm
  simp only [quotaStep, releaseAllocationQuota, if_neg named.1]
  -- the list is the released charge and the rest, in some order
  have split : ∀ ptr rp, RecordCounts params (Server.getRealm w.store c.realm).2.2 w.held ptr rp →
      RecordCounts params (Server.getRealm w.store c.realm).2.2 (c :: w.held.erase c) ptr rp := by
    intro ptr rp counts
    have same := List.perm_cons_erase held
    refine ⟨?_, fun name => ?_⟩
    · rw [counts.total, outstanding, same.countP_eq]
      rfl
    · rw [counts.user name, userOutstanding, same.countP_eq]
      rfl
  have counts := split _ _ (balanced'.counts _ _ found.here)
  refine balanced'.store found.here ?_ ?_ ?_
  · rw [← here] at counts ⊢
    exact counts.discharge named
  · intro other rp apart old
    rw [← here] at apart
    exact (RecordCounts.cons_of_ne apart).mp (split other rp old)
  · intro d member
    exact .inl (List.mem_of_mem_erase member)

theorem Balanced.change {params : UserNameParams} {w : QuotaWorld} {realm : Option (List UInt8)}
    (balanced : Balanced params w) (idle : MadeFromIdle w realm)
    (total : rp.totalCurrentAllocs = (Server.getRealm w.store realm).2.1.totalCurrentAllocs)
    (counters : rp.allocCounters = (Server.getRealm w.store realm).2.1.allocCounters) :
    Balanced params ⟨(Server.getRealm w.store realm).2.2.store (Server.getRealm w.store realm).1 rp, w.held⟩ := by
  have found := getRealm_found w.store realm
  have balanced' := balanced.getRealm idle
  have counts := balanced'.counts _ _ found.here
  refine balanced'.store found.here ⟨?_, fun name => ?_⟩ (fun _ _ _ old => old) (fun _ member => .inl member)
  · rw [total]
    exact counts.total
  · rw [counters]
    exact counts.user name

theorem Balanced.step {params : UserNameParams} {names : List (List UInt8)} {w : QuotaWorld} {e : QuotaEvent}
    (balanced : Balanced params w) (enabled : (quotaMachine params names).enabled w e)
    (countable : Countable params w e) : Balanced params (quotaStep params w e).1 := by
  cases e with
  | check c => exact balanced.check countable
  | release c => exact balanced.release enabled
  | mention realm => exact balanced.getRealm countable
  | changeTotalQuota realm value => exact balanced.change countable rfl rfl
  | changeUserQuota realm value => exact balanced.change countable rfl rfl

/-- Only the default realm has a record, and it counts nothing. -/
structure Unused (w : Realms) : Prop where
  total : w.default.totalCurrentAllocs = 0
  counters : w.default.allocCounters = fun _ => none
  entries : ∀ name rp, w.realms name ≠ some (.own rp)

theorem Unused.setDefaultRealmName (unused : Unused w) (realm : List UInt8) :
    Unused (Server.setDefaultRealmName w realm) := by
  refine ⟨unused.total, unused.counters, fun name rp own => ?_⟩
  by_cases same : name = realm.take stunMaxRealmSize
  · subst same
    simp [Server.setDefaultRealmName] at own
  · simp only [Server.setDefaultRealmName, Function.update_of_ne same] at own
    exact unused.entries name rp own

theorem unused_start (names : List (List UInt8)) : Unused (names.foldl setDefaultRealmName createDefaultRealm) := by
  have initial : Unused createDefaultRealm := ⟨rfl, rfl, fun _ _ => by simp [createDefaultRealm]⟩
  generalize createDefaultRealm = w at initial
  induction names generalizing w with
  | nil => exact initial
  | cons first rest ih => exact ih _ (initial.setDefaultRealmName first)

theorem Unused.balanced (unused : Unused w) (params : UserNameParams) : Balanced params ⟨w, []⟩ := by
  refine ⟨?_, by simp, by simp⟩
  intro ptr rp present
  cases ptr with
  | default =>
    cases Option.some.inj present
    refine ⟨?_, fun name => ?_⟩
    · rw [unused.total]
      rfl
    · rw [unused.counters]
      rfl
  | own name =>
    simp only [Realms.params] at present
    split at present
    · exact absurd (by assumption) (unused.entries name _)
    · cases present

theorem RecordCounts.refusal {params : UserNameParams} {username : List UInt8}
    (counts : RecordCounts params w held ptr rp) (refused : rp.charge username = none) :
    rp.totalQuota ≠ 0 ∧ rp.totalQuota.toInt ≤ outstanding w held ptr ∨
      rp.userQuota ≠ 0 ∧ rp.userQuota.toInt ≤ userOutstanding params w held ptr username := by
  rw [RealmParams.charge] at refused
  split at refused
  · rename_i full
    refine .inl ⟨full.1, ?_⟩
    rw [← counts.total]
    exact Int32.le_iff_toInt_le.mp full.2
  · split at refused
    · split at refused
      · cases refused
      · rename_i value present
        split at refused
        · rename_i full
          have count := counts.user username
          rw [present, Option.getD_some] at count
          have size := le_sizeOfVint rp.userQuota
          exact .inr ⟨full.1, by omega⟩
        · cases refused
    · cases refused

theorem Balanced.refusal {params : UserNameParams} {w : QuotaWorld} (balanced : Balanced params w)
    (idle : MadeFromIdle w c.realm) : RefusalFounded params w c := by
  have found := getRealm_found w.store c.realm
  have counts := (balanced.getRealm idle).counts _ _ found.here
  intro refused
  rw [checkNewAllocationQuota] at refused
  split at refused
  · cases refused
  · dsimp only at refused
    split at refused
    · rename_i none
      have quota := counts.refusal none
      rw [outstanding_congr found.names, userOutstanding_congr found.names] at quota
      exact quota
    · cases refused

theorem realm_counters_count (params : UserNameParams) (names : List (List UInt8)) {w : QuotaWorld}
    (reach : (quotaMachine params names).Reach (Countable params) w) :
    Counts params w ∧ ∀ c, Countable params w (.check c) → RefusalFounded params w c := by
  have balanced : Balanced params w := by
    refine reach.invariant ?_ ?_
    · rintro s rfl
      exact (unused_start names).balanced params
    · intro s s' e o balanced enabled countable run
      have next := congrArg Prod.fst (Option.some.inj run)
      dsimp only at next
      rw [← next]
      exact balanced.step enabled countable
  exact ⟨balanced.counts, fun c countable => balanced.refusal countable.2.1⟩

instance (params : UserNameParams) (names : List (List UInt8)) (w : QuotaWorld) (e : QuotaEvent) :
    Decidable ((quotaMachine params names).enabled w e) := by
  cases e <;> dsimp only [quotaMachine] <;> infer_instance

instance (w : QuotaWorld) (realm : Option (List UInt8)) : Decidable (MadeFromIdle w realm) := by
  unfold MadeFromIdle
  infer_instance

instance (params : UserNameParams) (c : Charge) : Decidable (c.Named params) := by
  unfold Charge.Named
  infer_instance

instance (params : UserNameParams) (w : QuotaWorld) (e : QuotaEvent) : Decidable (Countable params w e) := by
  cases e <;> dsimp only [Countable] <;> infer_instance

/-- Names are read as they are. -/
def plainNames : UserNameParams := ⟨false, 58⟩

def unnamedStart : QuotaWorld := ⟨createDefaultRealm, []⟩

/-- A realm is named first, and then users of both realms come. -/
theorem realm_counters_count_named_before :
    ∃ w, (quotaMachine plainNames []).Reach (Countable plainNames) w ∧ w.held.length = 2 ∧ Counts plainNames w ∧
      Countable plainNames w (.check ⟨some [118], false, some [114]⟩) ∧
      RefusalFounded plainNames w ⟨some [118], false, some [114]⟩ := by
  obtain ⟨w, reach, passed⟩ : ∃ w, (quotaMachine plainNames []).Reach (Countable plainNames) w ∧
      decide (w.held.length = 2 ∧ Countable plainNames w (.check ⟨some [118], false, some [114]⟩)) = true :=
    Machine.Reach.exists_of_replay unnamedStart
      [.mention (some [114]), .check ⟨some [117], false, none⟩, .check ⟨some [118], false, some [114]⟩] rfl (by decide)
  rw [decide_eq_true_iff] at passed
  obtain ⟨counts, founded⟩ := realm_counters_count plainNames [] reach
  exact ⟨w, reach, passed.1, counts, passed.2, founded _ passed.2⟩

/-- A user of the default realm, and then one of a realm that is named for the first time: the new
realm starts with the count of the other. -/
theorem new_realm_inherits_count : ¬ ∀ params names w,
    (quotaMachine params names).Reach (fun _ e => e.isQuotaCall = true) w →
      Counts params w ∧ ∀ c, RefusalFounded params w c := by
  intro counted
  obtain ⟨w, reach, passed⟩ : ∃ w, (quotaMachine plainNames []).Reach (fun _ e => e.isQuotaCall = true) w ∧
      decide ((w.store.params (.own [114])).map RealmParams.totalCurrentAllocs = some 2 ∧
        outstanding w.store w.held (.own [114]) = 1) = true :=
    Machine.Reach.exists_of_replay unnamedStart
      [.check ⟨some [117], false, none⟩, .check ⟨some [118], false, some [114]⟩] rfl (by decide)
  rw [decide_eq_true_iff, Option.map_eq_some_iff] at passed
  obtain ⟨⟨rp, present, two⟩, one⟩ := passed
  have total := ((counted plainNames [] w reach).1 _ rp present).total
  rw [two, one] at total
  exact absurd total (by decide)

end Server
end TurnCluster
