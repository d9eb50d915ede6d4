import TurnCluster.Server.LocalMap
import TurnCluster.Stun.Attr

namespace TurnCluster
namespace Server

def turnPermissionHashtableSize : Nat := 8
def turnPermissionArraySize : Nat := 3
def chMapHashSize : Nat := 8
def chMapArraySize : Nat := 3

/-- A pointer to a slot of one of the two tables of an allocation: the row and
the place in it, the slots of the array first and the extra ones behind them. -/
structure SlotRef where
  row : Nat
  slot : Nat
  deriving DecidableEq, Repr

structure ChInfo where
  chnum : UInt16
  allocated : Bool
  port : UInt16
  peerAddr : IoaAddr
  expirationTime : Nat
  /-- Time at which the running timer fires, if one is set. -/
  lifetimeEv : Option Nat
  owner : Option SlotRef
  deriving DecidableEq, Repr

def ChInfo.zero : ChInfo := ⟨0, false, 0, .any, 0, none, none⟩

structure TurnPermissionInfo where
  allocated : Bool
  chns : LmMap SlotRef
  addr : IoaAddr
  expirationTime : Nat
  lifetimeEv : Option Nat

def TurnPermissionInfo.zero : TurnPermissionInfo := ⟨false, .empty _, .any, 0, none⟩

/-- A table with rows of slots: `turn_permission_hashtable` and `ch_map`. -/
abbrev SlotTable (α : Type) := Nat → List α

namespace SlotTable

variable {α : Type}

def get (table : SlotTable α) (ref : SlotRef) : Option α := (table ref.row)[ref.slot]?

def set (table : SlotTable α) (ref : SlotRef) (value : α) : SlotTable α :=
  Function.update table ref.row ((table ref.row).set ref.slot value)

/-- The first slot of a row that passes a test. -/
def find (table : SlotTable α) (row : Nat) (test : α → Bool) : Option SlotRef :=
  ((table row).findIdx? test).map (fun slot => ⟨row, slot⟩)

/-- The first free slot of a row; a new one is appended when all are in use. -/
def findFree (table : SlotTable α) (row : Nat) (free : α → Bool) (fresh : α) : SlotTable α × SlotRef :=
  match (table row).findIdx? free with
  | some slot => (table, ⟨row, slot⟩)
  | none => (Function.update table row (table row ++ [fresh]), ⟨row, (table row).length⟩)

variable {table : SlotTable α} {test : α → Bool} {ref : SlotRef}

theorem find_some {row : Nat} (found : table.find row test = some ref) :
    ref.row = row ∧ ∃ value ∈ table row, table.get ref = some value ∧ test value = true := by
  unfold find at found
  obtain ⟨slot, atSlot, rfl⟩ := Option.map_eq_some_iff.mp found
  obtain ⟨bound, passes, _⟩ := List.findIdx?_eq_some_iff_getElem.mp atSlot
  refine ⟨rfl, (table row)[slot], List.getElem_mem bound, ?_, passes⟩
  exact List.getElem?_eq_getElem bound

theorem find_none {row : Nat} (missed : table.find row test = none) {value : α} (inRow : ref.row = row)
    (known : table.get ref = some value) : test value = false := by
  unfold find at missed
  subst inRow
  exact List.findIdx?_eq_none_iff.mp (Option.map_eq_none_iff.mp missed) value (List.mem_of_getElem? known)

theorem get_set {table : SlotTable α} {ref : SlotRef} {old : α} (known : table.get ref = some old) (value : α) :
    (table.set ref value).get = Function.update table.get ref (some value) := by
  obtain ⟨bound, _⟩ := List.getElem?_eq_some_iff.mp known
  funext ref'
  by_cases here : ref' = ref
  · subst here
    simp [get, set, bound]
  · rw [Function.update_of_ne here]
    unfold get set
    by_cases row : ref'.row = ref.row
    · have slot : ref.slot ≠ ref'.slot := by
        intro same
        apply here
        cases ref
        cases ref'
        simp_all
      rw [row, Function.update_self, List.getElem?_set_ne slot]
    · rw [Function.update_of_ne row]

theorem set_missing (missing : table.get ref = none) (value : α) : table.set ref value = table := by
  unfold set
  rw [List.set_eq_of_length_le (List.getElem?_eq_none_iff.mp missing), Function.update_eq_self]

theorem get_append (table : SlotTable α) (row : Nat) (fresh : α) :
    get (Function.update table row (table row ++ [fresh])) =
      Function.update table.get ⟨row, (table row).length⟩ (some fresh) := by
  funext ref
  by_cases here : ref = ⟨row, (table row).length⟩
  · rw [here, Function.update_self]
    simp [get]
  · rw [Function.update_of_ne here]
    unfold get
    by_cases same : ref.row = row
    · subst same
      rw [Function.update_self]
      have slot : ref.slot ≠ (table ref.row).length := fun equal => here (by cases ref; simp_all)
      by_cases inside : ref.slot < (table ref.row).length
      · rw [List.getElem?_append_left inside]
      · rw [List.getElem?_eq_none (by simp; omega), List.getElem?_eq_none (by omega)]
    · rw [Function.update_of_ne same]

theorem findFree_spec (table : SlotTable α) (row : Nat) (free : α → Bool) (fresh : α) :
    (table.findFree row free fresh).2.row = row ∧
      (∀ {old}, table.get (table.findFree row free fresh).2 = some old → free old = true) ∧
      ∀ value, ((table.findFree row free fresh).1.set (table.findFree row free fresh).2 value).get =
        Function.update table.get (table.findFree row free fresh).2 (some value) := by
  unfold findFree
  split
  · rename_i slot found
    obtain ⟨bound, passes, _⟩ := List.findIdx?_eq_some_iff_getElem.mp found
    have known : table.get ⟨row, slot⟩ = some (table row)[slot] := List.getElem?_eq_getElem bound
    refine ⟨rfl, ?_, get_set known⟩
    intro old same
    cases known.symm.trans same
    exact passes
  · have appended := get_append table row fresh
    refine ⟨rfl, ?_, fun value => ?_⟩
    · intro old known
      simp [get] at known
    · rw [@get_set _ _ _ fresh (by rw [appended, Function.update_self]), appended, Function.update_idem]

end SlotTable

structure Allocation where
  isValid : Bool
  tid : List UInt8
  addrToPerm : SlotTable TurnPermissionInfo
  chns : SlotTable ChInfo

def initAllocation : Allocation where
  isValid := false
  tid := List.replicate stunTidSize 0
  addrToPerm := fun _ => List.replicate turnPermissionArraySize .zero
  chns := fun _ => List.replicate chMapArraySize .zero

def permissionRow (addr : IoaAddr) : Nat := (addrHashNoPort addr).toNat % turnPermissionHashtableSize

def getFromTurnPermissionHashtable (a : Allocation) (addr : IoaAddr) : Option SlotRef :=
  a.addrToPerm.find (permissionRow addr) (fun info => info.allocated && addrEqNoPort info.addr addr)

def allocationGetPermission (a : Allocation) (addr : IoaAddr) : Option SlotRef :=
  getFromTurnPermissionHashtable a addr

/-- The channel that a permission has for a port, if its number is a valid one. -/
def getTurnChannel (a : Allocation) (tinfo : SlotRef) (addr : IoaAddr) : Option SlotRef :=
  match a.addrToPerm.get tinfo with
  | none => none
  | some info =>
    match info.chns.get (addrGetPort addr).toNat with
    | none => none
    | some chn =>
      match a.chns.get chn with
      | none => none
      | some ch => if stunValidChannel ch.chnum then some chn else none

def getTurnChannelNumber (a : Allocation) (tinfo : SlotRef) (addr : IoaAddr) : UInt16 :=
  match getTurnChannel a tinfo addr with
  | none => 0
  | some chn =>
    match a.chns.get chn with
    | none => 0
    | some ch => ch.chnum

end Server
end TurnCluster
