import TurnCluster.Lib.FiniteMap
import TurnCluster.Lib.Service
import Mathlib.Logic.Function.Basic

namespace TurnCluster

/-- The bytes of a C string before its end. -/
structure CString where
  bytes : List UInt8
  ends : 0 ∉ bytes
  deriving DecidableEq

/-- `string_elem`s, the newest first. A value is a pointer, 0 for none. -/
abbrev StringList := List (CString × Nat)

/-- The value of the element that `string_list_get` finds. -/
def stringListGet (key : CString) : StringList → Option Nat
  | [] => none
  | elem :: tail => if elem.1 = key then some elem.2 else stringListGet key tail

/-- The element that `string_list_get` finds gets another value. -/
def stringListSet (key : CString) (value : Nat) : StringList → StringList
  | [] => []
  | elem :: tail => if elem.1 = key then (elem.1, value) :: tail else elem :: stringListSet key value tail

def stringListAdd (list : StringList) (key : CString) (value : Nat) : StringList := (key, value) :: list

/-- `string_list_remove`: what is left, and the values of the elements that it frees. -/
def stringListRemove (key : CString) : StringList → StringList × List Nat
  | [] => ([], [])
  | elem :: tail =>
    if elem.1 = key then ((stringListRemove key tail).1, elem.2 :: (stringListRemove key tail).2)
    else (elem :: (stringListRemove key tail).1, (stringListRemove key tail).2)

/-- The values that `string_list_free` hands to the delete function. -/
def stringListFree (list : StringList) : List Nat := (list.map Prod.snd).filter (· ≠ 0)

def stringMapSize : Nat := 1024

/-- `string_hash`. -/
def stringHash (key : CString) : UInt32 :=
  key.bytes.foldl (fun hash c => c.toUInt32 + (hash <<< 6) + (hash <<< 16) - hash) 0

def stringMapIndex (key : CString) : Nat := (stringHash key).toNat % stringMapSize

/-- `ur_string_map`. -/
structure UrStringMap where
  lists : Nat → StringList
  /-- There is a `del_value_func`. -/
  delValueFunc : Bool

namespace UrStringMap

/-- `ur_string_map_create`. -/
def create (delValueFunc : Bool) : UrStringMap := ⟨fun _ => [], delValueFunc⟩

def setList (map : UrStringMap) (key : CString) (list : StringList) : UrStringMap :=
  { map with lists := Function.update map.lists (stringMapIndex key) list }

/-- The calls of the delete function, if there is one. -/
def handed (map : UrStringMap) (values : List Nat) : List Nat := if map.delValueFunc = true then values else []

def get (map : UrStringMap) (key : CString) : Option Nat := stringListGet key (map.lists (stringMapIndex key))

/-- `ur_string_map_put`, with the values it hands to the delete function. -/
def put (map : UrStringMap) (key : CString) (value : Nat) : UrStringMap × List Nat :=
  let list := map.lists (stringMapIndex key)
  match stringListGet key list with
  | some old =>
    if old ≠ value then (map.setList key (stringListSet key value list), map.handed [old]) else (map, [])
  | none => (map.setList key (stringListAdd list key value), [])

/-- `ur_string_map_del`: what it returns, and the values it hands to the delete function. -/
def del (map : UrStringMap) (key : CString) : UrStringMap × Int × List Nat :=
  let removed := stringListRemove key (map.lists (stringMapIndex key))
  (map.setList key removed.1, if 0 < removed.2.length then 1 else 0, map.handed removed.2)

/-- `ur_string_map_clean`, with the values it hands to the delete function, row by row. -/
def clean (map : UrStringMap) : UrStringMap × List Nat :=
  ({ map with lists := fun _ => [] },
    map.handed ((List.range stringMapSize).flatMap (fun row => stringListFree (map.lists row))))

/-- `ur_string_map_size`. -/
def size (map : UrStringMap) : Nat := ((List.range stringMapSize).map (fun row => (map.lists row).length)).sum

end UrStringMap

/-- A call of a `ur_string_map`. -/
inductive StringCall
  | put (key : CString) (value : Nat)
  | get (key : CString)
  | del (key : CString)
  | clean
  deriving DecidableEq

/-- The values that a call gives to the map. -/
def StringCall.given : StringCall → List Nat
  | .put _ value => [value]
  | _ => []

namespace UrStringMap

def call : Service UrStringMap StringCall (MapAnswer Nat)
  | map, .put key value => ((map.put key value).1, ⟨0, none, (map.put key value).2, (map.put key value).1.size⟩)
  | map, .get key => (map, ⟨foundCode (map.get key), map.get key, 0, map.size⟩)
  | map, .del key => ((map.del key).1, ⟨(map.del key).2.1, none, (map.del key).2.2, (map.del key).1.size⟩)
  | map, .clean => (map.clean.1, ⟨0, none, map.clean.2, map.clean.1.size⟩)

/-- The finite map that a `ur_string_map` is meant to be: it disposes of a value when it is replaced, removed or
cleaned. -/
def finiteCall : Service (FiniteMap CString Nat) StringCall (MapAnswer Nat)
  | m, .put key value =>
    (m.insert key value, ⟨0, none, (m.lookup key).toList, (m.insert key value).keys.card⟩)
  | m, .get key => (m, ⟨foundCode (m.lookup key), m.lookup key, 0, m.keys.card⟩)
  | m, .del key =>
    (m.erase key, ⟨foundCode (m.lookup key), none, (m.lookup key).toList, (m.erase key).keys.card⟩)
  | m, .clean => (∅, ⟨0, none, m.values, 0⟩)

end UrStringMap

section Lists

variable {key : CString} {list : StringList} {value old : Nat}

theorem stringListGet_none (missing : stringListGet key list = none) : (key, value) ∉ list := by
  induction list with
  | nil => simp
  | cons elem tail ih =>
    unfold stringListGet at missing
    split at missing
    · cases missing
    · rename_i other
      intro member
      rcases List.mem_cons.mp member with rfl | later
      · exact other rfl
      · exact ih missing later

theorem stringListGet_some (found : stringListGet key list = some old) :
    ∃ rest : StringList, list.Perm ((key, old) :: rest) ∧
      ∀ value, (stringListSet key value list).Perm ((key, value) :: rest) := by
  induction list with
  | nil => cases found
  | cons elem tail ih =>
    unfold stringListGet at found
    split at found
    · rename_i here
      cases found
      subst here
      exact ⟨tail, .refl _, fun value => by simp [stringListSet]⟩
    · rename_i other
      obtain ⟨rest, before, after⟩ := ih found
      refine ⟨elem :: rest, (before.cons _).trans (.swap _ _ _), ?_⟩
      intro value
      simp only [stringListSet, if_neg other]
      exact ((after value).cons _).trans (.swap _ _ _)

theorem stringListRemove_perm (key : CString) (list : StringList) :
    list.Perm ((stringListRemove key list).2.map (fun value => (key, value)) ++ (stringListRemove key list).1) ∧
      ∀ value, (key, value) ∉ (stringListRemove key list).1 := by
  induction list with
  | nil => exact ⟨.refl _, by simp [stringListRemove]⟩
  | cons elem tail ih =>
    obtain ⟨split, gone⟩ := ih
    by_cases here : elem.1 = key
    · subst here
      simp only [stringListRemove, if_true, List.map_cons, List.cons_append]
      exact ⟨split.cons _, gone⟩
    · simp only [stringListRemove, if_neg here]
      refine ⟨(split.cons _).trans List.perm_middle.symm, ?_⟩
      intro value member
      rcases List.mem_cons.mp member with rfl | later
      · exact here rfl
      · exact gone value later

end Lists

namespace UrStringMap

/-- The elements of all rows. -/
def contents (map : UrStringMap) : Multiset (CString × Nat) := rowSum stringMapSize (fun row => map.lists row)

/-- A map with a delete function: each element stands in the row of its key and has a value, and all of them are the
entries of the finite map. -/
structure Represents (map : UrStringMap) (m : FiniteMap CString Nat) : Prop where
  disposes : map.delValueFunc = true
  placed : ∀ {row key value}, (key, value) ∈ map.lists row → stringMapIndex key = row ∧ value ≠ 0
  holds : FiniteMap.Holds map.contents m

theorem inside (key : CString) : stringMapIndex key < stringMapSize := Nat.mod_lt _ (by decide)

theorem contents_setList (map : UrStringMap) (key : CString) (list : StringList)
    {lost gained : Multiset (CString × Nat)}
    (here : (list : Multiset (CString × Nat)) + lost = map.lists (stringMapIndex key) + gained) :
    (map.setList key list).contents + lost = map.contents + gained := by
  refine rowSum_change (inside key) ?_ ?_
  · intro row other
    simp only [setList, Function.update_of_ne other]
  · simp only [setList, Function.update_self]
    exact here

theorem mem_setList {map : UrStringMap} {key : CString} {list : StringList} {row : Nat} {elem : CString × Nat}
    (member : elem ∈ (map.setList key list).lists row) :
    row = stringMapIndex key ∧ elem ∈ list ∨ elem ∈ map.lists row := by
  simp only [setList] at member
  by_cases here : row = stringMapIndex key
  · subst here
    rw [Function.update_self] at member
    exact Or.inl ⟨rfl, member⟩
  · rw [Function.update_of_ne here] at member
    exact Or.inr member

namespace Represents

variable {map : UrStringMap} {m : FiniteMap CString Nat} {key : CString} {value : Nat}

theorem create : Represents (UrStringMap.create true) ∅ where
  disposes := rfl
  placed member := by cases member
  holds := by
    have nothing : (UrStringMap.create true).contents = 0 := by simp [contents, rowSum, UrStringMap.create]
    rw [nothing]
    exact .empty

theorem handed (represents : Represents map m) (values : List Nat) : map.handed values = values :=
  if_pos represents.disposes

theorem size (represents : Represents map m) : map.size = m.keys.card := by
  rw [← represents.holds.card, contents, card_rowSum]
  rfl

theorem mem_contents (represents : Represents map m) :
    (key, value) ∈ map.contents ↔ (key, value) ∈ map.lists (stringMapIndex key) :=
  mem_rowSum_of_home (inside key) fun _ member => (represents.placed member).1.symm

theorem lookup (represents : Represents map m) (key : CString) : m.lookup key = map.get key := by
  unfold UrStringMap.get
  cases found : stringListGet key (map.lists (stringMapIndex key)) with
  | none =>
    rw [← represents.holds.absent_iff]
    intro value
    rw [represents.mem_contents]
    exact stringListGet_none found
  | some old =>
    obtain ⟨rest, before, _⟩ := stringListGet_some found
    rw [← represents.holds.mem_iff, represents.mem_contents]
    exact before.mem_iff.mpr List.mem_cons_self

theorem add (represents : Represents map m) (nonzero : value ≠ 0) (absent : map.get key = none) :
    Represents (map.setList key (stringListAdd (map.lists (stringMapIndex key)) key value)) (m.insert key value) where
  disposes := represents.disposes
  placed {row key' value'} member := by
    rcases mem_setList member with ⟨rfl, here⟩ | old
    · rcases List.mem_cons.mp here with new | old
      · cases new
        exact ⟨rfl, nonzero⟩
      · exact represents.placed old
    · exact represents.placed old
  holds := by
    have change := contents_setList map key (stringListAdd (map.lists (stringMapIndex key)) key value)
      (show _ + (0 : Multiset (CString × Nat)) = _ + {(key, value)} by
        rw [add_zero, add_comm, Multiset.singleton_add, Multiset.cons_coe]
        rfl)
    rw [add_zero, add_comm, Multiset.singleton_add] at change
    rw [change]
    exact represents.holds.insert ((represents.lookup key).trans absent) value

theorem replace (represents : Represents map m) (nonzero : value ≠ 0) {old : Nat} (found : map.get key = some old) :
    Represents (map.setList key (stringListSet key value (map.lists (stringMapIndex key)))) (m.insert key value) := by
  obtain ⟨rest, before, after⟩ := stringListGet_some found
  refine ⟨represents.disposes, ?_, ?_⟩
  · intro row key' value' member
    rcases mem_setList member with ⟨rfl, here⟩ | older
    · rcases List.mem_cons.mp ((after value).mem_iff.mp here) with new | older
      · cases new
        exact ⟨rfl, nonzero⟩
      · exact represents.placed (before.mem_iff.mpr (List.mem_cons_of_mem _ older))
    · exact represents.placed older
  · have there : (key, old) ∈ map.contents := by
      rw [represents.mem_contents]
      exact before.mem_iff.mpr List.mem_cons_self
    refine represents.holds.replace there (contents_setList map key _ ?_)
    rw [Multiset.coe_eq_coe.mpr (after value), Multiset.coe_eq_coe.mpr before, ← Multiset.cons_coe,
      ← Multiset.cons_coe, ← Multiset.singleton_add, ← Multiset.singleton_add, add_right_comm,
      add_comm {(key, value)} {(key, old)}, add_right_comm]

theorem remove (represents : Represents map m) (key : CString) :
    Represents (map.del key).1 (m.erase key) ∧
      (stringListRemove key (map.lists (stringMapIndex key))).2 = (m.lookup key).toList := by
  obtain ⟨split, gone⟩ := stringListRemove_perm key (map.lists (stringMapIndex key))
  have left : ∀ {row key' value'}, (key', value') ∈ (map.del key).1.lists row →
      stringMapIndex key' = row ∧ value' ≠ 0 := by
    intro row key' value' member
    rcases mem_setList member with ⟨rfl, here⟩ | old
    · exact represents.placed (split.mem_iff.mpr (List.mem_append_right _ here))
    · exact represents.placed old
  have change := contents_setList map key (stringListRemove key (map.lists (stringMapIndex key))).1
    (show _ + ((stringListRemove key (map.lists (stringMapIndex key))).2.map (fun value => (key, value)) :
        Multiset (CString × Nat)) = _ + 0 by
      rw [add_zero, add_comm, Multiset.coe_add, Multiset.coe_eq_coe]
      exact split.symm)
  rw [add_zero, add_comm] at change
  have absent : ∀ value, (key, value) ∉ (map.del key).1.contents := by
    intro value member
    obtain ⟨row, _, there⟩ := mem_rowSum.mp member
    have row_eq : (map.del key).1.lists (stringMapIndex key) =
        (stringListRemove key (map.lists (stringMapIndex key))).1 := Function.update_self ..
    rw [← (left there).1, row_eq] at there
    exact gone value there
  have holds := represents.holds
  rw [← change] at holds
  obtain ⟨erased, values⟩ := holds.remove absent
  exact ⟨⟨represents.disposes, left, erased⟩, values⟩

/-- Cleaning hands out every value, since none of them is a null pointer. -/
theorem cleaned (represents : Represents map m) : (map.clean.2 : Multiset Nat) = m.values := by
  have all (row : Nat) : stringListFree (map.lists row) = (map.lists row).map Prod.snd := by
    refine List.filter_eq_self.mpr ?_
    intro value member
    obtain ⟨⟨key, _⟩, there, rfl⟩ := List.mem_map.mp member
    exact decide_eq_true (represents.placed there).2
  simp only [UrStringMap.clean, represents.handed, all]
  rw [represents.holds.values, contents, coe_flatMap_range, map_rowSum]
  rfl

theorem clean (represents : Represents map m) : Represents map.clean.1 ∅ where
  disposes := represents.disposes
  placed member := by cases member
  holds := create.holds

end Represents

section Put

variable {map : UrStringMap} {key : CString} {value : Nat}

theorem put_of_none (absent : map.get key = none) :
    map.put key value = (map.setList key (stringListAdd (map.lists (stringMapIndex key)) key value), []) := by
  unfold get at absent
  simp only [put, absent]

theorem put_of_some {old : Nat} (found : map.get key = some old) (differs : old ≠ value) :
    map.put key value =
      (map.setList key (stringListSet key value (map.lists (stringMapIndex key))), map.handed [old]) := by
  unfold get at found
  simp only [put, found, if_pos differs]

end Put

/-- A stored value is not the one that the key has already. -/
def Fresh (map : UrStringMap) : StringCall → Prop
  | .put key value => map.get key ≠ some value
  | _ => True

theorem call_simulates :
    Service.Simulates call finiteCall (fun c => 0 ∉ c.given) Fresh Represents where
  call {map m c} represents nonzero fresh := by
    cases c with
    | put key value =>
      have used : value ≠ 0 := fun zero => nonzero (by simp [StringCall.given, zero])
      have looked := represents.lookup key
      cases found : map.get key with
      | none =>
        have more := represents.add used found
        simp only [call, finiteCall, put_of_none found, looked, found, more.size]
        exact ⟨more, rfl⟩
      | some old =>
        have changed := represents.replace used found
        have differs : old ≠ value := fun same => fresh (by rw [found, same])
        simp only [call, finiteCall, put_of_some found differs, represents.handed, looked, found, changed.size]
        exact ⟨changed, rfl⟩
    | get key =>
      simp only [call, finiteCall, represents.lookup, represents.size]
      exact ⟨represents, trivial⟩
    | del key =>
      obtain ⟨left, values⟩ := represents.remove key
      have answered : (map.del key).2 = (foundCode (m.lookup key), (m.lookup key).toList) := by
        simp only [del, represents.handed, values]
        cases m.lookup key <;> rfl
      simp only [call, finiteCall, answered, left.size]
      exact ⟨left, trivial⟩
    | clean =>
      simp only [call, finiteCall, represents.cleaned, represents.clean.size]
      exact ⟨represents.clean, rfl⟩

theorem finiteCall_values (m : FiniteMap CString Nat) (c : StringCall) :
    (finiteCall m c).2.disposed + FiniteMap.values (finiteCall m c).1 = m.values + c.given := by
  cases c with
  | put key value =>
    simp only [finiteCall, StringCall.given, FiniteMap.values_insert]
    rw [Multiset.add_cons, FiniteMap.values_erase, Multiset.coe_singleton, add_comm, Multiset.singleton_add]
  | get key => simp [finiteCall, StringCall.given]
  | del key =>
    simp only [finiteCall, StringCall.given, FiniteMap.values_erase]
    rw [Multiset.coe_nil, add_zero]
  | clean => rfl

theorem sum_given (calls : List StringCall) :
    (calls.map (fun c => (c.given : Multiset Nat))).sum = (calls.flatMap StringCall.given : Multiset Nat) := by
  induction calls with
  | nil => rfl
  | cons c rest ih => rw [List.map_cons, List.sum_cons, ih, List.flatMap_cons, Multiset.coe_add]

/-- Values that are all different, and different from those in the map, are fresh whenever they are stored. -/
theorem along_fresh {map : UrStringMap} {m : FiniteMap CString Nat} {calls : List StringCall}
    (represents : Represents map m) (nonzero : ∀ c ∈ calls, 0 ∉ c.given)
    (once : (m.values + (calls.flatMap StringCall.given : Multiset Nat)).Nodup) :
    Service.Along call Fresh map calls := by
  induction calls generalizing map m with
  | nil => trivial
  | cons c rest ih =>
    rw [List.flatMap_cons, ← Multiset.coe_add, ← add_assoc] at once
    have here : Fresh map c := by
      cases c with
      | put key value =>
        intro found
        have there : value ∈ m.values := FiniteMap.mem_values.mpr ⟨key, (represents.lookup key).trans found⟩
        have apart := (Multiset.nodup_add.mp (Multiset.nodup_of_le (Multiset.le_add_right _ _) once)).2.2
        exact Multiset.disjoint_left.mp apart there (by simp [StringCall.given])
      | get key => trivial
      | del key => trivial
      | clean => trivial
    have next := (call_simulates.call represents (nonzero c List.mem_cons_self) here).1
    refine ⟨here, ih next (fun c member => nonzero c (List.mem_cons_of_mem _ member)) ?_⟩
    rw [← finiteCall_values, add_assoc] at once
    exact Multiset.nodup_of_le (Multiset.le_add_left _ _) once

/-- Some key has the value. -/
def Stored (map : UrStringMap) (value : Nat) : Prop := ∃ key, map.get key = some value

/-- The answers of a `ur_string_map` to any history of calls, in which no value is stored twice, are those of a finite
map that disposes of values as they are replaced, removed or cleaned. Over the whole history the delete function was
called at most once for each value, and for exactly those that were stored and are no longer there. -/
theorem string_map_refines (calls : List StringCall) (nonzero : ∀ c ∈ calls, 0 ∉ c.given)
    (once : (calls.flatMap StringCall.given).Nodup) :
    let disposed := ((Service.trace call (create true) calls).map MapAnswer.disposed).sum
    Service.trace call (create true) calls = Service.trace finiteCall ∅ calls ∧ disposed.Nodup ∧
      ∀ value, value ∈ disposed ↔
        value ∈ calls.flatMap StringCall.given ∧ ¬ Stored (Service.after call (create true) calls) value := by
  have along : Service.Along call Fresh (create true) calls := by
    refine along_fresh .create nonzero ?_
    exact (zero_add (calls.flatMap StringCall.given : Multiset Nat)).symm ▸ Multiset.coe_nodup.mpr once
  obtain ⟨represents, answers⟩ := call_simulates.run .create nonzero along
  have balance : ((Service.trace finiteCall ∅ calls).map MapAnswer.disposed).sum +
      FiniteMap.values (Service.after finiteCall ∅ calls) = (calls.flatMap StringCall.given : Multiset Nat) := by
    rw [Service.sum_trace finiteCall_values, sum_given]
    exact zero_add _
  rw [← answers] at balance
  have all : Multiset.Nodup (calls.flatMap StringCall.given : Multiset Nat) := Multiset.coe_nodup.mpr once
  rw [← balance] at all
  obtain ⟨single, _, apart⟩ := Multiset.nodup_add.mp all
  have stored (value : Nat) : Stored (Service.after call (create true) calls) value ↔
      value ∈ FiniteMap.values (Service.after finiteCall ∅ calls) := by
    simp only [Stored, FiniteMap.mem_values, represents.lookup]
  refine ⟨answers, single, ?_⟩
  intro value
  rw [stored, ← Multiset.mem_coe, ← balance, Multiset.mem_add]
  constructor
  · intro gone
    exact ⟨Or.inl gone, Multiset.disjoint_left.mp apart gone⟩
  · rintro ⟨gone | here, absent⟩
    · exact gone
    · exact absurd here absent

/-- A value is replaced, another one removed and a third one cleaned. -/
theorem string_map_refines_disposals :
    let a : CString := ⟨[97], by decide⟩
    let b : CString := ⟨[98], by decide⟩
    let calls : List StringCall := [.put a 1, .put a 2, .put b 3, .del a, .get b, .clean]
    (∀ c ∈ calls, 0 ∉ c.given) ∧ (calls.flatMap StringCall.given).Nodup ∧
      Service.trace call (create true) calls = Service.trace finiteCall ∅ calls :=
  ⟨by decide, by decide, (string_map_refines _ (by decide) (by decide)).1⟩

end UrStringMap
end TurnCluster
