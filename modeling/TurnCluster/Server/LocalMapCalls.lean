import TurnCluster.Lib.FiniteMap
import TurnCluster.Lib.Service
import TurnCluster.Server.LocalMap

namespace TurnCluster

/-- A call of an `lm_map`; the values are those that are not zero. -/
inductive LmCall (V : Type)
  | put (key : Nat) (value : V)
  | get (key : Nat)
  | del (key : Nat)
  deriving DecidableEq

def LmCall.key {V : Type} : LmCall V → Nat
  | .put key _ => key
  | .get key => key
  | .del key => key

namespace LmMap

variable {V : Type}

/-- `lm_map_size`: the used slots of all rows. -/
def size (map : LmMap V) : Nat :=
  ((List.range lmMapHashSize).map (fun row =>
    (map.table row).main.countP Option.isSome + (map.table row).extra.countP Option.isSome)).sum

/-- What `lm_map_del` returns. -/
def delReturns (map : LmMap V) (key : Nat) : Int :=
  if key = 0 then 0
  else
    let a := map.table (key % lmMapHashSize)
    if (delFirst key a.main).isSome then 1 else if (delFirst key a.extra).isSome then 1 else 0

def call [DecidableEq V] : Service (LmMap V) (LmCall V) (MapAnswer V)
  | map, .put key value => ((map.put key value).2, ⟨(map.put key value).1, none, 0, (map.put key value).2.size⟩)
  | map, .get key => (map, ⟨foundCode (map.get key), map.get key, 0, map.size⟩)
  | map, .del key => (map.del key, ⟨map.delReturns key, none, 0, (map.del key).size⟩)

/-- The finite map that an `lm_map` is meant to be: a key keeps its first value until it is removed. -/
def finiteCall [DecidableEq V] : Service (FiniteMap Nat V) (LmCall V) (MapAnswer V)
  | m, .put key value =>
    match m.lookup key with
    | none => (m.insert key value, ⟨0, none, 0, (m.insert key value).keys.card⟩)
    | some old => (m, ⟨if old = value then 0 else -1, none, 0, m.keys.card⟩)
  | m, .get key => (m, ⟨foundCode (m.lookup key), m.lookup key, 0, m.keys.card⟩)
  | m, .del key => (m.erase key, ⟨foundCode (m.lookup key), none, 0, (m.erase key).keys.card⟩)

/-- A key that is in the map already is met by the first loop of `lm_map_put`: it stands in a slot of the row itself,
with no empty slot before it. -/
def PutMeetsKey (map : LmMap V) : LmCall V → Prop
  | .put key _ => map.get key = none ∨ inFront key (map.table (key % lmMapHashSize)).main = true
  | _ => True

instance [DecidableEq V] (map : LmMap V) : (c : LmCall V) → Decidable (map.PutMeetsKey c)
  | .put _ _ => inferInstanceAs (Decidable (_ ∨ _))
  | .get _ => inferInstanceAs (Decidable True)
  | .del _ => inferInstanceAs (Decidable True)

/-- The entries of all rows. -/
def contents (map : LmMap V) : Multiset (Nat × V) := rowSum lmMapHashSize (fun row => map.entries row)

theorem countP_isSome (slots : List (Option (Nat × V))) : slots.countP Option.isSome = (slots.filterMap id).length := by
  induction slots with
  | nil => rfl
  | cons slot rest ih => cases slot <;> simp [ih]

theorem size_eq (map : LmMap V) : map.size = map.contents.card := by
  unfold size contents
  rw [card_rowSum]
  simp only [countP_isSome, entries_eq, Multiset.coe_card, List.length_append]

theorem OneMore.contents {key : Nat} {value : V} {less more : LmMap V} (oneMore : OneMore key value less more) :
    more.contents = (key, value) ::ₘ less.contents := by
  have here : (more.entries (key % lmMapHashSize) : Multiset (Nat × V)) =
      (key, value) ::ₘ (less.entries (key % lmMapHashSize) : Multiset (Nat × V)) := by
    rw [Multiset.cons_coe, Multiset.coe_eq_coe]
    exact oneMore.here
  refine rowSum_cons (Nat.mod_lt key (by decide)) ?_ here
  intro row other
  rw [oneMore.others row other]

/-- The map is tidy and holds the entries of the finite map. -/
structure Represents (map : LmMap V) (m : FiniteMap Nat V) : Prop where
  tidy : map.Tidy
  holds : FiniteMap.Holds map.contents m

namespace Represents

variable {map : LmMap V} {m : FiniteMap Nat V} {key : Nat}

theorem empty : Represents (LmMap.empty V) ∅ where
  tidy := tidy_empty
  holds := by
    have nothing : (LmMap.empty V).contents = 0 := by simp [contents, rowSum, entries, LmMap.empty, LmMapArray.empty]
    rw [nothing]
    exact .empty

theorem lookup (represents : Represents map m) (key : Nat) : m.lookup key = map.get key := by
  apply Option.ext
  intro value
  rw [represents.tidy.get_iff, ← represents.holds.mem_iff]
  exact mem_rowSum_of_home (Nat.mod_lt _ (by decide)) fun _ member => (represents.tidy.placed member).2.symm

theorem size (represents : Represents map m) : map.size = m.keys.card := by
  rw [size_eq, represents.holds.card]

theorem absent (represents : Represents map m) (absent : map.get key = none) : m.lookup key = none := by
  rw [represents.lookup, absent]

theorem more (represents : Represents map m) {value : V} {map' : LmMap V} (nonzero : key ≠ 0)
    (absent : map.get key = none) (oneMore : OneMore key value map map') : Represents map' (m.insert key value) where
  tidy := oneMore.tidy_more represents.tidy nonzero absent
  holds := by
    rw [oneMore.contents]
    exact represents.holds.insert (represents.absent absent) value

theorem less (represents : Represents map m) {value : V} {map' : LmMap V} (oneMore : OneMore key value map' map) :
    Represents map' (m.erase key) where
  tidy := oneMore.tidy_less represents.tidy
  holds := by
    have holds := represents.holds
    rw [oneMore.contents] at holds
    exact holds.erase

theorem del (represents : Represents map m) (key : Nat) : Represents (map.del key) (m.erase key) := by
  rcases represents.tidy.del_cases key with ⟨same, absent⟩ | ⟨value, oneMore⟩
  · rw [same, FiniteMap.erase_of_lookup (represents.absent absent)]
    exact represents
  · exact represents.less oneMore

end Represents

theorem put_of_inFront [DecidableEq V] {map : LmMap V} (tidy : map.Tidy) {key : Nat} (nonzero : key ≠ 0)
    (met : inFront key (map.table (key % lmMapHashSize)).main = true) :
    ∃ old, map.get key = some old ∧ ∀ value, map.put key value = (if old = value then 0 else -1, map) := by
  obtain ⟨old, member, returned⟩ := putMain_of_inFront met
  refine ⟨old, ?_, ?_⟩
  · rw [tidy.get_iff, entries_eq]
    exact List.mem_append_left _ member
  · intro value
    simp only [put, if_neg nonzero, returned, Function.update_eq_self]

theorem Tidy.delReturns_eq {map : LmMap V} (tidy : map.Tidy) (key : Nat) :
    map.delReturns key = foundCode (map.get key) := by
  by_cases zero : key = 0
  · simp [delReturns, foundCode, get, zero]
  simp only [delReturns, if_neg zero]
  cases inMain : delFirst key (map.table (key % lmMapHashSize)).main with
  | some main =>
    obtain ⟨value, perm⟩ := delFirst_entries inMain
    have held := tidy.get_iff.mpr (by
      rw [entries_eq]
      exact List.mem_append_left _ (perm.mem_iff.mpr List.mem_cons_self))
    simp [foundCode, held]
  | none =>
    cases inExtra : delFirst key (map.table (key % lmMapHashSize)).extra with
    | some extra =>
      obtain ⟨value, perm⟩ := delFirst_entries inExtra
      have held := tidy.get_iff.mpr (by
        rw [entries_eq]
        exact List.mem_append_right _ (perm.mem_iff.mpr List.mem_cons_self))
      simp [foundCode, held]
    | none =>
      have absent : map.get key = none := by
        refine Option.eq_none_iff_forall_ne_some.mpr fun value held => ?_
        rw [tidy.get_iff, entries_eq] at held
        rcases List.mem_append.mp held with main | extra
        · exact delFirst_eq_none inMain (List.mem_map.mpr ⟨_, main, rfl⟩)
        · exact delFirst_eq_none inExtra (List.mem_map.mpr ⟨_, extra, rfl⟩)
      simp [foundCode, absent]

section Calls

variable [DecidableEq V] {map : LmMap V} {m : FiniteMap Nat V} {key : Nat} {value : V}

theorem Represents.put_absent (represents : Represents map m) (nonzero : key ≠ 0) (absent : map.get key = none) :
    Represents (call map (.put key value)).1 (finiteCall m (.put key value)).1 ∧
      (call map (.put key value)).2 = (finiteCall m (.put key value)).2 := by
  obtain ⟨returned, oneMore⟩ := map.put_oneMore value nonzero (represents.tidy.missed absent)
  have more := represents.more nonzero absent oneMore
  simp only [call, finiteCall, represents.absent absent, returned, more.size]
  exact ⟨more, trivial⟩

theorem Represents.put_met (represents : Represents map m) (nonzero : key ≠ 0)
    (met : inFront key (map.table (key % lmMapHashSize)).main = true) :
    Represents (call map (.put key value)).1 (finiteCall m (.put key value)).1 ∧
      (call map (.put key value)).2 = (finiteCall m (.put key value)).2 := by
  obtain ⟨old, held, returned⟩ := put_of_inFront represents.tidy nonzero met
  have known : m.lookup key = some old := (represents.lookup key).trans held
  simp only [call, finiteCall, known, returned, represents.size]
  exact ⟨represents, trivial⟩

theorem Represents.call_spec (represents : Represents map m) {c : LmCall V} (nonzero : c.key ≠ 0)
    (meets : map.PutMeetsKey c) :
    Represents (call map c).1 (finiteCall m c).1 ∧ (call map c).2 = (finiteCall m c).2 := by
  cases c with
  | put key value =>
    rcases meets with absent | met
    · exact represents.put_absent nonzero absent
    · exact represents.put_met nonzero met
  | get key =>
    simp only [call, finiteCall, represents.lookup, represents.size]
    exact ⟨represents, trivial⟩
  | del key =>
    have less := represents.del key
    simp only [call, finiteCall, represents.lookup, represents.tidy.delReturns_eq, less.size]
    exact ⟨less, trivial⟩

theorem call_simulates :
    Service.Simulates (@call V _) finiteCall (fun c => c.key ≠ 0) PutMeetsKey Represents where
  call represents nonzero meets := represents.call_spec nonzero meets

theorem Represents.missed_differs (represents : Represents map m) {c : LmCall V} (nonzero : c.key ≠ 0)
    (missed : ¬ map.PutMeetsKey c) : (call map c).2 ≠ (finiteCall m c).2 := by
  cases c with
  | put key value =>
    obtain ⟨present, behind⟩ := not_or.mp missed
    obtain ⟨old, held⟩ := Option.ne_none_iff_exists'.mp present
    have oneMore : OneMore key value map (map.put key value).2 :=
      (map.put_oneMore value nonzero (Bool.eq_false_iff.mpr behind)).2
    have known : m.lookup key = some old := (represents.lookup key).trans held
    have grown : (map.put key value).2.size = map.size + 1 := by
      rw [size_eq, size_eq, oneMore.contents, Multiset.card_cons]
    intro same
    have sizes := congrArg MapAnswer.size same
    simp only [call, finiteCall, known, grown, represents.size] at sizes
    omega
  | get key => exact absurd trivial missed
  | del key => exact absurd trivial missed

end Calls

/-- The answers of an `lm_map` to a history of calls are those of a finite map if and only if no `lm_map_put` misses a
key that the map holds. The second loop of `lm_map_put` does not look for the key at all, and the first one ends at
the first empty slot. -/
theorem local_map_refines_iff [DecidableEq V] (calls : List (LmCall V)) (nonzero : ∀ c ∈ calls, c.key ≠ 0) :
    Service.trace call (empty V) calls = Service.trace finiteCall ∅ calls ↔
      Service.Along call PutMeetsKey (empty V) calls :=
  call_simulates.trace_eq_iff (fun represents allowed missed => represents.missed_differs allowed missed) .empty nonzero

/-- Three keys of one row; the last one is entered twice, behind no empty slot. -/
theorem local_map_refines_iff_row :
    let calls : List (LmCall Nat) := [.put 8 1, .put 16 2, .put 24 3, .put 16 5, .get 16, .del 24, .get 24]
    (∀ c ∈ calls, c.key ≠ 0) ∧ Service.Along call PutMeetsKey (empty Nat) calls ∧
      Service.trace call (empty Nat) calls = Service.trace finiteCall ∅ calls := by
  have nonzero : ∀ c ∈ ([.put 8 1, .put 16 2, .put 24 3, .put 16 5, .get 16, .del 24, .get 24] : List (LmCall Nat)),
      c.key ≠ 0 := by decide
  have meets : Service.Along call PutMeetsKey (empty Nat)
      [.put 8 1, .put 16 2, .put 24 3, .put 16 5, .get 16, .del 24, .get 24] := by
    simp only [Service.Along, and_true]
    decide
  exact ⟨nonzero, meets, (local_map_refines_iff _ nonzero).mpr meets⟩

/-- The keys 8 and 16 stand in one row. With 8 removed, 16 is entered a second time before its first entry, and
removing it once leaves it there. -/
theorem second_entry_outlives_removal :
    let calls : List (LmCall Nat) := [.put 8 1, .put 16 2, .del 8, .put 16 2, .del 16, .get 16]
    (∀ c ∈ calls, c.key ≠ 0) ∧ Service.trace call (empty Nat) calls ≠ Service.trace finiteCall ∅ calls := by
  decide

end LmMap
end TurnCluster
