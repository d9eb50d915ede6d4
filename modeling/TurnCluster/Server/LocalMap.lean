import Mathlib.Data.List.Nodup
import Mathlib.Logic.Function.Basic

namespace TurnCluster

/-- One row of an `lm_map`: three slots of its own and as many more as were ever
needed. A slot whose key or value is zero is empty. -/
structure LmMapArray (V : Type) where
  main : List (Option (Nat × V))
  extra : List (Option (Nat × V))
  deriving DecidableEq, Repr

def LmMapArray.empty (V : Type) : LmMapArray V := ⟨[none, none, none], []⟩

/-- `lm_map`, a small hash table with keys that are not zero. -/
structure LmMap (V : Type) where
  table : Nat → LmMapArray V

namespace LmMap

variable {V : Type}

def lmMapHashSize : Nat := 8

def empty (V : Type) : LmMap V := ⟨fun _ => .empty V⟩

/-- The first loop of `lm_map_put`: the result code and the new slots, if it returns. -/
def putMain [DecidableEq V] (key : Nat) (value : V) :
    List (Option (Nat × V)) → Option (Int × List (Option (Nat × V)))
  | [] => none
  | none :: rest => some (0, some (key, value) :: rest)
  | some (key0, value0) :: rest =>
    if key0 = key then some (if value0 = value then 0 else -1, some (key0, value0) :: rest)
    else (putMain key value rest).map (fun r => (r.1, some (key0, value0) :: r.2))

/-- The second loop, which looks for an empty slot only. -/
def putExtra (key : Nat) (value : V) : List (Option (Nat × V)) → List (Option (Nat × V))
  | [] => [some (key, value)]
  | none :: rest => some (key, value) :: rest
  | some entry :: rest => some entry :: putExtra key value rest

def put [DecidableEq V] (map : LmMap V) (key : Nat) (value : V) : Int × LmMap V :=
  if key = 0 then (-1, map)
  else
    let index := key % lmMapHashSize
    let a := map.table index
    match putMain key value a.main with
    | some (code, main) => (code, ⟨Function.update map.table index { a with main := main }⟩)
    | none => (0, ⟨Function.update map.table index { a with extra := putExtra key value a.extra }⟩)

def get (map : LmMap V) (key : Nat) : Option V :=
  if key = 0 then none
  else
    let a := map.table (key % lmMapHashSize)
    ((a.main ++ a.extra).findSome? (fun slot => slot.bind (fun entry =>
      if entry.1 = key then some entry.2 else none)))

/-- The slots after the first entry of a key is cleared, if there is one. -/
def delFirst (key : Nat) : List (Option (Nat × V)) → Option (List (Option (Nat × V)))
  | [] => none
  | none :: rest => (delFirst key rest).map (none :: ·)
  | some entry :: rest =>
    if entry.1 = key then some (none :: rest) else (delFirst key rest).map (some entry :: ·)

def del (map : LmMap V) (key : Nat) : LmMap V :=
  if key = 0 then map
  else
    let index := key % lmMapHashSize
    let a := map.table index
    match delFirst key a.main with
    | some main => ⟨Function.update map.table index { a with main := main }⟩
    | none =>
      match delFirst key a.extra with
      | some extra => ⟨Function.update map.table index { a with extra := extra }⟩
      | none => map

/-- All values in the order in which `lm_map_foreach` meets them. -/
def values (map : LmMap V) : List (Nat × V) :=
  (List.range lmMapHashSize).flatMap (fun index =>
    ((map.table index).main ++ (map.table index).extra).filterMap id)

/-- The used slots of a row. -/
def entries (map : LmMap V) (row : Nat) : List (Nat × V) := ((map.table row).main ++ (map.table row).extra).filterMap id

/-- Every used slot stands in the row of its key, and no key is used twice. -/
structure Tidy (map : LmMap V) : Prop where
  placed : ∀ {row entry}, entry ∈ map.entries row → entry.1 ≠ 0 ∧ entry.1 % lmMapHashSize = row
  unique : ∀ row, ((map.entries row).map Prod.fst).Nodup

/-- The first loop of `lm_map_put` comes to the key before it comes to an empty slot. -/
def inFront (key : Nat) : List (Option (Nat × V)) → Bool
  | [] => false
  | none :: _ => false
  | some entry :: rest => if entry.1 = key then true else inFront key rest

variable {key : Nat} {map : LmMap V} {value : V} {slots slots' : List (Option (Nat × V))}

theorem putMain_of_inFront [DecidableEq V] (met : inFront key slots = true) :
    ∃ value0, (key, value0) ∈ slots.filterMap id ∧
      ∀ value, putMain key value slots = some (if value0 = value then 0 else -1, slots) := by
  induction slots with
  | nil => cases met
  | cons slot rest ih =>
    cases slot with
    | none => cases met
    | some entry =>
      obtain ⟨key0, value0⟩ := entry
      by_cases same : key0 = key
      · subst same
        exact ⟨value0, by simp, fun value => by simp [putMain]⟩
      · obtain ⟨value0, member, returned⟩ := ih (by simpa [inFront, same] using met)
        exact ⟨value0, List.mem_cons_of_mem _ member, fun value => by simp [putMain, same, returned]⟩

/-- Otherwise it fills the first empty slot, whatever stands behind it. -/
theorem putMain_entries [DecidableEq V] (missed : inFront key slots = false) {code : Int}
    (filled : putMain key value slots = some (code, slots')) :
    code = 0 ∧ (slots'.filterMap id).Perm ((key, value) :: slots.filterMap id) := by
  induction slots generalizing slots' with
  | nil => cases filled
  | cons slot rest ih =>
    cases slot with
    | none =>
      cases filled
      exact ⟨rfl, List.Perm.refl _⟩
    | some entry =>
      have other : entry.1 ≠ key := by
        intro same
        simp [inFront, same] at missed
      have behind : inFront key rest = false := by simpa [inFront, other] using missed
      unfold putMain at filled
      rw [if_neg other] at filled
      obtain ⟨⟨code₁, rest'⟩, later, made⟩ := Option.map_eq_some_iff.mp filled
      cases made
      obtain ⟨returned, perm⟩ := ih behind later
      exact ⟨returned, (perm.cons entry).trans (.swap _ _ _)⟩

theorem putExtra_entries (key : Nat) (value : V) (slots : List (Option (Nat × V))) :
    ((putExtra key value slots).filterMap id).Perm ((key, value) :: slots.filterMap id) := by
  induction slots with
  | nil => exact List.Perm.refl _
  | cons slot rest ih =>
    cases slot with
    | none => exact List.Perm.refl _
    | some entry => exact (ih.cons entry).trans (.swap _ _ _)

theorem delFirst_entries (cleared : delFirst key slots = some slots') :
    ∃ value, (slots.filterMap id).Perm ((key, value) :: slots'.filterMap id) := by
  induction slots generalizing slots' with
  | nil => cases cleared
  | cons slot rest ih =>
    cases slot with
    | none =>
      obtain ⟨rest', later, rfl⟩ := Option.map_eq_some_iff.mp cleared
      obtain ⟨value, perm⟩ := ih later
      exact ⟨value, perm⟩
    | some entry =>
      unfold delFirst at cleared
      split at cleared
      · rename_i same
        cases cleared
        exact ⟨entry.2, by rw [← same]; exact List.Perm.refl _⟩
      · obtain ⟨rest', later, rfl⟩ := Option.map_eq_some_iff.mp cleared
        obtain ⟨value, perm⟩ := ih later
        exact ⟨value, (perm.cons entry).trans (.swap _ _ _)⟩

theorem delFirst_eq_none (kept : delFirst key slots = none) : key ∉ (slots.filterMap id).map Prod.fst := by
  induction slots with
  | nil => simp
  | cons slot rest ih =>
    cases slot with
    | none => exact ih (Option.map_eq_none_iff.mp kept)
    | some entry =>
      unfold delFirst at kept
      split at kept
      · cases kept
      · rename_i other
        simp only [List.filterMap_cons, id_eq, List.map_cons, List.mem_cons, not_or]
        exact ⟨fun same => other same.symm, ih (Option.map_eq_none_iff.mp kept)⟩

theorem find_entries (key : Nat) (slots : List (Option (Nat × V))) :
    slots.findSome? (fun slot => slot.bind (fun entry => if entry.1 = key then some entry.2 else none)) =
      (slots.filterMap id).findSome? (fun entry => if entry.1 = key then some entry.2 else none) := by
  induction slots with
  | nil => rfl
  | cons slot rest ih => cases slot <;> simp [List.findSome?_cons, ih]

theorem find_iff_mem {entries : List (Nat × V)} (unique : (entries.map Prod.fst).Nodup) :
    entries.findSome? (fun entry => if entry.1 = key then some entry.2 else none) = some value ↔
      (key, value) ∈ entries := by
  have found_mem {value : V}
      (found : entries.findSome? (fun entry => if entry.1 = key then some entry.2 else none) = some value) :
      (key, value) ∈ entries := by
    obtain ⟨⟨key', value'⟩, member, matched⟩ := List.exists_of_findSome?_eq_some found
    split at matched
    · rename_i same
      cases matched
      cases same
      exact member
    · cases matched
  refine ⟨found_mem, ?_⟩
  intro member
  cases found : entries.findSome? (fun entry => if entry.1 = key then some entry.2 else none) with
  | none =>
    have missed := List.findSome?_eq_none_iff.mp found _ member
    simp at missed
  | some other =>
    have equal := List.inj_on_of_nodup_map unique (found_mem found) member rfl
    rw [(Prod.mk.inj equal).2]

theorem Tidy.get_iff (tidy : map.Tidy) :
    map.get key = some value ↔ (key, value) ∈ map.entries (key % lmMapHashSize) := by
  unfold get
  split
  · rename_i zero
    constructor
    · intro found
      cases found
    · intro member
      exact absurd zero (tidy.placed member).1
  · dsimp only
    rw [find_entries]
    exact find_iff_mem (tidy.unique _)

/-- The second map has one entry more than the first. -/
structure OneMore (key : Nat) (value : V) (less more : LmMap V) : Prop where
  here : (more.entries (key % lmMapHashSize)).Perm ((key, value) :: less.entries (key % lmMapHashSize))
  others : ∀ row, row ≠ key % lmMapHashSize → more.entries row = less.entries row

namespace OneMore

variable {key : Nat} {value : V} {less more : LmMap V}

theorem mem_iff (oneMore : OneMore key value less more) {row : Nat} {entry : Nat × V} :
    entry ∈ more.entries row ↔ row = key % lmMapHashSize ∧ entry = (key, value) ∨ entry ∈ less.entries row := by
  by_cases same : row = key % lmMapHashSize
  · subst same
    rw [oneMore.here.mem_iff, List.mem_cons]
    simp
  · rw [oneMore.others row same]
    simp [same]

theorem tidy_more (oneMore : OneMore key value less more) (tidy : less.Tidy) (nonzero : key ≠ 0)
    (absent : less.get key = none) : more.Tidy := by
  constructor
  · intro row entry member
    rcases oneMore.mem_iff.mp member with ⟨rfl, rfl⟩ | old
    · exact ⟨nonzero, rfl⟩
    · exact tidy.placed old
  · intro row
    by_cases same : row = key % lmMapHashSize
    · subst same
      rw [(oneMore.here.map Prod.fst).nodup_iff]
      refine List.nodup_cons.mpr ⟨?_, tidy.unique _⟩
      intro member
      obtain ⟨⟨_, old⟩, member, rfl⟩ := List.mem_map.mp member
      rw [tidy.get_iff.mpr member] at absent
      cases absent
    · rw [oneMore.others row same]
      exact tidy.unique row

theorem tidy_less (oneMore : OneMore key value less more) (tidy : more.Tidy) : less.Tidy := by
  constructor
  · intro row entry member
    exact tidy.placed (oneMore.mem_iff.mpr (Or.inr member))
  · intro row
    by_cases same : row = key % lmMapHashSize
    · subst same
      have unique := tidy.unique (key % lmMapHashSize)
      rw [(oneMore.here.map Prod.fst).nodup_iff] at unique
      exact (List.nodup_cons.mp unique).2
    · rw [← oneMore.others row same]
      exact tidy.unique row

theorem get_less (oneMore : OneMore key value less more) (tidy : more.Tidy) : less.get key = none := by
  refine Option.eq_none_iff_forall_ne_some.mpr fun old found => ?_
  have unique := tidy.unique (key % lmMapHashSize)
  rw [(oneMore.here.map Prod.fst).nodup_iff] at unique
  have member := (oneMore.tidy_less tidy).get_iff.mp found
  exact (List.nodup_cons.mp unique).1 (List.mem_map.mpr ⟨(key, old), member, rfl⟩)

theorem get_more (oneMore : OneMore key value less more) (tidy : more.Tidy) :
    more.get = Function.update less.get key (some value) := by
  funext k
  by_cases same : k = key
  · subst same
    rw [Function.update_self]
    exact tidy.get_iff.mpr (oneMore.mem_iff.mpr (Or.inl ⟨rfl, rfl⟩))
  · rw [Function.update_of_ne same]
    apply Option.ext
    intro v
    rw [tidy.get_iff, (oneMore.tidy_less tidy).get_iff, oneMore.mem_iff]
    simp [same]

end OneMore

theorem entries_eq (map : LmMap V) (row : Nat) :
    map.entries row = (map.table row).main.filterMap id ++ (map.table row).extra.filterMap id := by
  simp [entries]

theorem entries_update_self (map : LmMap V) (row : Nat) (a : LmMapArray V) :
    entries ⟨Function.update map.table row a⟩ row = a.main.filterMap id ++ a.extra.filterMap id := by
  simp [entries]

theorem entries_update_of_ne (map : LmMap V) {row row' : Nat} (other : row' ≠ row) (a : LmMapArray V) :
    entries ⟨Function.update map.table row a⟩ row' = map.entries row' := by
  simp [entries, other]

/-- A call whose first loop does not come to the key makes an entry, even if the map has one already. -/
theorem put_oneMore [DecidableEq V] (map : LmMap V) (value : V) (nonzero : key ≠ 0)
    (missed : inFront key (map.table (key % lmMapHashSize)).main = false) :
    (map.put key value).1 = 0 ∧ OneMore key value map (map.put key value).2 := by
  unfold LmMap.put
  rw [if_neg nonzero]
  dsimp only
  split
  · rename_i code main filled
    obtain ⟨returned, perm⟩ := putMain_entries missed filled
    refine ⟨returned, ?_, fun row other => entries_update_of_ne map other _⟩
    rw [entries_update_self, entries_eq]
    exact perm.append_right _
  · refine ⟨rfl, ?_, fun row other => entries_update_of_ne map other _⟩
    rw [entries_update_self, entries_eq]
    exact ((putExtra_entries key value _).append_left _).trans List.perm_middle

theorem Tidy.missed (tidy : map.Tidy) (absent : map.get key = none) :
    inFront key (map.table (key % lmMapHashSize)).main = false := by
  classical
  refine Bool.eq_false_iff.mpr fun met => ?_
  obtain ⟨old, member, _⟩ := putMain_of_inFront met
  have held := tidy.get_iff.mpr (by rw [entries_eq]; exact List.mem_append_left _ member)
  rw [held] at absent
  cases absent

theorem Tidy.put [DecidableEq V] (tidy : map.Tidy) (value : V) (nonzero : key ≠ 0) (absent : map.get key = none) :
    (map.put key value).2.Tidy ∧ (map.put key value).2.get = Function.update map.get key (some value) := by
  have oneMore := (map.put_oneMore value nonzero (tidy.missed absent)).2
  have tidy' := oneMore.tidy_more tidy nonzero absent
  exact ⟨tidy', oneMore.get_more tidy'⟩

theorem Tidy.del_cases (tidy : map.Tidy) (key : Nat) :
    (map.del key = map ∧ map.get key = none) ∨ ∃ value, OneMore key value (map.del key) map := by
  unfold LmMap.del
  split
  · rename_i zero
    exact Or.inl ⟨rfl, by rw [zero]; rfl⟩
  · dsimp only
    split
    · rename_i main cleared
      obtain ⟨value, perm⟩ := delFirst_entries cleared
      refine Or.inr ⟨value, ?_, fun row other => (entries_update_of_ne map other _).symm⟩
      rw [entries_update_self, entries_eq]
      exact perm.append_right _
    · rename_i notMain
      split
      · rename_i extra cleared
        obtain ⟨value, perm⟩ := delFirst_entries cleared
        refine Or.inr ⟨value, ?_, fun row other => (entries_update_of_ne map other _).symm⟩
        rw [entries_update_self, entries_eq]
        exact (perm.append_left _).trans List.perm_middle
      · rename_i notExtra
        refine Or.inl ⟨rfl, Option.eq_none_iff_forall_ne_some.mpr fun value found => ?_⟩
        rw [tidy.get_iff, entries_eq] at found
        rcases List.mem_append.mp found with main | extra
        · exact delFirst_eq_none notMain (List.mem_map.mpr ⟨(key, value), main, rfl⟩)
        · exact delFirst_eq_none notExtra (List.mem_map.mpr ⟨(key, value), extra, rfl⟩)

theorem Tidy.del (tidy : map.Tidy) (key : Nat) :
    (map.del key).Tidy ∧ (map.del key).get = Function.update map.get key none := by
  rcases tidy.del_cases key with ⟨same, absent⟩ | ⟨value, oneMore⟩
  · rw [same, ← absent, Function.update_eq_self]
    exact ⟨tidy, rfl⟩
  · refine ⟨oneMore.tidy_less tidy, ?_⟩
    rw [oneMore.get_more tidy, Function.update_idem, ← oneMore.get_less tidy, Function.update_eq_self]

theorem Tidy.mem_values (tidy : map.Tidy) : (key, value) ∈ map.values ↔ map.get key = some value := by
  unfold values
  rw [List.mem_flatMap, tidy.get_iff]
  constructor
  · rintro ⟨row, _, member⟩
    rw [(tidy.placed member).2]
    exact member
  · intro member
    exact ⟨key % lmMapHashSize, List.mem_range.mpr (Nat.mod_lt _ (by decide)), member⟩

theorem tidy_empty : (empty V).Tidy := by
  constructor <;> simp [entries, empty, LmMapArray.empty]

@[simp] theorem get_empty (key : Nat) : (empty V).get key = none := by
  simp [get, empty, LmMapArray.empty]

end LmMap
end TurnCluster
