import Mathlib.Algebra.BigOperators.Group.Finset.Basic
import Mathlib.Algebra.GroupWithZero.Nat
import Mathlib.Algebra.Order.BigOperators.Group.Multiset
import Mathlib.Data.Finmap

namespace TurnCluster

/-- A finite map. -/
abbrev FiniteMap (κ V : Type) := Finmap (fun _ : κ => V)

namespace FiniteMap

variable {κ V : Type}

/-- The entries of a table, in no order, are exactly those of the map. -/
def Holds (contents : Multiset (κ × V)) (m : FiniteMap κ V) : Prop :=
  contents.map (fun entry => (⟨entry.1, entry.2⟩ : Σ _ : κ, V)) = m.entries

variable {contents : Multiset (κ × V)} {m : FiniteMap κ V} {key : κ} {value : V}

theorem Holds.empty : Holds (0 : Multiset (κ × V)) ∅ := rfl

theorem Holds.card (holds : Holds contents m) : contents.card = m.keys.card := by
  have keys : m.keys.card = m.entries.card := Multiset.card_map _ _
  rw [keys, ← holds, Multiset.card_map]

theorem Holds.mem_iff [DecidableEq κ] (holds : Holds contents m) :
    (key, value) ∈ contents ↔ m.lookup key = some value := by
  rw [Finmap.lookup_eq_some_iff, ← holds]
  simp

theorem Holds.absent_iff [DecidableEq κ] (holds : Holds contents m) :
    (∀ value, (key, value) ∉ contents) ↔ m.lookup key = none := by
  simp only [holds.mem_iff, Option.eq_none_iff_forall_ne_some, ne_eq]

theorem Holds.insert [DecidableEq κ] (holds : Holds contents m) (absent : m.lookup key = none) (value : V) :
    Holds ((key, value) ::ₘ contents) (m.insert key value) := by
  unfold Holds
  rw [Finmap.entries_insert_of_notMem (Finmap.lookup_eq_none.mp absent), Multiset.map_cons, holds]

theorem insert_erase [DecidableEq κ] (m : FiniteMap κ V) (key : κ) (value : V) :
    (m.erase key).insert key value = m.insert key value := by
  apply Finmap.ext_lookup
  intro k
  by_cases same : k = key
  · subst same
    rw [Finmap.lookup_insert, Finmap.lookup_insert]
  · rw [Finmap.lookup_insert_of_ne _ same, Finmap.lookup_insert_of_ne _ same, Finmap.lookup_erase_ne same]

theorem insert_of_lookup [DecidableEq κ] (found : m.lookup key = some value) : m.insert key value = m := by
  apply Finmap.ext_lookup
  intro k
  by_cases same : k = key
  · subst same
    rw [Finmap.lookup_insert, found]
  · rw [Finmap.lookup_insert_of_ne _ same]

theorem erase_of_lookup [DecidableEq κ] (absent : m.lookup key = none) : m.erase key = m := by
  apply Finmap.ext_lookup
  intro k
  by_cases same : k = key
  · subst same
    rw [Finmap.lookup_erase, absent]
  · rw [Finmap.lookup_erase_ne same]

theorem Holds.erase [DecidableEq κ] (holds : Holds ((key, value) ::ₘ contents) m) : Holds contents (m.erase key) := by
  have found : m.lookup key = some value := holds.mem_iff.mp (Multiset.mem_cons_self _ _)
  have back : (m.erase key).insert key value = m := by
    rw [insert_erase, insert_of_lookup found]
  have entries := Finmap.entries_insert_of_notMem (b := value) (Finmap.notMem_erase_self (a := key) (s := m))
  rw [back, ← holds, Multiset.map_cons, Multiset.cons_inj_right] at entries
  exact entries

/-- The one entry of a key gets another value. -/
theorem Holds.replace [DecidableEq κ] (holds : Holds contents m) {old : V} (there : (key, old) ∈ contents)
    {contents' : Multiset (κ × V)} (change : contents' + {(key, old)} = contents + {(key, value)}) :
    Holds contents' (m.insert key value) := by
  obtain ⟨others, whole⟩ := Multiset.exists_cons_of_mem there
  rw [whole, ← Multiset.singleton_add, add_comm, add_assoc, add_left_cancel_iff, add_comm,
    Multiset.singleton_add] at change
  rw [whole] at holds
  rw [change, ← insert_erase]
  exact holds.erase.insert (Finmap.lookup_erase key m) value

/-- Taking out all entries of a key takes out at most one. -/
theorem Holds.remove [DecidableEq κ] {values : List V} (holds : Holds ((values.map (fun value => (key, value)) :
    Multiset (κ × V)) + contents) m) (gone : ∀ value, (key, value) ∉ contents) :
    Holds contents (m.erase key) ∧ values = (m.lookup key).toList := by
  cases values with
  | nil =>
    rw [List.map_nil, Multiset.coe_nil, zero_add] at holds
    have absent : m.lookup key = none := holds.absent_iff.mp gone
    rw [erase_of_lookup absent, absent]
    exact ⟨holds, rfl⟩
  | cons value more =>
    rw [List.map_cons, ← Multiset.cons_coe, Multiset.cons_add] at holds
    have found : m.lookup key = some value := holds.mem_iff.mp (Multiset.mem_cons_self _ _)
    have erased := holds.erase
    cases more with
    | nil =>
      rw [List.map_nil, Multiset.coe_nil, zero_add] at erased
      rw [found]
      exact ⟨erased, rfl⟩
    | cons second more =>
      have again : (m.erase key).lookup key = some second := erased.mem_iff.mp (by simp)
      rw [Finmap.lookup_erase] at again
      cases again

/-- The values of a map. -/
def values (m : FiniteMap κ V) : Multiset V := m.entries.map Sigma.snd

theorem Holds.values (holds : Holds contents m) : m.values = contents.map Prod.snd := by
  unfold FiniteMap.values
  rw [← holds, Multiset.map_map]
  rfl

theorem mem_values [DecidableEq κ] : value ∈ m.values ↔ ∃ key, m.lookup key = some value := by
  simp only [values, Multiset.mem_map, Finmap.lookup_eq_some_iff]
  constructor
  · rintro ⟨⟨key, _⟩, member, rfl⟩
    exact ⟨key, member⟩
  · rintro ⟨key, member⟩
    exact ⟨⟨key, value⟩, member, rfl⟩

theorem values_insert [DecidableEq κ] (m : FiniteMap κ V) (key : κ) (value : V) :
    values (m.insert key value) = value ::ₘ values (m.erase key) := by
  unfold values
  rw [← insert_erase, Finmap.entries_insert_of_notMem Finmap.notMem_erase_self, Multiset.map_cons]

theorem values_erase [DecidableEq κ] (m : FiniteMap κ V) (key : κ) :
    ((m.lookup key).toList : Multiset V) + values (m.erase key) = m.values := by
  cases found : m.lookup key with
  | none => rw [erase_of_lookup found, Option.toList_none, Multiset.coe_nil, zero_add]
  | some value =>
    have whole := values_insert m key value
    rw [insert_of_lookup found] at whole
    rw [whole, Option.toList_some, Multiset.coe_singleton, Multiset.singleton_add]

end FiniteMap

/-- What a caller sees of a call of a map: what it returned and handed out, the values it disposed of, and the number
of elements behind it. -/
structure MapAnswer (V : Type) where
  code : Int
  value : Option V
  disposed : Multiset V
  size : Nat
  deriving DecidableEq

/-- What a call that looks for a key returns. -/
def foundCode {V : Type} (value : Option V) : Int := if value.isSome then 1 else 0

/-- What all rows of a table hold together. It is irreducible since a table has many rows. -/
@[irreducible] def rowSum {α : Type} (size : Nat) (rows : Nat → Multiset α) : Multiset α :=
  ∑ row ∈ Finset.range size, rows row

section Rows

variable {α : Type} {size : Nat} {rows rows' : Nat → Multiset α} {row : Nat}

theorem mem_rowSum {a : α} : a ∈ rowSum size rows ↔ ∃ row < size, a ∈ rows row := by
  simp [rowSum, Multiset.mem_sum]

/-- An entry that can only stand in one row. -/
theorem mem_rowSum_of_home {a : α} (inside : row < size) (home : ∀ r, a ∈ rows r → r = row) :
    a ∈ rowSum size rows ↔ a ∈ rows row := by
  rw [mem_rowSum]
  constructor
  · rintro ⟨r, _, member⟩
    exact home r member ▸ member
  · intro member
    exact ⟨row, inside, member⟩

theorem card_rowSum : (rowSum size rows).card = ((List.range size).map (fun row => (rows row).card)).sum := by
  rw [rowSum, Multiset.card_sum]
  induction size with
  | zero => rfl
  | succ size ih => simp [Finset.sum_range_succ, List.range_succ, ih]

theorem map_rowSum {β : Type} (f : α → β) : (rowSum size rows).map f = rowSum size (fun row => (rows row).map f) := by
  unfold rowSum
  induction size with
  | zero => rfl
  | succ size ih => simp only [Finset.sum_range_succ, Multiset.map_add, ih]

/-- The rows one after the other. -/
theorem coe_flatMap_range (lists : Nat → List α) :
    ((List.range size).flatMap lists : Multiset α) = rowSum size (fun row => lists row) := by
  unfold rowSum
  induction size with
  | zero => rfl
  | succ size ih => simp only [Finset.sum_range_succ, List.range_succ, List.flatMap_append, List.flatMap_singleton,
      ← Multiset.coe_add, ih]

/-- What one row gives up and gains is what the table gives up and gains. -/
theorem rowSum_change (inside : row < size) (others : ∀ r, r ≠ row → rows' r = rows r) {removed added : Multiset α}
    (here : rows' row + removed = rows row + added) : rowSum size rows' + removed = rowSum size rows + added := by
  have member : row ∈ Finset.range size := Finset.mem_range.mpr inside
  have rest : ∑ r ∈ (Finset.range size).erase row, rows' r = ∑ r ∈ (Finset.range size).erase row, rows r :=
    Finset.sum_congr rfl (fun r apart => others r (Finset.ne_of_mem_erase apart))
  calc rowSum size rows' + removed
      = rows' row + ∑ r ∈ (Finset.range size).erase row, rows' r + removed := by
        rw [rowSum, Finset.add_sum_erase _ _ member]
    _ = rows' row + removed + ∑ r ∈ (Finset.range size).erase row, rows r := by rw [rest, add_right_comm]
    _ = rows row + ∑ r ∈ (Finset.range size).erase row, rows r + added := by rw [here, add_right_comm]
    _ = rowSum size rows + added := by rw [rowSum, Finset.add_sum_erase _ _ member]

/-- One row gains one entry. -/
theorem rowSum_cons (inside : row < size) (others : ∀ r, r ≠ row → rows' r = rows r) {a : α}
    (here : rows' row = a ::ₘ rows row) : rowSum size rows' = a ::ₘ rowSum size rows := by
  have change : rowSum size rows' + 0 = rowSum size rows + {a} :=
    rowSum_change inside others (by rw [here, add_zero, add_comm, Multiset.singleton_add])
  rw [add_zero, add_comm, Multiset.singleton_add] at change
  exact change

end Rows
end TurnCluster
