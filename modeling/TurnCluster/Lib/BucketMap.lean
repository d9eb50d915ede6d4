import TurnCluster.Lib.Buckets
import TurnCluster.Lib.FiniteMap

namespace TurnCluster
namespace Buckets

variable {κ κ' : Type}

/-- The values of the used slots whose key is the same as `key`. -/
def removed (same : κ → κ → Bool) (key : κ) : List (Slot κ) → List Nat
  | [] => []
  | slot :: rest =>
    if slot.value ≠ 0 ∧ same slot.key key = true then slot.value :: removed same key rest else removed same key rest

/-- The number of used slots. -/
def countUsed (slots : List (Slot κ)) : Nat := slots.countP (fun slot => slot.value ≠ 0)

/-- The used slots, by what their keys stand for. -/
def entries (canon : κ → κ') : List (Slot κ) → List (κ' × Nat)
  | [] => []
  | slot :: rest => if slot.value = 0 then entries canon rest else (canon slot.key, slot.value) :: entries canon rest

theorem length_entries (canon : κ → κ') (slots : List (Slot κ)) : (entries canon slots).length = countUsed slots := by
  induction slots with
  | nil => rfl
  | cons slot rest ih => by_cases free : slot.value = 0 <;> simp_all [entries, countUsed]

theorem mem_entries {canon : κ → κ'} {slots : List (Slot κ)} {entry : κ' × Nat} :
    entry ∈ entries canon slots ↔ ∃ slot ∈ slots, slot.value ≠ 0 ∧ entry = (canon slot.key, slot.value) := by
  induction slots with
  | nil => simp [entries]
  | cons slot rest ih => by_cases free : slot.value = 0 <;> simp [entries, free, ih]

theorem entries_addSlot (canon : κ → κ') (key : κ) {value : Nat} (used : value ≠ 0) (slots : List (Slot κ)) :
    (entries canon (addSlot key value slots)).Perm ((canon key, value) :: entries canon slots) := by
  induction slots with
  | nil => simp [addSlot, entries, used]
  | cons slot rest ih =>
    by_cases free : slot.value = 0
    · simp [addSlot, entries, free, used]
    · simp only [addSlot, entries, if_neg free]
      exact (ih.cons _).trans (.swap _ _ _)

/-- The comparison of used slots with a key is that of what the keys stand for. -/
def Agrees (same : κ → κ → Bool) (canon : κ → κ') (key : κ) (slots : List (Slot κ)) : Prop :=
  ∀ slot ∈ slots, slot.value ≠ 0 → (same slot.key key = true ↔ canon slot.key = canon key)

section Row

variable {same : κ → κ → Bool} {canon : κ → κ'} {key : κ} {slots : List (Slot κ)} {slot : Slot κ}

theorem Agrees.tail (agrees : Agrees same canon key (slot :: slots)) : Agrees same canon key slots :=
  fun slot member => agrees slot (List.mem_cons_of_mem _ member)

theorem Agrees.head (agrees : Agrees same canon key (slot :: slots)) (used : slot.value ≠ 0) :
    same slot.key key = true ↔ canon slot.key = canon key := agrees slot List.mem_cons_self used

theorem Agrees.absent (agrees : Agrees same canon key slots) (missing : findSlot same key slots = none) (value : Nat) :
    (canon key, value) ∉ entries canon slots := by
  induction slots with
  | nil => simp [entries]
  | cons slot rest ih =>
    unfold findSlot at missing
    split at missing
    · cases missing
    · rename_i other
      by_cases free : slot.value = 0
      · simpa [entries, free] using ih agrees.tail missing
      · have differs : canon key ≠ canon slot.key :=
          fun equal => other ⟨free, (agrees.head free).mpr equal.symm⟩
        simpa [entries, free, differs] using ih agrees.tail missing

/-- A key that is found has an entry, and with another value it keeps its place. -/
theorem Agrees.found (agrees : Agrees same canon key slots) {old : Nat} (found : findSlot same key slots = some old) :
    ∃ rest : List (κ' × Nat), (entries canon slots).Perm ((canon key, old) :: rest) ∧
      ∀ {value}, value ≠ 0 → (entries canon (replaceSlot same key value slots)).Perm ((canon key, value) :: rest) := by
  induction slots with
  | nil => cases found
  | cons slot later ih =>
    unfold findSlot at found
    split at found
    · rename_i here
      cases found
      have equal := (agrees.head here.1).mp here.2
      refine ⟨entries canon later, by simp [entries, here.1, equal], ?_⟩
      intro value used
      simp [replaceSlot, here, entries, used, equal]
    · rename_i other
      obtain ⟨rest, before, after⟩ := ih agrees.tail found
      by_cases free : slot.value = 0
      · exact ⟨rest, by simpa [entries, free] using before, fun used => by
          simpa [replaceSlot, other, entries, free] using after used⟩
      · refine ⟨(canon slot.key, slot.value) :: rest, ?_, ?_⟩
        · simp only [entries, if_neg free]
          exact (before.cons _).trans (.swap _ _ _)
        · intro value used
          simp only [replaceSlot, if_neg other, entries, if_neg free]
          exact ((after used).cons _).trans (.swap _ _ _)

/-- What is removed and what is left are all the entries there were. -/
theorem Agrees.cleared (agrees : Agrees same canon key slots) :
    (entries canon slots).Perm ((removed same key slots).map (fun value => (canon key, value)) ++
      entries canon (clearSlots same key slots)) := by
  induction slots with
  | nil => simp [entries, removed, clearSlots]
  | cons slot rest ih =>
    have later := ih agrees.tail
    by_cases free : slot.value = 0
    · simpa [entries, removed, clearSlots, free] using later
    · by_cases matched : same slot.key key = true
      · have equal := (agrees.head free).mp matched
        simpa [entries, removed, clearSlots, free, matched, equal] using later
      · simp only [entries, removed, clearSlots, List.map_cons, free, matched, ne_eq, not_false_eq_true, and_false, if_false,
          Bool.false_eq_true]
        exact (later.cons _).trans List.perm_middle.symm

theorem Agrees.cleared_absent (agrees : Agrees same canon key slots) (value : Nat) :
    (canon key, value) ∉ entries canon (clearSlots same key slots) := by
  intro member
  obtain ⟨slot, left, used, equal⟩ := mem_entries.mp member
  obtain ⟨before, differs⟩ := mem_clearSlots left used
  have matched := (agrees slot before used).mpr (Prod.mk.inj equal).1.symm
  exact Bool.false_ne_true (differs.symm.trans matched)

theorem mem_replaceSlot {value : Nat} (member : slot ∈ replaceSlot same key value slots) :
    slot ∈ slots ∨ ∃ old ∈ slots, old.value ≠ 0 ∧ slot.key = old.key := by
  induction slots with
  | nil => cases member
  | cons first rest ih =>
    unfold replaceSlot at member
    split at member
    · rename_i here
      rcases List.mem_cons.mp member with rfl | later
      · exact Or.inr ⟨first, List.mem_cons_self, here.1, rfl⟩
      · exact Or.inl (List.mem_cons_of_mem _ later)
    · rcases List.mem_cons.mp member with rfl | later
      · exact Or.inl List.mem_cons_self
      · rcases ih later with old | ⟨old, there, used, equal⟩
        · exact Or.inl (List.mem_cons_of_mem _ old)
        · exact Or.inr ⟨old, List.mem_cons_of_mem _ there, used, equal⟩

end Row

/-- Keys that stand for the same are compared as equal and belong into one of the rows. -/
structure Keying (same : κ → κ → Bool) (index : κ → Nat) (canon : κ → κ') (valid : κ → Prop) (size : Nat) : Prop where
  same_iff : ∀ {a b}, valid a → valid b → (same a b = true ↔ canon a = canon b)
  index_eq : ∀ {a b}, valid a → valid b → canon a = canon b → index a = index b
  inside : ∀ a, index a < size

/-- The entries of all rows. -/
def contents (canon : κ → κ') (size : Nat) (map : Buckets κ) : Multiset (κ' × Nat) :=
  rowSum size (fun row => entries canon (map row))

/-- The used slots stand where their keys belong, and are the entries of the finite map. -/
structure Represents (index : κ → Nat) (canon : κ → κ') (valid : κ → Prop) (size : Nat) (map : Buckets κ)
    (m : FiniteMap κ' Nat) : Prop where
  placed : ∀ {row slot}, slot ∈ map row → slot.value ≠ 0 → valid slot.key ∧ index slot.key = row
  holds : FiniteMap.Holds (contents canon size map) m

namespace Represents

variable {same : κ → κ → Bool} {index : κ → Nat} {canon : κ → κ'} {valid : κ → Prop} {size : Nat}
  {map : Buckets κ} {m : FiniteMap κ' Nat} {key : κ} {value : Nat}

theorem empty (free : ∀ row, ∀ slot ∈ map row, slot.value = 0) : Represents index canon valid size map ∅ where
  placed member used := absurd (free _ _ member) used
  holds := by
    have nothing (row : Nat) : entries canon (map row) = [] := by
      refine List.eq_nil_iff_forall_not_mem.mpr fun entry member => ?_
      obtain ⟨slot, there, used, _⟩ := mem_entries.mp member
      exact used (free row slot there)
    have none : contents canon size map = 0 := by simp [contents, rowSum, nothing]
    rw [none]
    exact .empty

theorem agrees (represents : Represents index canon valid size map m) (keying : Keying same index canon valid size)
    (known : valid key) (row : Nat) : Agrees same canon key (map row) :=
  fun _ member used => keying.same_iff (represents.placed member used).1 known

/-- An entry for a key stands in the row of the key. -/
theorem mem_contents (represents : Represents index canon valid size map m)
    (keying : Keying same index canon valid size) (known : valid key) :
    (canon key, value) ∈ contents canon size map ↔ (canon key, value) ∈ entries canon (map (index key)) := by
  refine mem_rowSum_of_home (keying.inside key) ?_
  intro row member
  obtain ⟨slot, there, used, equal⟩ := mem_entries.mp member
  obtain ⟨slotKnown, place⟩ := represents.placed there used
  exact place.symm.trans (keying.index_eq known slotKnown (Prod.mk.inj equal).1).symm

theorem lookup [DecidableEq κ'] (represents : Represents index canon valid size map m)
    (keying : Keying same index canon valid size) (known : valid key) :
    m.lookup (canon key) = get same index map key := by
  have agrees := represents.agrees keying known (index key)
  unfold get
  cases found : findSlot same key (map (index key)) with
  | none =>
    rw [← represents.holds.absent_iff]
    intro value
    rw [represents.mem_contents keying known]
    exact agrees.absent found value
  | some value =>
    obtain ⟨rest, before, _⟩ := agrees.found found
    rw [← represents.holds.mem_iff, represents.mem_contents keying known]
    exact before.mem_iff.mpr List.mem_cons_self

theorem card (represents : Represents index canon valid size map m) :
    ((List.range size).map (fun row => countUsed (map row))).sum = m.keys.card := by
  rw [← represents.holds.card, contents, card_rowSum]
  simp only [Multiset.coe_card, length_entries]

/-- A change of the row of a key that gives up and gains entries. -/
theorem contents_update (keying : Keying same index canon valid size) (map : Buckets κ) (key : κ)
    (slots : List (Slot κ)) {lost gained : Multiset (κ' × Nat)}
    (here : (entries canon slots : Multiset (κ' × Nat)) + lost = entries canon (map (index key)) + gained) :
    contents canon size (Function.update map (index key) slots) + lost = contents canon size map + gained := by
  refine rowSum_change (keying.inside key) ?_ ?_
  · intro row other
    rw [Function.update_of_ne other]
  · rw [Function.update_self]
    exact here

theorem put_new [DecidableEq κ'] (represents : Represents index canon valid size map m)
    (keying : Keying same index canon valid size) (known : valid key) (used : value ≠ 0)
    (missing : findSlot same key (map (index key)) = none) :
    Represents index canon valid size (put same index map key value) (m.insert (canon key) value) := by
  have stored : put same index map key value =
      Function.update map (index key) (addSlot key value (map (index key))) := by
    simp only [put, missing, if_neg used]
  have absent : m.lookup (canon key) = none := (represents.lookup keying known).trans missing
  have more : contents canon size (put same index map key value) = (canon key, value) ::ₘ contents canon size map := by
    have here : (entries canon (addSlot key value (map (index key))) : Multiset (κ' × Nat)) + 0 =
        entries canon (map (index key)) + {(canon key, value)} := by
      rw [add_zero, add_comm, Multiset.singleton_add, Multiset.cons_coe, Multiset.coe_eq_coe]
      exact entries_addSlot canon key used _
    have change := contents_update keying map key _ here
    rw [add_zero, add_comm, Multiset.singleton_add, ← stored] at change
    exact change
  refine ⟨?_, ?_⟩
  · intro row slot member slotUsed
    rw [stored] at member
    rcases mem_update member with ⟨rfl, inside⟩ | ⟨-, old⟩
    · rcases mem_addSlot inside with rfl | old
      · exact ⟨known, rfl⟩
      · exact represents.placed old slotUsed
    · exact represents.placed old slotUsed
  · rw [more]
    exact represents.holds.insert absent value

theorem put_known [DecidableEq κ'] (represents : Represents index canon valid size map m)
    (keying : Keying same index canon valid size) (known : valid key) (used : value ≠ 0) {old : Nat}
    (found : findSlot same key (map (index key)) = some old) :
    Represents index canon valid size (put same index map key value) (m.insert (canon key) value) := by
  have stored : put same index map key value =
      Function.update map (index key) (replaceSlot same key value (map (index key))) := by
    simp only [put, found]
  obtain ⟨rest, before, after⟩ := (represents.agrees keying known (index key)).found found
  have there : (canon key, old) ∈ contents canon size map := by
    rw [represents.mem_contents keying known]
    exact before.mem_iff.mpr List.mem_cons_self
  have here : (entries canon (replaceSlot same key value (map (index key))) : Multiset (κ' × Nat)) +
      {(canon key, old)} = entries canon (map (index key)) + {(canon key, value)} := by
    rw [Multiset.coe_eq_coe.mpr (after used), Multiset.coe_eq_coe.mpr before, ← Multiset.cons_coe,
      ← Multiset.cons_coe, ← Multiset.singleton_add, ← Multiset.singleton_add, add_right_comm,
      add_comm {(canon key, value)} {(canon key, old)}, add_right_comm]
  refine ⟨?_, ?_⟩
  · intro row slot member slotUsed
    rw [stored] at member
    rcases mem_update member with ⟨rfl, inside⟩ | ⟨-, older⟩
    · rcases mem_replaceSlot inside with older | ⟨older, there, olderUsed, equal⟩
      · exact represents.placed older slotUsed
      · rw [equal]
        exact represents.placed there olderUsed
    · exact represents.placed older slotUsed
  · rw [stored]
    exact represents.holds.replace there (contents_update keying map key _ here)

theorem put [DecidableEq κ'] (represents : Represents index canon valid size map m)
    (keying : Keying same index canon valid size) (known : valid key) (used : value ≠ 0) :
    Represents index canon valid size (Buckets.put same index map key value) (m.insert (canon key) value) := by
  cases found : findSlot same key (map (index key)) with
  | none => exact represents.put_new keying known used found
  | some old => exact represents.put_known keying known used found

/-- A removal takes the value of the key out, once, if there is one. -/
theorem del [DecidableEq κ'] (represents : Represents index canon valid size map m)
    (keying : Keying same index canon valid size) (known : valid key) :
    Represents index canon valid size (Buckets.del same index map key) (m.erase (canon key)) ∧
      removed same key (map (index key)) = (m.lookup (canon key)).toList := by
  have agrees := represents.agrees keying known (index key)
  have here : (entries canon (clearSlots same key (map (index key))) : Multiset (κ' × Nat)) +
      (removed same key (map (index key))).map (fun value => (canon key, value)) =
      entries canon (map (index key)) + 0 := by
    rw [add_zero, add_comm, Multiset.coe_add, Multiset.coe_eq_coe]
    exact agrees.cleared.symm
  have split := contents_update keying map key _ here
  rw [add_zero, add_comm] at split
  have left : ∀ {row slot}, slot ∈ Buckets.del same index map key row → slot.value ≠ 0 →
      valid slot.key ∧ index slot.key = row := by
    intro row slot member used
    rcases mem_update member with ⟨rfl, inside⟩ | ⟨-, old⟩
    · exact represents.placed (mem_clearSlots inside used).1 used
    · exact represents.placed old used
  have gone : ∀ value, (canon key, value) ∉ contents canon size (Buckets.del same index map key) := by
    intro value member
    obtain ⟨row, _, there⟩ := mem_rowSum.mp member
    obtain ⟨slot, slotThere, used, equal⟩ := mem_entries.mp there
    obtain ⟨slotKnown, place⟩ := left slotThere used
    rw [← place, keying.index_eq slotKnown known (Prod.mk.inj equal).1.symm, Buckets.del, Function.update_self] at there
    exact agrees.cleared_absent value there
  have holds := represents.holds
  rw [← split] at holds
  obtain ⟨erased, values⟩ := holds.remove gone
  exact ⟨⟨left, erased⟩, values⟩

end Represents

end Buckets
end TurnCluster
