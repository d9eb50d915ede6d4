import Mathlib.Logic.Function.Basic

namespace TurnCluster

/-- A slot of a hash table; the value 0 marks a free one. -/
structure Slot (κ : Type) where
  key : κ
  value : Nat
  deriving DecidableEq, Repr

/-- The slots of each row. -/
abbrev Buckets (κ : Type) := Nat → List (Slot κ)

namespace Buckets

variable {κ : Type}

/-- The value under the first used slot whose key is the same as `key`. -/
def findSlot (same : κ → κ → Bool) (key : κ) : List (Slot κ) → Option Nat
  | [] => none
  | slot :: rest =>
    if slot.value ≠ 0 ∧ same slot.key key = true then some slot.value else findSlot same key rest

/-- The first free slot is filled, or a new one appended. -/
def addSlot (key : κ) (value : Nat) : List (Slot κ) → List (Slot κ)
  | [] => [⟨key, value⟩]
  | slot :: rest => if slot.value = 0 then ⟨key, value⟩ :: rest else slot :: addSlot key value rest

/-- The first used slot whose key is the same takes a new value. -/
def replaceSlot (same : κ → κ → Bool) (key : κ) (value : Nat) : List (Slot κ) → List (Slot κ)
  | [] => []
  | slot :: rest =>
    if slot.value ≠ 0 ∧ same slot.key key = true then { slot with value := value } :: rest
    else slot :: replaceSlot same key value rest

def clearSlots (same : κ → κ → Bool) (key : κ) (slots : List (Slot κ)) : List (Slot κ) :=
  slots.map (fun slot => if slot.value ≠ 0 ∧ same slot.key key = true then { slot with value := 0 } else slot)

variable (same : κ → κ → Bool) (index : κ → Nat)

def get (map : Buckets κ) (key : κ) : Option Nat := findSlot same key (map (index key))

def put (map : Buckets κ) (key : κ) (value : Nat) : Buckets κ :=
  Function.update map (index key)
    (match findSlot same key (map (index key)) with
    | some _ => replaceSlot same key value (map (index key))
    | none => if value = 0 then map (index key) else addSlot key value (map (index key)))

def del (map : Buckets κ) (key : κ) : Buckets κ :=
  Function.update map (index key) (clearSlots same key (map (index key)))

/-- A used slot of the table holds `value` under exactly `key`. -/
def Holds (map : Buckets κ) (key : κ) (value : Nat) : Prop :=
  value ≠ 0 ∧ ∃ row, ⟨key, value⟩ ∈ map row

/-- Every used slot stands in the row of its key. -/
def Placed (map : Buckets κ) : Prop :=
  ∀ row, ∀ slot ∈ map row, slot.value ≠ 0 → index slot.key = row

variable {same} {index} {map : Buckets κ} {key key' : κ} {value value' : Nat}
variable {slots : List (Slot κ)} {slot : Slot κ}

theorem mem_of_findSlot (found : findSlot same key slots = some value) :
    value ≠ 0 ∧ ∃ key', ⟨key', value⟩ ∈ slots ∧ same key' key = true := by
  induction slots with
  | nil => cases found
  | cons slot rest ih =>
    unfold findSlot at found
    split at found
    · rename_i here
      cases found
      exact ⟨here.1, slot.key, List.mem_cons_self, here.2⟩
    · obtain ⟨used, key', member, matched⟩ := ih found
      exact ⟨used, key', List.mem_cons_of_mem _ member, matched⟩

theorem mem_addSlot (member : slot ∈ addSlot key value slots) : slot = ⟨key, value⟩ ∨ slot ∈ slots := by
  induction slots with
  | nil => exact Or.inl (List.mem_singleton.mp member)
  | cons first rest ih =>
    unfold addSlot at member
    split at member
    · rcases List.mem_cons.mp member with new | old
      · exact Or.inl new
      · exact Or.inr (List.mem_cons_of_mem _ old)
    · rcases List.mem_cons.mp member with here | later
      · exact Or.inr (here ▸ List.mem_cons_self)
      · rcases ih later with new | old
        · exact Or.inl new
        · exact Or.inr (List.mem_cons_of_mem _ old)

/-- A used slot that is left after a removal was there before and has another key. -/
theorem mem_clearSlots (member : slot ∈ clearSlots same key slots) (used : slot.value ≠ 0) :
    slot ∈ slots ∧ same slot.key key = false := by
  obtain ⟨before, old, made⟩ := List.mem_map.mp member
  by_cases matched : before.value ≠ 0 ∧ same before.key key = true
  · rw [if_pos matched] at made
    exact absurd (congrArg Slot.value made.symm) used
  · rw [if_neg matched] at made
    subst made
    exact ⟨old, Bool.eq_false_iff.mpr fun equal => matched ⟨used, equal⟩⟩

theorem holds_of_get (found : get same index map key = some value) :
    ∃ key', Holds map key' value ∧ same key' key = true := by
  obtain ⟨used, key', member, matched⟩ := mem_of_findSlot found
  exact ⟨key', ⟨used, _, member⟩, matched⟩

theorem mem_update {row : Nat} {at' : Nat} (member : slot ∈ Function.update map row slots at') :
    at' = row ∧ slot ∈ slots ∨ at' ≠ row ∧ slot ∈ map at' := by
  by_cases here : at' = row
  · subst here
    rw [Function.update_self] at member
    exact Or.inl ⟨rfl, member⟩
  · rw [Function.update_of_ne here] at member
    exact Or.inr ⟨here, member⟩

theorem Placed.del (placed : Placed index map) : Placed index (del same index map key) := by
  intro row slot member used
  rcases mem_update member with ⟨rfl, cleared⟩ | ⟨-, old⟩
  · exact placed _ slot (mem_clearSlots cleared used).1 used
  · exact placed row slot old used

/-- After a removal no used slot has the removed key, and none is new. -/
theorem holds_del (respects : ∀ a b, same a b = true → index a = index b) (placed : Placed index map)
    (holds : Holds (del same index map key) key' value') : Holds map key' value' ∧ same key' key = false := by
  obtain ⟨used, row, member⟩ := holds
  rcases mem_update member with ⟨rfl, cleared⟩ | ⟨elsewhere, old⟩
  · obtain ⟨old, differs⟩ := mem_clearSlots cleared used
    exact ⟨⟨used, _, old⟩, differs⟩
  · refine ⟨⟨used, row, old⟩, Bool.eq_false_iff.mpr fun matched => elsewhere ?_⟩
    exact (placed row _ old used).symm.trans (respects _ _ matched)

theorem findSlot_eq_none (absent : ∀ key' value', Holds map key' value' → same key' key = false) (row : Nat) :
    findSlot same key (map row) = none := by
  cases found : findSlot same key (map row) with
  | none => rfl
  | some value =>
    obtain ⟨used, key', member, matched⟩ := mem_of_findSlot found
    have differs := absent key' value ⟨used, row, member⟩
    rw [matched] at differs
    cases differs

theorem put_of_absent (absent : ∀ key' value', Holds map key' value' → same key' key = false) (used : value ≠ 0) :
    put same index map key value = Function.update map (index key) (addSlot key value (map (index key))) := by
  unfold put
  rw [findSlot_eq_none absent]
  dsimp only
  rw [if_neg used]

theorem Placed.put (placed : Placed index map)
    (absent : ∀ key' value', Holds map key' value' → same key' key = false) (used : value ≠ 0) :
    Placed index (put same index map key value) := by
  intro row slot member slotUsed
  rw [put_of_absent absent used] at member
  rcases mem_update member with ⟨rfl, inside⟩ | ⟨-, old⟩
  · rcases mem_addSlot inside with rfl | old
    · rfl
    · exact placed _ slot old slotUsed
  · exact placed row slot old slotUsed

theorem holds_put (absent : ∀ key' value', Holds map key' value' → same key' key = false) (used : value ≠ 0)
    (holds : Holds (put same index map key value) key' value') :
    key' = key ∧ value' = value ∨ Holds map key' value' := by
  obtain ⟨used', row, member⟩ := holds
  rw [put_of_absent absent used] at member
  rcases mem_update member with ⟨rfl, inside⟩ | ⟨-, old⟩
  · rcases mem_addSlot inside with new | old
    · cases new
      exact Or.inl ⟨rfl, rfl⟩
    · exact Or.inr ⟨used', _, old⟩
  · exact Or.inr ⟨used', row, old⟩

end Buckets
end TurnCluster
