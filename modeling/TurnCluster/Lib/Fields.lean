import Mathlib.Data.List.Basic

namespace TurnCluster
namespace Fields

/-! A text of fields with a separator between them. -/

variable {α β : Type}

theorem mem_intercalate {x c : α} {fields : List (List α)} (member : c ∈ [x].intercalate fields) :
    c = x ∨ ∃ field ∈ fields, c ∈ field := by
  induction fields with
  | nil => exact nomatch member
  | cons field rest ih =>
    cases rest with
    | nil =>
      rw [List.intercalate_singleton] at member
      exact Or.inr ⟨field, List.mem_cons_self, member⟩
    | cons next rest =>
      rw [List.intercalate_cons_cons, List.mem_append, List.mem_append, List.mem_singleton] at member
      rcases member with (here | sep) | later
      · exact Or.inr ⟨field, List.mem_cons_self, here⟩
      · exact Or.inl sep
      · rcases ih later with sep | ⟨found, among, inside⟩
        · exact Or.inl sep
        · exact Or.inr ⟨found, List.mem_cons_of_mem _ among, inside⟩

theorem length_intercalate_lt {x : α} {size : Nat} {fields : List (List α)} (nonempty : fields ≠ [])
    (small : ∀ field ∈ fields, field.length ≤ size) :
    ([x].intercalate fields).length < fields.length * (size + 1) := by
  induction fields with
  | nil => exact absurd rfl nonempty
  | cons field rest ih =>
    have first := small field List.mem_cons_self
    cases rest with
    | nil =>
      rw [List.intercalate_singleton, List.length_singleton]
      omega
    | cons next rest =>
      have later := ih (List.cons_ne_nil _ _) fun field member => small field (List.mem_cons_of_mem _ member)
      rw [List.intercalate_cons_cons, List.length_append, List.length_append, List.length_singleton,
        List.length_cons, Nat.succ_mul]
      omega

variable [BEq α]

/-- The fields of a text, each of them read. -/
def readFields (x : α) (read : List α → Option β) (text : List α) : Option (List β) :=
  (text.splitOn x).mapM read

variable [LawfulBEq α]

theorem readFields_intercalate {x : α} {read : List α → Option β} {write : β → List α}
    {values : List β} (nonempty : values ≠ []) (inverse : ∀ v ∈ values, read (write v) = some v)
    (absent : ∀ v ∈ values, x ∉ write v) :
    readFields x read ([x].intercalate (values.map write)) = some values := by
  have fields : ([x].intercalate (values.map write)).splitOn x = values.map write := by
    refine List.splitOn_intercalate x (fun field member => ?_) (fun empty => nonempty (List.map_eq_nil_iff.mp empty))
    obtain ⟨v, among, rfl⟩ := List.mem_map.mp member
    exact absent v among
  rw [readFields, fields]
  clear fields nonempty absent
  induction values with
  | nil => rfl
  | cons v rest ih =>
    rw [List.map_cons, List.mapM_cons, inverse v List.mem_cons_self,
      ih fun v among => inverse v (List.mem_cons_of_mem _ among)]
    rfl

/-- A character that no field may have is in no text that is read. -/
theorem readFields_none {x c : α} {read : List α → Option β} {text : List α} (other : c ≠ x)
    (foreign : ∀ field, c ∈ field → read field = none) (member : c ∈ text) : readFields x read text = none := by
  have joined : [x].intercalate (text.splitOn x) = text := List.intercalate_splitOn x
  rcases mem_intercalate (joined.symm ▸ member) with sep | ⟨field, among, inside⟩
  · exact absurd sep other
  · rw [readFields]
    revert among
    induction text.splitOn x with
    | nil => exact fun among => nomatch among
    | cons first rest ih =>
      intro among
      rw [List.mapM_cons]
      rcases List.mem_cons.mp among with rfl | later
      · rw [foreign field inside]
        rfl
      · rw [ih later]
        cases read first <;> rfl

end Fields
end TurnCluster
