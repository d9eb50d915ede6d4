import TurnCluster.Stun.Attr

namespace TurnCluster

/-- The reference that a caller holds after `k` calls of `stun_attr_get_next_str`. -/
def nthAttr (buf : Memory) (len : Nat) : Nat → Option Nat
  | 0 => stunAttrGetFirstStr buf len
  | k + 1 => (nthAttr buf len k).bind (stunAttrGetNextStr buf len)

variable {buf : Memory} {len : Nat} {m m' : Memory} {k attr : Nat}

theorem stunAttrCheckValid_fits {start bufLen : Nat}
    (checked : stunAttrCheckValid buf start (bufLen - start) = some attr) :
    attr = start ∧ attr + 4 + roundUp4 (stunAttrGetLen buf attr) ≤ bufLen := by
  unfold stunAttrCheckValid at checked
  split at checked
  · rename_i valid
    obtain ⟨head, value⟩ := valid
    cases checked
    exact ⟨rfl, by omega⟩
  · cases checked

/-- What a reference has passed: it lies behind the header, and all of its attribute, the padding
included, within the message. -/
def SafeAttr (buf : Memory) (len attr : Nat) : Prop :=
  stunHeaderLength ≤ attr ∧ attr + 4 + roundUp4 (stunAttrGetLen buf attr) ≤ len

theorem SafeAttr.first (found : stunAttrGetFirstStr buf len = some attr) : SafeAttr buf len attr := by
  unfold stunAttrGetFirstStr at found
  split at found
  · cases found
  · rename_i bufLen announced
    split at found
    · obtain ⟨place, fits⟩ := stunAttrCheckValid_fits found
      exact ⟨Nat.le_of_eq place.symm, fits.trans (stunGetCommandMessageLenStr_le announced)⟩
    · cases found

theorem SafeAttr.next {buf : Memory} {len prev attr : Nat} (safe : SafeAttr buf len prev)
    (found : stunAttrGetNextStr buf len prev = some attr) : prev + 4 ≤ attr ∧ SafeAttr buf len attr := by
  have behind := safe.1
  unfold stunAttrGetNextStr at found
  split at found
  · cases found
  · rename_i bufLen announced
    dsimp only at found
    split at found
    · obtain ⟨place, fits⟩ := stunAttrCheckValid_fits found
      have within := stunGetCommandMessageLenStr_le announced
      exact ⟨by omega, by omega, fits.trans within⟩
    · cases found

/-- Induction on the calls: each one goes on by four bytes at least. -/
theorem nthAttr_safe (found : nthAttr buf len k = some attr) :
    stunHeaderLength + 4 * k ≤ attr ∧ SafeAttr buf len attr := by
  induction k generalizing attr with
  | zero =>
    have safe := SafeAttr.first found
    exact ⟨by have := safe.1; omega, safe⟩
  | succ k ih =>
    obtain ⟨prev, before, step⟩ := Option.bind_eq_some_iff.mp found
    obtain ⟨reached, safe⟩ := ih before
    obtain ⟨further, next⟩ := safe.next step
    exact ⟨by omega, next⟩

/-- Iteration over the attributes of any bytes stays within them and comes to an end. -/
theorem attribute_walk_safe (buf : Memory) (len : Nat) :
    (∀ k attr, nthAttr buf len k = some attr →
      stunHeaderLength ≤ attr ∧ attr + 4 + roundUp4 (stunAttrGetLen buf attr) ≤ len ∧
        ∀ next : Nat, stunAttrGetNextStr buf len attr = some next → attr < next) ∧
      ∀ k, (len - stunHeaderLength) / 4 ≤ k → nthAttr buf len k = none := by
  constructor
  · intro k attr found
    obtain ⟨_, safe⟩ := nthAttr_safe found
    refine ⟨safe.1, safe.2, ?_⟩
    intro next step
    have further := (safe.next step).1
    omega
  · intro k late
    cases found : nthAttr buf len k with
    | none => rfl
    | some attr =>
      obtain ⟨reached, _, fits⟩ := nthAttr_safe found
      omega

theorem nthAttr_ended {j : Nat} (ended : nthAttr buf len j = none) (k : Nat) : nthAttr buf len (j + k) = none := by
  induction k with
  | zero => exact ended
  | succ k ih =>
    rw [← Nat.add_assoc, nthAttr, ih]
    rfl

theorem stunAttrsFrom_getElem? (j k fuel : Nat) (enough : ∀ attr, nthAttr buf len j = some attr → len ≤ attr + fuel) :
    (stunAttrsFrom buf len fuel (nthAttr buf len j))[k]? = nthAttr buf len (j + k) := by
  induction fuel generalizing j k with
  | zero =>
    cases found : nthAttr buf len j with
    | none =>
      rw [nthAttr_ended found]
      rfl
    | some attr =>
      have fits := (nthAttr_safe found).2.2
      have limit := enough attr found
      omega
  | succ fuel ih =>
    cases found : nthAttr buf len j with
    | none =>
      rw [nthAttr_ended found]
      rfl
    | some attr =>
      rw [stunAttrsFrom]
      have step : nthAttr buf len (j + 1) = stunAttrGetNextStr buf len attr := by
        rw [nthAttr, found]
        rfl
      cases k with
      | zero => exact found.symm
      | succ k =>
        rw [List.getElem?_cons_succ, ← step, ih (j + 1) k, Nat.add_assoc, Nat.add_comm 1 k]
        intro next later
        rw [step] at later
        have further := ((nthAttr_safe found).2.next later).1
        have limit := enough attr found
        omega

theorem nthAttr_announced (found : nthAttr buf len k = some attr) :
    ∃ bufLen, stunGetCommandMessageLenStr buf len = some bufLen ∧
      attr + 4 + roundUp4 (stunAttrGetLen buf attr) ≤ bufLen := by
  cases k with
  | zero =>
    simp only [nthAttr, stunAttrGetFirstStr] at found
    split at found
    · cases found
    · rename_i bufLen announced
      split at found
      · exact ⟨bufLen, announced, (stunAttrCheckValid_fits found).2⟩
      · cases found
  | succ k =>
    obtain ⟨prev, _, step⟩ := Option.bind_eq_some_iff.mp found
    simp only [stunAttrGetNextStr] at step
    split at step
    · cases step
    · rename_i bufLen announced
      split at step
      · exact ⟨bufLen, announced, (stunAttrCheckValid_fits step).2⟩
      · cases step

theorem stunAttrs_getElem? (buf : Memory) (len k : Nat) : (stunAttrs buf len)[k]? = nthAttr buf len k := by
  have walk := @stunAttrsFrom_getElem? buf len 0 k len (fun attr _ => Nat.le_add_left len attr)
  rwa [Nat.zero_add] at walk

theorem nthAttr_of_first {attrType : UInt16} (found : stunAttrGetFirstByTypeStr buf len attrType = some attr) :
    ∃ k, nthAttr buf len k = some attr := by
  obtain ⟨k, there⟩ := List.mem_iff_getElem?.mp (List.mem_of_find?_eq_some found)
  exact ⟨k, stunAttrs_getElem? buf len k ▸ there⟩

theorem stunAttrCheckValid_of_same {limit start remaining : Nat} (same : ∀ i, i < limit → m' i = m i)
    (checked : stunAttrCheckValid m' start remaining = some attr) (before : attr + 4 ≤ limit) :
    stunAttrCheckValid m start remaining = some attr := by
  unfold stunAttrCheckValid at checked ⊢
  split at checked
  · rename_i valid
    cases checked
    rw [stunAttrGetLen_congr same before] at valid
    exact if_pos valid
  · cases checked

/-- The walk over two messages that agree up to a limit is the same before it. Induction on the calls. -/
theorem nthAttr_of_same {limit : Nat} (same : ∀ i, i < limit → m' i = m i) (found : nthAttr m' len k = some attr)
    (before : attr + 4 ≤ limit) : nthAttr m len k = some attr := by
  have header : stunHeaderLength = 20 := rfl
  have behind := (nthAttr_safe found).2.1
  have announced : stunGetCommandMessageLenStr m' len = stunGetCommandMessageLenStr m len := by
    unfold stunGetCommandMessageLenStr
    rw [net16_congr (same 2 (by omega)) (same 3 (by omega))]
  induction k generalizing attr with
  | zero =>
    simp only [nthAttr, stunAttrGetFirstStr, announced] at found ⊢
    split at found
    · cases found
    · split at found
      · rename_i inside
        rw [if_pos inside]
        exact stunAttrCheckValid_of_same same found before
      · cases found
  | succ k ih =>
    obtain ⟨prev, earlier, step⟩ := Option.bind_eq_some_iff.mp found
    have safe := (nthAttr_safe earlier).2
    have further := (safe.next step).1
    have known := ih earlier (by omega) safe.1
    rw [nthAttr, known, Option.bind_some]
    simp only [stunAttrGetNextStr, announced] at step ⊢
    rw [stunAttrGetLen_congr same (show prev + 4 ≤ limit by omega)] at step
    split at step
    · cases step
    · split at step
      · rename_i inside
        rw [if_pos inside]
        exact stunAttrCheckValid_of_same same step before
      · cases step

end TurnCluster
