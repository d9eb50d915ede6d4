import TurnCluster.Lib.CString

namespace TurnCluster

/-- What the `switch` of `SASLprep` does with a character. -/
inductive SaslAction where
  | skip
  | put (byte : UInt8)
  | refuse
  deriving DecidableEq, Repr

def saslAction (c : UInt8) : SaslAction :=
  if c = 0xAD then .skip
  else if c = 0xA0 ∨ c = 0x20 then .put 0x20
  else if c = 0x7F then .refuse
  else if c < 0x1F then .refuse
  else if 0x80 ≤ c ∧ c ≤ 0x9F then .refuse
  else .put c

/-- The loop of `SASLprep` over the two cursors; `none` if the string does not end in so many rounds. -/
def saslLoop : Nat → Memory → Nat → Nat → Option (Int × Memory)
  | 0, _, _, _ => none
  | fuel + 1, m, strin, strout =>
    let c := m strin
    if c = 0 then some (0, m.write strout [0])
    else
      match saslAction c with
      | .skip => saslLoop fuel m (strin + 1) strout
      | .put byte => saslLoop fuel (m.write strout [byte]) (strin + 1) (strout + 1)
      | .refuse => some (-1, m)

def saslPrep (fuel : Nat) (s : Memory) : Option (Int × Memory) := saslLoop fuel s 0 0

/-- The control characters of ASCII and Latin-1. -/
def isControl (c : UInt8) : Bool := (0x01 ≤ c && c ≤ 0x1F) || c == 0x7F || (0x80 ≤ c && c ≤ 0x9F)

/-- The string that is meant: no soft hyphens, and plain spaces. -/
def prepared (s : List UInt8) : List UInt8 :=
  (s.filter (fun c => c != 0xAD)).map (fun c => if c = 0xA0 then 0x20 else c)

theorem saslAction_refuse {c : UInt8} (nonzero : c ≠ 0) :
    saslAction c = .refuse ↔ isControl c = true ∧ c ≠ 0x1F := by
  have positive : 0 < c.toNat := Nat.pos_of_ne_zero fun zero => nonzero (UInt8.toNat_inj.mp zero)
  have words {x y : UInt8} : x = y ↔ x.toNat = y.toNat := UInt8.toNat_inj.symm
  simp only [saslAction, isControl, Bool.or_eq_true, Bool.and_eq_true, decide_eq_true_eq, beq_iff_eq, ne_eq, words,
    UInt8.le_iff_toNat_le, UInt8.lt_iff_toNat_lt, UInt8.reduceToNat]
  split_ifs <;> simp only [true_iff, false_iff] <;> omega

theorem saslAction_skip {c : UInt8} : saslAction c = .skip ↔ c = 0xAD := by
  unfold saslAction
  split_ifs <;> simp_all

theorem saslAction_put {c byte : UInt8} (put : saslAction c = .put byte) :
    c ≠ 0xAD ∧ byte = (if c = 0xA0 then 0x20 else c) ∧ (c ≠ 0 → byte ≠ 0) ∧ saslAction byte = .put byte := by
  by_cases space : c = 0xA0 ∨ c = 0x20
  · have blank : saslAction c = .put 0x20 := by rcases space with rfl | rfl <;> rfl
    cases put.symm.trans blank
    rcases space with rfl | rfl <;> decide
  · have own : byte = c ∧ c ≠ 0xAD := by
      unfold saslAction at put
      split_ifs at put with hyphen
      exact ⟨(SaslAction.put.inj put).symm, hyphen⟩
    obtain ⟨rfl, notHyphen⟩ := own
    rw [if_neg fun equal => space (Or.inl equal)]
    exact ⟨notHyphen, rfl, id, put⟩

theorem prepared_skip {c : UInt8} (action : saslAction c = .skip) (rest : List UInt8) :
    prepared (c :: rest) = prepared rest := by
  simp only [prepared, saslAction_skip.mp action, List.filter_cons, bne_self_eq_false, Bool.false_eq_true, if_false]

theorem prepared_put {c byte : UInt8} (action : saslAction c = .put byte) (rest : List UInt8) :
    prepared (c :: rest) = byte :: prepared rest := by
  obtain ⟨notHyphen, value, _⟩ := saslAction_put action
  simp only [prepared, List.filter_cons, bne_iff_ne.mpr notHyphen, if_true, List.map_cons, value]

section Loop

variable {m : Memory} {strin strout pos : Nat} {c : UInt8} {done rest : List UInt8}

theorem saslLoop_next (string : StringAt m strin (c :: rest)) {result : Option (Int × Memory)}
    (later : ∀ fuel, rest.length < fuel →
      (match saslAction c with
        | .skip => saslLoop fuel m (strin + 1) strout
        | .put byte => saslLoop fuel (m.write strout [byte]) (strin + 1) (strout + 1)
        | .refuse => some (-1, m)) = result)
    (fuel : Nat) (enough : (c :: rest).length < fuel) : saslLoop fuel m strin strout = result := by
  obtain ⟨here, nonzero, _⟩ := string
  obtain ⟨fuel, rfl⟩ := Nat.exists_eq_succ_of_ne_zero (Nat.ne_zero_of_lt enough)
  rw [← later fuel (Nat.lt_of_succ_lt_succ enough)]
  simp only [saslLoop, here, if_neg nonzero]

theorem saslLoop_end (string : StringAt m strin []) (fuel : Nat) (enough : 0 < fuel) :
    saslLoop fuel m strin strout = some (0, m.write strout [0]) := by
  obtain ⟨fuel, rfl⟩ := Nat.exists_eq_succ_of_ne_zero (Nat.ne_zero_of_lt enough)
  exact if_pos string

/-- The run from two cursors on: the bytes before `strout` are done, the rest of the string is read
from `strin`, which is never behind. -/
theorem saslLoop_run (order : strout ≤ strin) (string : StringAt m strin rest) (written : m.slice 0 strout = done)
    (clean : ∀ c ∈ done, c ≠ 0) :
    ∃ ret m', (∀ fuel, rest.length < fuel → saslLoop fuel m strin strout = some (ret, m')) ∧
      (ret = 0 ↔ ∀ c ∈ rest, saslAction c ≠ .refuse) ∧ (ret = 0 → StringAt m' 0 (done ++ prepared rest)) := by
  induction rest generalizing m strin strout done with
  | nil =>
    refine ⟨0, m.write strout [0], saslLoop_end string, ?_, fun _ => ?_⟩
    · exact ⟨fun _ c member => absurd member List.not_mem_nil, fun _ => rfl⟩
    · rw [show prepared [] = [] from rfl, List.append_nil]
      exact .closed written clean
  | cons c rest ih =>
    have ⟨_, nonzero, behind⟩ := string
    rw [List.forall_mem_cons]
    cases action : saslAction c with
    | refuse =>
      refine ⟨-1, m, saslLoop_next string ?_, ?_, fun zero => absurd zero (by decide)⟩
      · simp only [action, implies_true]
      · exact ⟨fun zero => absurd zero (by decide), fun all => absurd rfl all.1⟩
    | skip =>
      obtain ⟨ret, m', run, returns, result⟩ := ih (by omega : strout ≤ strin + 1) behind written clean
      refine ⟨ret, m', saslLoop_next string ?_, ?_, prepared_skip action rest ▸ result⟩
      · simpa only [action] using run
      · exact returns.trans (and_iff_right SaslAction.noConfusion).symm
    | put byte =>
      have kept : byte ≠ 0 := (saslAction_put action).2.2.1 nonzero
      have unread : StringAt (m.write strout [byte]) (strin + 1) rest := by
        refine behind.congr fun i after => Memory.write_outside (Or.inr ?_)
        rw [List.length_singleton]
        omega
      obtain ⟨ret, m', run, returns, result⟩ := ih (by omega : strout + 1 ≤ strin + 1) unread
        (Memory.slice_write_next written byte)
        (List.forall_mem_append.mpr ⟨clean, List.forall_mem_singleton.mpr kept⟩)
      refine ⟨ret, m', saslLoop_next string ?_, ?_, ?_⟩
      · simpa only [action] using run
      · exact returns.trans (and_iff_right SaslAction.noConfusion).symm
      · rw [prepared_put action]
        rwa [List.append_assoc] at result

theorem write_own (same : m pos = c) : m.write pos [c] = m := by
  have stored := Memory.write_slice m pos 1
  rwa [show m.slice pos 1 = [c] from congrArg (fun c => [c]) same] at stored

theorem saslLoop_fixed (string : StringAt m pos rest) (fixed : ∀ c ∈ rest, saslAction c = .put c) (fuel : Nat)
    (enough : rest.length < fuel) : saslLoop fuel m pos pos = some (0, m) := by
  induction rest generalizing pos fuel with
  | nil => rw [saslLoop_end string fuel enough, write_own string]
  | cons c rest ih =>
    obtain ⟨here, fixed⟩ := List.forall_mem_cons.mp fixed
    refine saslLoop_next string (fun fuel enough => ?_) fuel enough
    simp only [here, write_own string.1]
    exact ih string.2.2 fixed fuel enough

end Loop

theorem saslAction_prepared {s : List UInt8} (accepted : ∀ c ∈ s, saslAction c ≠ .refuse) :
    ∀ c ∈ prepared s, saslAction c = .put c := by
  intro byte member
  obtain ⟨c, kept, rfl⟩ := List.mem_map.mp member
  obtain ⟨inside, notHyphen⟩ := List.mem_filter.mp kept
  cases action : saslAction c with
  | refuse => exact absurd action (accepted c inside)
  | skip => exact absurd (saslAction_skip.mp action) (bne_iff_ne.mp notHyphen)
  | put byte =>
    obtain ⟨_, value, _, again⟩ := saslAction_put action
    exact value ▸ again

/-- What `SASLprep` is to do with a string: it returns 0 for the strings without control
characters, the string is then the prepared one, and a second call changes nothing. -/
def PreparedRight (m : Memory) (s : List UInt8) : Prop :=
  ∃ ret m', (∀ fuel, s.length < fuel → saslPrep fuel m = some (ret, m')) ∧
    (ret = 0 ↔ ∀ c ∈ s, isControl c = false) ∧
    (ret = 0 → StringAt m' 0 (prepared s) ∧
      ∀ fuel, (prepared s).length < fuel → saslPrep fuel m' = some (0, m'))

/-- The strings without a unit separator, and those that are refused for another character. -/
theorem saslPrep_right_iff {m : Memory} {s : List UInt8} (string : StringAt m 0 s) :
    PreparedRight m s ↔ (0x1F ∈ s → ∃ c ∈ s, isControl c = true ∧ c ≠ 0x1F) := by
  obtain ⟨ret, m', run, returns, result⟩ :=
    saslLoop_run le_rfl string rfl (fun c member => absurd member List.not_mem_nil)
  have refused : (∃ c ∈ s, isControl c = true ∧ c ≠ 0x1F) ↔ ret ≠ 0 := by
    rw [ne_eq, returns]
    push Not
    exact exists_congr fun c => and_congr_right fun member => (saslAction_refuse (string.nonzero c member)).symm
  rw [refused]
  constructor
  · rintro ⟨ret', m'', run', right, _⟩ separator
    cases (run (s.length + 1) (Nat.lt_succ_self _)).symm.trans (run' (s.length + 1) (Nat.lt_succ_self _))
    intro zero
    exact absurd (right.mp zero 0x1F separator) (by decide)
  · intro condition
    refine ⟨ret, m', run, ⟨fun zero c member => ?_, fun none => ?_⟩, fun zero => ⟨result zero, fun fuel enough => ?_⟩⟩
    · by_contra control
      have control : isControl c = true := by simpa using control
      by_cases separator : c = 0x1F
      · exact condition (separator ▸ member) zero
      · exact refused.mp ⟨c, member, control, separator⟩ zero
    · by_contra nonzero
      obtain ⟨c, member, control, _⟩ := refused.mpr nonzero
      exact absurd control (Bool.eq_false_iff.mp (none c member))
    · exact saslLoop_fixed (result zero) (saslAction_prepared (returns.mp zero)) fuel enough

/-- A password with a no-break space and a soft hyphen. -/
theorem saslPrep_right_password : StringAt (Memory.ofList [0x70, 0xA0, 0xAD, 0x77]) 0 [0x70, 0xA0, 0xAD, 0x77] ∧
    PreparedRight (Memory.ofList [0x70, 0xA0, 0xAD, 0x77]) [0x70, 0xA0, 0xAD, 0x77] := by
  have string : StringAt (Memory.ofList [0x70, 0xA0, 0xAD, 0x77]) 0 [0x70, 0xA0, 0xAD, 0x77] := by
    simp only [StringAt]
    decide
  exact ⟨string, (saslPrep_right_iff string).mpr (fun separator => absurd separator (by decide))⟩

/-- The comparison with 0x1F lets that character through. -/
theorem saslPrep_unit_separator : ¬ ∀ (m : Memory) (s : List UInt8), StringAt m 0 s → PreparedRight m s := by
  intro claimed
  have string : StringAt (Memory.ofList [0x1F]) 0 [0x1F] := by
    simp only [StringAt]
    decide
  obtain ⟨ret, m', run, right, _⟩ := claimed _ _ string
  have returned : (saslPrep 2 (Memory.ofList [0x1F])).map Prod.fst = some 0 := by decide
  rw [run 2 (by decide)] at returned
  have zero : ret = 0 := Option.some.inj returned
  exact absurd (right.mp zero 0x1F List.mem_cons_self) (by decide)

end TurnCluster
