import Mathlib.Logic.Function.Iterate

namespace TurnCluster

variable {σ : Type} {cond : σ → Bool} {body : σ → σ} {s t : σ} {fuel n : Nat}

/-- `while (cond) body`, with at most `fuel` tests of the condition. -/
def whileLoop (cond : σ → Bool) (body : σ → σ) : Nat → σ → Option σ
  | 0, _ => none
  | fuel + 1, s => if cond s = true then whileLoop cond body fuel (body s) else some s

/-- `do body while (cond)`, with at most `fuel` rounds; the body itself need not return. -/
def doWhile (body : σ → Option σ) (cond : σ → Bool) : Nat → σ → Option σ
  | 0, _ => none
  | fuel + 1, s =>
    match body s with
    | none => none
    | some t => if cond t = true then doWhile body cond fuel t else some t

/-- A loop whose condition fails for the first time after `n` rounds returns. -/
theorem whileLoop_iterate (before : ∀ j < n, cond (body^[j] s) = true) (stop : cond (body^[n] s) = false)
    (enough : n < fuel) : whileLoop cond body fuel s = some (body^[n] s) := by
  induction n generalizing s fuel with
  | zero =>
    obtain ⟨fuel, rfl⟩ := Nat.exists_eq_add_one.mpr enough
    simp only [Function.iterate_zero, id_eq] at stop ⊢
    simp [whileLoop, stop]
  | succ n ih =>
    obtain ⟨fuel, rfl⟩ := Nat.exists_eq_add_one.mpr (Nat.zero_lt_of_lt enough)
    have first : cond s = true := before 0 (by omega)
    have later : whileLoop cond body fuel (body s) = some (body^[n] (body s)) :=
      ih (fun j less => before (j + 1) (by omega)) stop (by omega)
    simpa [whileLoop, first] using later

/-- A loop that returns did so when its condition failed for the first time. -/
theorem iterate_of_whileLoop (returned : whileLoop cond body fuel s = some t) :
    ∃ n < fuel, t = body^[n] s ∧ cond t = false ∧ ∀ j < n, cond (body^[j] s) = true := by
  induction fuel generalizing s with
  | zero => cases returned
  | succ fuel ih =>
    unfold whileLoop at returned
    split at returned
    · rename_i here
      obtain ⟨n, less, result, stop, before⟩ := ih returned
      refine ⟨n + 1, by omega, result, stop, ?_⟩
      intro j below
      cases j with
      | zero => exact here
      | succ j => exact before j (by omega)
    · rename_i stop
      cases returned
      exact ⟨0, by omega, rfl, Bool.eq_false_iff.mpr stop, fun j below => absurd below (by omega)⟩

theorem doWhile_stops {body : σ → Option σ} (returned : doWhile body cond fuel s = some t) : cond t = false := by
  induction fuel generalizing s with
  | zero => cases returned
  | succ fuel ih =>
    unfold doWhile at returned
    split at returned
    · cases returned
    · split at returned
      · exact ih returned
      · rename_i stop
        cases returned
        exact Bool.eq_false_iff.mpr stop

/-- A body that changes nothing, before a condition that holds, is repeated forever. -/
theorem doWhile_eq_none {body : σ → Option σ} (idle : ∀ t, body s = some t → t = s) (again : cond s = true) :
    doWhile body cond fuel s = none := by
  induction fuel with
  | zero => rfl
  | succ fuel ih =>
    unfold doWhile
    cases ran : body s with
    | none => rfl
    | some t =>
      cases idle t ran
      simp only [again, if_true, ih]

end TurnCluster
