import Mathlib.Data.Finset.Card
import Mathlib.Order.Interval.Finset.Nat

namespace TurnCluster

/-- A queue of entries at running positions. An item that is free carries the position of its
entry as a stamp; an entry that no stamp points to is left over from earlier. -/
structure Ring (α : Type) where
  entry : Nat → α
  stamp : α → Option Nat
  low : Nat
  high : Nat

namespace Ring

variable {α : Type} {r r' : Ring α} {x y : α} {q : Nat}

def Window (r : Ring α) (q : Nat) : Prop := r.low ≤ q ∧ q < r.high

def Live (r : Ring α) (q : Nat) : Prop := r.Window q ∧ r.stamp (r.entry q) = some q

def Stale (r : Ring α) (q : Nat) : Prop := r.Window q ∧ r.stamp (r.entry q) ≠ some q

/-- Every stamp points to the entry of its item. -/
structure Kept (r : Ring α) : Prop where
  order : r.low ≤ r.high
  stamped : ∀ {x q}, r.stamp x = some q → r.Window q ∧ r.entry q = x

theorem Kept.live (kept : r.Kept) (stamp : r.stamp x = some q) : r.Live q := by
  obtain ⟨inside, entry⟩ := kept.stamped stamp
  exact ⟨inside, by rw [entry, stamp]⟩

/-- Entries that are not live are dropped from the front. -/
structure Skip (r r' : Ring α) : Prop where
  dead : ∀ q, r.low ≤ q → q < r'.low → ¬ r.Live q
  low : r.low ≤ r'.low
  order : r'.low ≤ r'.high
  high : r'.high = r.high
  entry : r'.entry = r.entry
  stamps : r'.stamp = r.stamp

theorem Kept.skip (kept : r.Kept) (skip : r.Skip r') : r'.Kept := by
  refine ⟨skip.order, ?_⟩
  intro x q stamp
  rw [skip.stamps] at stamp
  obtain ⟨⟨above, below⟩, entry⟩ := kept.stamped stamp
  have notBefore : ¬ q < r'.low := fun earlier => skip.dead q above earlier (kept.live stamp)
  exact ⟨⟨Nat.le_of_not_lt notBefore, by rw [skip.high]; exact below⟩, by rw [skip.entry]; exact entry⟩

section Steps

variable [DecidableEq α]

/-- The first live entry leaves with all that stands before it. -/
structure Pop (r r' : Ring α) (x : α) (q : Nat) : Prop where
  stamp : r.stamp x = some q
  first : ∀ q', r.low ≤ q' → q' < q → ¬ r.Live q'
  low : r'.low = q + 1
  high : r'.high = r.high
  entry : r'.entry = r.entry
  stamps : r'.stamp = Function.update r.stamp x none

/-- An item comes back at the end. Entries out of the window may be lost. -/
structure Put (r r' : Ring α) (x : α) : Prop where
  absent : r.stamp x = none
  low : r'.low = r.low
  high : r'.high = r.high + 1
  new : r'.entry r.high = x
  old : ∀ q, r.Window q → r'.entry q = r.entry q
  stamps : r'.stamp = Function.update r.stamp x (some r.high)

/-- An item is taken from the middle: its entry stays behind. -/
structure Void (r r' : Ring α) (x : α) : Prop where
  low : r'.low = r.low
  high : r'.high = r.high
  entry : r'.entry = r.entry
  stamps : r'.stamp = Function.update r.stamp x none

theorem update_none_eq_some {stamp : α → Option Nat} (after : Function.update stamp x none y = some q) :
    y ≠ x ∧ stamp y = some q := by
  by_cases same : y = x
  · rw [same, Function.update_self] at after
    cases after
  · rw [Function.update_of_ne same] at after
    exact ⟨same, after⟩

theorem Kept.pop (kept : r.Kept) (pop : r.Pop r' x q) : r'.Kept := by
  obtain ⟨⟨above, below⟩, entry⟩ := kept.stamped pop.stamp
  refine ⟨by rw [pop.low, pop.high]; omega, ?_⟩
  intro y q' stamp
  rw [pop.stamps] at stamp
  obtain ⟨different, before⟩ := update_none_eq_some stamp
  obtain ⟨⟨above', below'⟩, entry'⟩ := kept.stamped before
  have notBefore : ¬ q' < q := fun earlier => pop.first q' above' earlier (kept.live before)
  have notHere : q' ≠ q := by
    rintro rfl
    exact different (entry'.symm.trans entry)
  refine ⟨⟨by rw [pop.low]; omega, by rw [pop.high]; exact below'⟩, ?_⟩
  rw [pop.entry]
  exact entry'

theorem Kept.put (kept : r.Kept) (put : r.Put r' x) : r'.Kept := by
  have order := kept.order
  refine ⟨by rw [put.low, put.high]; omega, ?_⟩
  intro y q stamp
  rw [put.stamps] at stamp
  by_cases same : y = x
  · rw [same, Function.update_self] at stamp
    cases Option.some.inj stamp
    rw [same]
    exact ⟨⟨by rw [put.low]; exact order, by rw [put.high]; omega⟩, put.new⟩
  · rw [Function.update_of_ne same] at stamp
    obtain ⟨inside, entry⟩ := kept.stamped stamp
    refine ⟨⟨by rw [put.low]; exact inside.1, by rw [put.high]; have := inside.2; omega⟩, ?_⟩
    rw [put.old q inside]
    exact entry

theorem Kept.void (kept : r.Kept) (void : r.Void r' x) : r'.Kept := by
  refine ⟨by rw [void.low, void.high]; exact kept.order, ?_⟩
  intro y q stamp
  rw [void.stamps] at stamp
  obtain ⟨inside, entry⟩ := kept.stamped (update_none_eq_some stamp).2
  unfold Window
  rw [void.low, void.high, void.entry]
  exact ⟨inside, entry⟩

end Steps

/-- Stale entries come only from items that were taken with a mate: there is one of them at most
for each item, and the mate comes back behind it. -/
structure Paired (mate : α → α → Prop) (r : Ring α) : Prop where
  kept : r.Kept
  unique : ∀ {q q'}, r.Stale q → r.Stale q' → r.entry q = r.entry q' → q = q'
  mated : ∀ {q}, r.Stale q → ∃ x, mate x (r.entry q) ∧ ∀ s, r.stamp x = some s → q < s

variable {mate : α → α → Prop}

/-- A step that makes no stale entries and stamps nothing but at the end. -/
theorem Paired.of_stale (paired : r.Paired mate) (kept : r'.Kept)
    (stale : ∀ {q}, r'.Stale q → r.Stale q ∧ r'.entry q = r.entry q)
    (stamps : ∀ {x s}, r'.stamp x = some s → r.stamp x = some s ∨ r.high ≤ s) : r'.Paired mate := by
  refine ⟨kept, ?_, ?_⟩
  · intro q q' first second same
    obtain ⟨before, entry⟩ := stale first
    obtain ⟨before', entry'⟩ := stale second
    exact paired.unique before before' (by rw [← entry, ← entry', same])
  · intro q isStale
    obtain ⟨before, entry⟩ := stale isStale
    obtain ⟨x, isMate, later⟩ := paired.mated before
    refine ⟨x, by rw [entry]; exact isMate, ?_⟩
    intro s stamp
    rcases stamps stamp with old | atEnd
    · exact later s old
    · have inside := before.1.2
      omega

theorem Paired.skip (paired : r.Paired mate) (skip : r.Skip r') : r'.Paired mate := by
  refine paired.of_stale (paired.kept.skip skip) ?_ ?_
  · rintro q ⟨⟨above, below⟩, stale⟩
    rw [skip.high] at below
    rw [skip.entry, skip.stamps] at stale
    exact ⟨⟨⟨skip.low.trans above, below⟩, stale⟩, by rw [skip.entry]⟩
  · intro x s stamp
    rw [skip.stamps] at stamp
    exact Or.inl stamp

section Steps

variable [DecidableEq α]

theorem Pop.stale (kept : r.Kept) (pop : r.Pop r' x q) {q' : Nat} (stale : r'.Stale q') : q < q' ∧ r.Stale q' := by
  obtain ⟨⟨above, below⟩, stale⟩ := stale
  obtain ⟨⟨low, _⟩, _⟩ := kept.stamped pop.stamp
  rw [pop.low] at above
  rw [pop.high] at below
  rw [pop.entry, pop.stamps] at stale
  refine ⟨above, ⟨by omega, below⟩, ?_⟩
  intro live
  by_cases same : r.entry q' = x
  · rw [same, pop.stamp] at live
    cases Option.some.inj live
    omega
  · rw [Function.update_of_ne same] at stale
    exact stale live

theorem Paired.pop (paired : r.Paired mate) (pop : r.Pop r' x q) : r'.Paired mate := by
  refine paired.of_stale (paired.kept.pop pop) ?_ ?_
  · intro q' stale
    exact ⟨(pop.stale paired.kept stale).2, by rw [pop.entry]⟩
  · intro y s stamp
    rw [pop.stamps] at stamp
    exact Or.inl (update_none_eq_some stamp).2

theorem Paired.put (paired : r.Paired mate) (put : r.Put r' x) : r'.Paired mate := by
  refine paired.of_stale (paired.kept.put put) ?_ ?_
  · rintro q ⟨⟨above, below⟩, stale⟩
    rw [put.low] at above
    rw [put.high] at below
    by_cases atEnd : q = r.high
    · subst atEnd
      rw [put.new, put.stamps, Function.update_self] at stale
      exact absurd rfl stale
    · have inside : r.Window q := ⟨above, by omega⟩
      rw [put.old q inside, put.stamps] at stale
      refine ⟨⟨inside, ?_⟩, put.old q inside⟩
      intro live
      by_cases same : r.entry q = x
      · rw [same, put.absent] at live
        cases live
      · rw [Function.update_of_ne same] at stale
        exact stale live
  · intro y s stamp
    rw [put.stamps] at stamp
    by_cases same : y = x
    · rw [same, Function.update_self] at stamp
      exact Or.inr (Option.some.inj stamp).le
    · rw [Function.update_of_ne same] at stamp
      exact Or.inl stamp

/-- The first item is popped and its mate taken from the middle. What was stale of the mate stood before it. -/
theorem Paired.popMate {r₁ : Ring α} (paired : r.Paired mate) (pop : r.Pop r₁ x q) (void : r₁.Void r' y)
    (isMate : mate x y) (single : ∀ {x'}, mate x' y → x' = x) : r'.Paired mate := by
  have popped := paired.pop pop
  have mateTaken : r₁.stamp x = none := by rw [pop.stamps, Function.update_self]
  have fresh {q' : Nat} (stale : r₁.Stale q') : r₁.entry q' ≠ y := by
    intro same
    obtain ⟨behind, before⟩ := pop.stale paired.kept stale
    obtain ⟨x', isMate', later⟩ := paired.mated before
    rw [← pop.entry, same] at isMate'
    rw [single isMate'] at later
    have ahead := later q pop.stamp
    omega
  have window (q' : Nat) : r'.Window q' ↔ r₁.Window q' := by
    unfold Window
    rw [void.low, void.high]
  -- An entry is stale after the step if it was before, or if it is the one of the mate.
  have stale {q' : Nat} (after : r'.Stale q') : r₁.Stale q' ∨ r₁.stamp y = some q' ∧ r₁.entry q' = y := by
    obtain ⟨inside, stale⟩ := after
    rw [void.entry, void.stamps] at stale
    by_cases live : r₁.stamp (r₁.entry q') = some q'
    · by_cases same : r₁.entry q' = y
      · rw [same] at live
        exact Or.inr ⟨live, same⟩
      · rw [Function.update_of_ne same] at stale
        exact absurd live stale
    · exact Or.inl ⟨(window q').mp inside, live⟩
  refine ⟨popped.kept.void void, ?_, ?_⟩
  · intro q₁ q₂ first second same
    rw [void.entry] at same
    rcases stale first with old₁ | ⟨stamp₁, entry₁⟩
    · rcases stale second with old₂ | ⟨_, entry₂⟩
      · exact popped.unique old₁ old₂ same
      · exact absurd (same.trans entry₂) (fresh old₁)
    · rcases stale second with old₂ | ⟨stamp₂, _⟩
      · exact absurd (same.symm.trans entry₁) (fresh old₂)
      · exact Option.some.inj (stamp₁.symm.trans stamp₂)
  · intro q' after
    rw [void.entry, void.stamps]
    rcases stale after with old | ⟨_, entry⟩
    · obtain ⟨x', isMate', later⟩ := popped.mated old
      exact ⟨x', isMate', fun s stamp => later s (update_none_eq_some stamp).2⟩
    · refine ⟨x, by rw [entry]; exact isMate, ?_⟩
      intro s stamp
      rw [(update_none_eq_some stamp).2] at mateTaken
      cases mateTaken

end Steps

/-- The window holds one live entry for each item at most, and one stale entry for each item that has a mate. -/
theorem Paired.size_le (paired : r.Paired mate) {items mates : Finset α} (inItems : ∀ q, r.Window q → r.entry q ∈ items)
    (inMates : ∀ x y, mate x y → y ∈ mates) : r.high - r.low ≤ items.card + mates.card := by
  classical
  have live : ((Finset.Ico r.low r.high).filter (fun q => r.Live q)).card ≤ items.card := by
    refine Finset.card_le_card_of_injOn r.entry ?_ ?_
    · intro q member
      exact inItems q (Finset.mem_filter.mp member).2.1
    · intro q first q' second same
      obtain ⟨_, stamp⟩ := (Finset.mem_filter.mp first).2
      obtain ⟨_, stamp'⟩ := (Finset.mem_filter.mp second).2
      rw [same] at stamp
      exact Option.some.inj (stamp.symm.trans stamp')
  have stale : ((Finset.Ico r.low r.high).filter (fun q => ¬ r.Live q)).card ≤ mates.card := by
    have isStale {q : Nat} (member : q ∈ (Finset.Ico r.low r.high).filter (fun q => ¬ r.Live q)) : r.Stale q := by
      obtain ⟨inside, dead⟩ := Finset.mem_filter.mp member
      have window : r.Window q := Finset.mem_Ico.mp inside
      exact ⟨window, fun stamp => dead ⟨window, stamp⟩⟩
    refine Finset.card_le_card_of_injOn r.entry ?_ ?_
    · intro q member
      obtain ⟨x, isMate, _⟩ := paired.mated (isStale member)
      exact inMates x _ isMate
    · intro q first q' second same
      exact paired.unique (isStale first) (isStale second) same
  calc r.high - r.low = (Finset.Ico r.low r.high).card := (Nat.card_Ico r.low r.high).symm
    _ = ((Finset.Ico r.low r.high).filter (fun q => r.Live q)).card +
          ((Finset.Ico r.low r.high).filter (fun q => ¬ r.Live q)).card :=
        (Finset.card_filter_add_card_filter_not _).symm
    _ ≤ items.card + mates.card := Nat.add_le_add live stale

end Ring
end TurnCluster
