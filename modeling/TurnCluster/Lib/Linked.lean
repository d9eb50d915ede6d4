import Mathlib.Logic.Function.Basic

namespace TurnCluster

/-- A link names its owner, and the owner finds it again under its port. -/
structure Link (ρ α π ν : Type) where
  number : ν
  addr : α
  port : π
  owner : ρ

/-- Owners, each with an address and a map from ports to links, and the links. -/
structure Links (ρ γ α π ν : Type) where
  owners : ρ → Option (α × (π → Option γ))
  links : γ → Option (Link ρ α π ν)

namespace Links

variable {ρ γ α π ν : Type}

/-- The two directions agree, and neither addresses nor numbers are used twice. -/
structure Linked (same : α → α → Bool) (l : Links ρ γ α π ν) : Prop where
  addrs : ∀ {r₁ r₂ a₁ a₂ m₁ m₂}, l.owners r₁ = some (a₁, m₁) → l.owners r₂ = some (a₂, m₂) →
    same a₁ a₂ = true → r₁ = r₂
  numbers : ∀ {c₁ c₂ link₁ link₂}, l.links c₁ = some link₁ → l.links c₂ = some link₂ →
    link₁.number = link₂.number → c₁ = c₂
  owned : ∀ {c link}, l.links c = some link → ∃ a m, l.owners link.owner = some (a, m) ∧
    same a link.addr = true ∧ m link.port = some c
  backed : ∀ {r a m port c}, l.owners r = some (a, m) → m port = some c →
    ∃ link, l.links c = some link ∧ link.owner = r ∧ link.port = port

variable {same : α → α → Bool} {l : Links ρ γ α π ν} {r : ρ} {c : γ} {link : Link ρ α π ν}

/-- Two links for the same address and port are one. -/
theorem Linked.peers (linked : Linked same l) (symm : ∀ {a b}, same a b = true → same b a = true)
    (trans : ∀ {a b c}, same a b = true → same b c = true → same a c = true) {c₁ c₂ : γ} {link₁ link₂ : Link ρ α π ν}
    (first : l.links c₁ = some link₁) (second : l.links c₂ = some link₂) (addr : same link₁.addr link₂.addr = true)
    (port : link₁.port = link₂.port) : c₁ = c₂ := by
  obtain ⟨a₁, m₁, owner₁, same₁, entry₁⟩ := linked.owned first
  obtain ⟨a₂, m₂, owner₂, same₂, entry₂⟩ := linked.owned second
  have owners : link₁.owner = link₂.owner := linked.addrs owner₁ owner₂ (trans (trans same₁ addr) (symm same₂))
  rw [owners, owner₂] at owner₁
  have maps : m₂ = m₁ := (Prod.mk.inj (Option.some.inj owner₁)).2
  rw [port, ← maps, entry₂] at entry₁
  exact (Option.some.inj entry₁).symm

variable [DecidableEq ρ]

def addOwner (l : Links ρ γ α π ν) (r : ρ) (addr : α) : Links ρ γ α π ν :=
  { l with owners := Function.update l.owners r (some (addr, fun _ => none)) }

/-- An owner goes together with all its links. -/
def drop (l : Links ρ γ α π ν) (r : ρ) : Links ρ γ α π ν where
  owners := Function.update l.owners r none
  links c := (l.links c).filter (fun link => link.owner ≠ r)

/-- A new owner has an address that no other has. -/
theorem Linked.addOwner (linked : Linked same l) (symm : ∀ {a b}, same a b = true → same b a = true) {addr : α}
    (free : l.owners r = none) (fresh : ∀ {r' a m}, l.owners r' = some (a, m) → same a addr = false) :
    Linked same (l.addOwner r addr) := by
  have kept {r' : ρ} (other : r' ≠ r) : (l.addOwner r addr).owners r' = l.owners r' := Function.update_of_ne other _ _
  have new : (l.addOwner r addr).owners r = some (addr, fun _ => none) := Function.update_self _ _ _
  constructor
  · intro r₁ r₂ a₁ a₂ m₁ m₂ owner₁ owner₂ equal
    by_cases here₁ : r₁ = r
    · by_cases here₂ : r₂ = r
      · rw [here₁, here₂]
      · rw [here₁, new] at owner₁
        rw [kept here₂] at owner₂
        cases owner₁
        have other := fresh owner₂
        rw [symm equal] at other
        cases other
    · rw [kept here₁] at owner₁
      by_cases here₂ : r₂ = r
      · rw [here₂, new] at owner₂
        cases owner₂
        rw [fresh owner₁] at equal
        cases equal
      · rw [kept here₂] at owner₂
        exact linked.addrs owner₁ owner₂ equal
  · exact linked.numbers
  · intro c link known
    obtain ⟨a, m, owner, equal, entry⟩ := linked.owned known
    have other : link.owner ≠ r := by
      intro here
      rw [here, free] at owner
      cases owner
    exact ⟨a, m, by rw [kept other, owner], equal, entry⟩
  · intro r' a m port c owner entry
    by_cases here : r' = r
    · rw [here, new] at owner
      cases owner
      cases entry
    · rw [kept here] at owner
      exact linked.backed owner entry

theorem Linked.drop (linked : Linked same l) (r : ρ) : Linked same (l.drop r) := by
  have owned {r' : ρ} {owner : α × (π → Option γ)} :
      (l.drop r).owners r' = some owner ↔ r' ≠ r ∧ l.owners r' = some owner := by
    by_cases here : r' = r
    · simp [Links.drop, here]
    · simp [Links.drop, here]
  have known {c : γ} {link : Link ρ α π ν} : (l.drop r).links c = some link ↔ l.links c = some link ∧ link.owner ≠ r := by
    simp [Links.drop, Option.filter_eq_some_iff]
  constructor
  · intro r₁ r₂ a₁ a₂ m₁ m₂ left₁ left₂ equal
    exact linked.addrs (owned.mp left₁).2 (owned.mp left₂).2 equal
  · intro c₁ c₂ link₁ link₂ left₁ left₂ number
    exact linked.numbers (known.mp left₁).1 (known.mp left₂).1 number
  · intro c link left
    obtain ⟨before, other⟩ := known.mp left
    obtain ⟨a, m, owner, equal, entry⟩ := linked.owned before
    exact ⟨a, m, owned.mpr ⟨other, owner⟩, equal, entry⟩
  · intro r' a m port c left entry
    obtain ⟨other, owner⟩ := owned.mp left
    obtain ⟨link, before, sameOwner, samePort⟩ := linked.backed owner entry
    exact ⟨link, known.mpr ⟨before, by rw [sameOwner]; exact other⟩, sameOwner, samePort⟩

variable [DecidableEq π]

/-- The map of an owner with another entry under a port. -/
def setEntry (owners : ρ → Option (α × (π → Option γ))) (r : ρ) (port : π) (entry : Option γ) :
    ρ → Option (α × (π → Option γ)) :=
  Function.update owners r ((owners r).map (fun owner => (owner.1, Function.update owner.2 port entry)))

def bind [DecidableEq γ] (l : Links ρ γ α π ν) (c : γ) (link : Link ρ α π ν) : Links ρ γ α π ν where
  owners := setEntry l.owners link.owner link.port (some c)
  links := Function.update l.links c (some link)

def unbind [DecidableEq γ] (l : Links ρ γ α π ν) (c : γ) (link : Link ρ α π ν) : Links ρ γ α π ν where
  owners := setEntry l.owners link.owner link.port none
  links := Function.update l.links c none

/-- What the owners look like after one entry of one map has changed. -/
theorem setEntry_of_known {owners : ρ → Option (α × (π → Option γ))} {r' : ρ} {a : α} {m : π → Option γ}
    (known : owners r' = some (a, m)) (r : ρ) (port : π) (entry : Option γ) :
    ∃ m', setEntry owners r port entry r' = some (a, m') ∧
      ∀ p, m' p = if r' = r ∧ p = port then entry else m p := by
  by_cases here : r' = r
  · subst here
    refine ⟨Function.update m port entry, by simp [setEntry, known], fun p => ?_⟩
    simp [Function.update_apply]
  · exact ⟨m, by rw [setEntry, Function.update_of_ne here, known], by simp [here]⟩

theorem known_of_setEntry {owners : ρ → Option (α × (π → Option γ))} {r r' : ρ} {port : π} {entry : Option γ} {a : α}
    {m' : π → Option γ} (changed : setEntry owners r port entry r' = some (a, m')) :
    ∃ m, owners r' = some (a, m) ∧ ∀ p, m' p = if r' = r ∧ p = port then entry else m p := by
  have known : ∃ b m, owners r' = some (b, m) := by
    by_cases here : r' = r
    · subst here
      rw [setEntry, Function.update_self] at changed
      obtain ⟨⟨b, m⟩, before, _⟩ := Option.map_eq_some_iff.mp changed
      exact ⟨b, m, before⟩
    · rw [setEntry, Function.update_of_ne here] at changed
      exact ⟨a, m', changed⟩
  obtain ⟨b, m, known⟩ := known
  obtain ⟨m'', after, entries⟩ := setEntry_of_known known r port entry
  rw [after] at changed
  cases changed
  exact ⟨m, known, entries⟩

variable [DecidableEq γ]

/-- A new link has a number that no other has, and a port that its owner does not use. -/
theorem Linked.bind (linked : Linked same l) (free : l.links c = none)
    (fresh : ∀ {c' link'}, l.links c' = some link' → link'.number ≠ link.number) {a : α} {m : π → Option γ}
    (owner : l.owners link.owner = some (a, m)) (equal : same a link.addr = true) (unused : m link.port = none) :
    Linked same (l.bind c link) := by
  have kept {c' : γ} (other : c' ≠ c) : (l.bind c link).links c' = l.links c' := Function.update_of_ne other _ _
  have new : (l.bind c link).links c = some link := Function.update_self _ _ _
  constructor
  · intro r₁ r₂ a₁ a₂ m₁ m₂ owner₁ owner₂ equal
    obtain ⟨_, before₁, _⟩ := known_of_setEntry owner₁
    obtain ⟨_, before₂, _⟩ := known_of_setEntry owner₂
    exact linked.addrs before₁ before₂ equal
  · intro c₁ c₂ link₁ link₂ known₁ known₂ number
    by_cases here₁ : c₁ = c
    · by_cases here₂ : c₂ = c
      · rw [here₁, here₂]
      · rw [here₁, new] at known₁
        rw [kept here₂] at known₂
        cases known₁
        exact absurd number.symm (fresh known₂)
    · rw [kept here₁] at known₁
      by_cases here₂ : c₂ = c
      · rw [here₂, new] at known₂
        cases known₂
        exact absurd number (fresh known₁)
      · rw [kept here₂] at known₂
        exact linked.numbers known₁ known₂ number
  · intro c' link' known
    by_cases here : c' = c
    · rw [here, new] at known
      cases known
      obtain ⟨m', after, entries⟩ := setEntry_of_known owner link.owner link.port (some c)
      exact ⟨a, m', after, equal, by rw [entries, if_pos ⟨rfl, rfl⟩, here]⟩
    · rw [kept here] at known
      obtain ⟨a', m', owner', equal', entry'⟩ := linked.owned known
      obtain ⟨m'', after, entries⟩ := setEntry_of_known owner' link.owner link.port (some c)
      refine ⟨a', m'', after, equal', ?_⟩
      have other : ¬ (link'.owner = link.owner ∧ link'.port = link.port) := by
        rintro ⟨sameOwner, samePort⟩
        rw [sameOwner, owner] at owner'
        cases owner'
        rw [samePort, unused] at entry'
        cases entry'
      rw [entries, if_neg other, entry']
  · intro r' a' m' port c' owner' entry
    obtain ⟨m'', before, entries⟩ := known_of_setEntry owner'
    rw [entries] at entry
    split at entry
    · rename_i here
      cases entry
      exact ⟨link, new, here.1.symm, here.2.symm⟩
    · obtain ⟨link', known, sameOwner, samePort⟩ := linked.backed before entry
      have other : c' ≠ c := by
        intro here
        rw [here, free] at known
        cases known
      exact ⟨link', by rw [kept other, known], sameOwner, samePort⟩

theorem Linked.unbind (linked : Linked same l) (known : l.links c = some link) : Linked same (l.unbind c link) := by
  have kept {c' : γ} (other : c' ≠ c) : (l.unbind c link).links c' = l.links c' := Function.update_of_ne other _ _
  have gone : (l.unbind c link).links c = none := Function.update_self _ _ _
  have before {c' : γ} {link' : Link ρ α π ν} (left : (l.unbind c link).links c' = some link') :
      c' ≠ c ∧ l.links c' = some link' := by
    by_cases here : c' = c
    · rw [here, gone] at left
      cases left
    · rw [kept here] at left
      exact ⟨here, left⟩
  constructor
  · intro r₁ r₂ a₁ a₂ m₁ m₂ owner₁ owner₂ equal
    obtain ⟨_, before₁, _⟩ := known_of_setEntry owner₁
    obtain ⟨_, before₂, _⟩ := known_of_setEntry owner₂
    exact linked.addrs before₁ before₂ equal
  · intro c₁ c₂ link₁ link₂ left₁ left₂ number
    exact linked.numbers (before left₁).2 (before left₂).2 number
  · intro c' link' left
    obtain ⟨other, known'⟩ := before left
    obtain ⟨a, m, owner, equal, entry⟩ := linked.owned known
    obtain ⟨a', m', owner', equal', entry'⟩ := linked.owned known'
    obtain ⟨m'', after, entries⟩ := setEntry_of_known owner' link.owner link.port none
    refine ⟨a', m'', after, equal', ?_⟩
    have apart : ¬ (link'.owner = link.owner ∧ link'.port = link.port) := by
      rintro ⟨sameOwner, samePort⟩
      rw [sameOwner, owner] at owner'
      cases owner'
      rw [samePort, entry] at entry'
      exact other (Option.some.inj entry').symm
    rw [entries, if_neg apart, entry']
  · intro r' a' m' port c' owner' entry
    obtain ⟨m'', owned, entries⟩ := known_of_setEntry owner'
    rw [entries] at entry
    split at entry
    · cases entry
    · rename_i apart
      obtain ⟨link', known', sameOwner, samePort⟩ := linked.backed owned entry
      have other : c' ≠ c := by
        intro here
        rw [here, known] at known'
        cases known'
        exact apart ⟨sameOwner.symm, samePort.symm⟩
      exact ⟨link', by rw [kept other, known'], sameOwner, samePort⟩

end Links
end TurnCluster
