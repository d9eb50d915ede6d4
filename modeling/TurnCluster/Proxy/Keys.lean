import TurnCluster.Lib.Decimal
import TurnCluster.Proxy.Header

namespace TurnCluster

open StunCustomHeader (decimal ip2string)

theorem isDigit_of_mem_decimal {n : Nat} {c : Char} (member : c ∈ decimal n) : c.isDigit = true :=
  Nat.isDigit_of_mem_toDigits (by decide) (by decide) member

theorem decimal_dot_inj {m n : Nat} {rest rest' : List Char}
    (same : decimal m ++ '.' :: rest = decimal n ++ '.' :: rest') : m = n ∧ rest = rest' := by
  have dot : ¬ ('.' : Char).isDigit = true := by decide
  obtain ⟨digits, behind⟩ := append_cons_inj (P := fun c : Char => c.isDigit = true) dot
    (fun _ member => isDigit_of_mem_decimal member) (fun _ member => isDigit_of_mem_decimal member) same
  exact ⟨toDigits_inj digits, behind⟩

/-- Two keys are equal when the first three bytes agree, and the digits of the last byte and the port
behind one another. -/
theorem addrKey_eq_iff {ip₁ ip₂ : UInt32} {port₁ port₂ : UInt16} :
    addrKey ip₁ port₁ = addrKey ip₂ port₂ ↔ ip₁.toNat % 16777216 = ip₂.toNat % 16777216 ∧
      Nat.toDigits 10 (ip₁.toNat / 16777216) ++ Nat.toDigits 10 port₁.toNat =
        Nat.toDigits 10 (ip₂.toNat / 16777216) ++ Nat.toDigits 10 port₂.toNat := by
  unfold addrKey ip2string
  simp only [List.append_assoc, List.cons_append]
  constructor
  · intro same
    obtain ⟨b0, same⟩ := decimal_dot_inj same
    obtain ⟨b1, same⟩ := decimal_dot_inj same
    obtain ⟨b2, same⟩ := decimal_dot_inj same
    exact ⟨by omega, same⟩
  · rintro ⟨bytes, same⟩
    have b0 : ip₁.toNat % 256 = ip₂.toNat % 256 := by omega
    have b1 : ip₁.toNat / 256 % 256 = ip₂.toNat / 256 % 256 := by omega
    have b2 : ip₁.toNat / 65536 % 256 = ip₂.toNat / 65536 % 256 := by omega
    rw [b0, b1, b2]
    simp only [decimal, same]

theorem addrKey_zero_iff (ip : UInt32) (port : UInt16) : addrKey ip port = addrKey 0 0 ↔ ip = 0 ∧ port = 0 := by
  constructor
  · intro same
    obtain ⟨bytes, digits⟩ := addrKey_eq_iff.mp same
    have apart := (append_digits_inj_iff (ip.toNat / 16777216) port.toNat 0 0).mpr
      ⟨fun ⟨_, _, positive, front, _⟩ => by omega, fun ⟨positive, _⟩ => absurd positive (by omega)⟩
    obtain ⟨last, portZero⟩ := apart digits
    have zero : (0 : UInt32).toNat = 0 := rfl
    exact ⟨UInt32.toNat_inj.mp (by omega), UInt16.toNat_inj.mp portZero⟩
  · rintro ⟨rfl, rfl⟩
    rfl

/-- The addresses differ in their last byte only, and digits of the first port read as digits of that byte. -/
def KeySpills (ip₁ : UInt32) (port₁ : UInt16) (ip₂ : UInt32) (port₂ : UInt16) : Prop :=
  ip₁.toNat % 16777216 = ip₂.toNat % 16777216 ∧
    Spills (ip₁.toNat / 16777216) port₁.toNat (ip₂.toNat / 16777216) port₂.toNat

/-- The keys of two addresses tell them apart, unless digits of a port spill into the address. -/
theorem addr_keys_injective_iff (ip₁ ip₂ : UInt32) (port₁ port₂ : UInt16) :
    (addrKey ip₁ port₁ = addrKey ip₂ port₂ → ip₁ = ip₂ ∧ port₁ = port₂) ↔
      ¬ KeySpills ip₁ port₁ ip₂ port₂ ∧ ¬ KeySpills ip₂ port₂ ip₁ port₁ := by
  by_cases bytes : ip₁.toNat % 16777216 = ip₂.toNat % 16777216
  · have inj := append_digits_inj_iff (ip₁.toNat / 16777216) port₁.toNat (ip₂.toNat / 16777216) port₂.toNat
    have whole : ip₁ = ip₂ ∧ port₁ = port₂ ↔
        ip₁.toNat / 16777216 = ip₂.toNat / 16777216 ∧ port₁.toNat = port₂.toNat := by
      rw [← UInt32.toNat_inj, ← UInt16.toNat_inj]
      omega
    rw [addrKey_eq_iff, whole, KeySpills, KeySpills]
    simpa [bytes] using inj
  · have apart : ¬ addrKey ip₁ port₁ = addrKey ip₂ port₂ := fun same => bytes (addrKey_eq_iff.mp same).1
    exact ⟨fun _ => ⟨fun spills => bytes spills.1, fun spills => bytes spills.1.symm⟩, fun _ same => absurd same apart⟩

/-- 1.2.3.4 with port 56 and 1.2.3.45 with port 6. -/
theorem addr_keys_collide :
    addrKey 0x04030201 56 = addrKey 0x2D030201 6 ∧ (0x04030201 : UInt32) ≠ 0x2D030201 ∧ (56 : UInt16) ≠ 6 := by
  refine ⟨?_, by decide, by decide⟩
  decide

end TurnCluster
