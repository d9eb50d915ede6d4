import TurnCluster.Lib.BigEndian
import TurnCluster.Server.PeerAddr

namespace TurnCluster

/-- The bytes of an IP address as they go over the wire. -/
def IoaAddr.ipBytes (addr : IoaAddr) : List UInt8 :=
  match addr.family with
  | .inet => bytes32 addr.ip4
  | .inet6 => addr.ip6
  | .unspec => []

/-- An IPv4 or an IPv6 address. -/
structure IoaAddr.IsIp (addr : IoaAddr) : Prop where
  known : addr.family ≠ .unspec
  six : addr.ip6.length = 16

theorem number_bytes32 (x : UInt32) : number (bytes32 x) = (nswap32 x).toNat := by
  have bound := x.toNat_lt
  simp only [bytes32, number, List.length_cons, List.length_nil, nswap32_toNat, UInt8.toNat_ofNat']
  omega

theorem all_le_iff {a b : List UInt8} (long : a.length = 16) (long' : b.length = 16) :
    (List.range 16).all (fun i => decide (a.getD i 0 ≤ b.getD i 0)) = true ↔ List.Forall₂ (· ≤ ·) a b := by
  rw [List.forall₂_iff_get]
  simp only [List.all_eq_true, List.mem_range, decide_eq_true_eq, List.get_eq_getElem]
  constructor
  · intro order
    refine ⟨by omega, ?_⟩
    intro i inside inside'
    have here := order i (by omega)
    simpa [inside, inside'] using here
  · rintro ⟨_, order⟩ i inside
    have here := order i (by omega) (by omega)
    have first : i < a.length := by omega
    have second : i < b.length := by omega
    simpa [first, second] using here

variable {range : IpRange} {a b : IoaAddr}

theorem addrLessEq_inet (first : a.family = .inet) (second : b.family = .inet) :
    addrLessEq a b = true ↔ number a.ipBytes ≤ number b.ipBytes := by
  unfold addrLessEq IoaAddr.ipBytes
  rw [first, second, if_neg (by simp)]
  simp only [decide_eq_true_eq, number_bytes32, UInt32.le_iff_toNat_le]

theorem addrLessEq_inet6 (ip : a.IsIp) (ip' : b.IsIp) (first : a.family = .inet6) (second : b.family = .inet6) :
    addrLessEq a b = true ↔ List.Forall₂ (· ≤ ·) a.ipBytes b.ipBytes := by
  unfold addrLessEq IoaAddr.ipBytes
  rw [first, second, if_neg (by simp)]
  exact all_le_iff ip.six ip'.six

/-- A range as `add_ip_list_range` stores it, with two addresses of one family that are not zero. -/
structure IpRange.Stored (range : IpRange) : Prop where
  minIp : range.min.IsIp
  maxIp : range.max.IsIp
  family : range.min.family = range.max.family
  minSet : addrAnyNoPort range.min = false
  maxSet : addrAnyNoPort range.max = false

/-- The address lies in the range as a number of 32 or 128 bits. -/
def IpRange.Spans (range : IpRange) (a : IoaAddr) : Prop :=
  a.family = range.min.family ∧ InInterval range.min.ipBytes range.max.ipBytes a.ipBytes

theorem addrAny_of_set {addr : IoaAddr} (set : addrAnyNoPort addr = false) : addrAny addr = false := by
  unfold addrAnyNoPort at set
  unfold addrAny
  cases family : addr.family with
  | unspec => simp [family] at set
  | inet =>
    simp only [family] at set
    simp [set]
  | inet6 =>
    simp only [family] at set
    simp [set]

theorem IpRange.Stored.inRange (stored : range.Stored) (a : IoaAddr) :
    ioaAddrInRange range a = true ↔ addrLessEq range.min a = true ∧ addrLessEq a range.max = true := by
  unfold ioaAddrInRange
  rw [addrAny_of_set stored.minSet, addrAny_of_set stored.maxSet, Bool.false_or, Bool.false_or, Bool.and_eq_true]

/-- Families are ordered too, so an address of the other one is not above the one bound and below the other. -/
theorem IpRange.Stored.family_of_inRange (stored : range.Stored) (member : ioaAddrInRange range a = true) :
    a.family = range.min.family := by
  by_contra other
  obtain ⟨above, below⟩ := (stored.inRange a).mp member
  unfold addrLessEq at above below
  rw [if_pos (Ne.symm other), decide_eq_true_eq] at above
  rw [← stored.family, if_pos other, decide_eq_true_eq] at below
  omega

theorem IpRange.Stored.spans_of_inet (stored : range.Stored) (four : range.min.family = .inet) (a : IoaAddr) :
    ioaAddrInRange range a = true ↔ range.Spans a := by
  have four' : range.max.family = .inet := stored.family.symm.trans four
  constructor
  · intro member
    have family := stored.family_of_inRange member
    obtain ⟨above, below⟩ := (stored.inRange a).mp member
    exact ⟨family, (addrLessEq_inet four (family.trans four)).mp above, (addrLessEq_inet (family.trans four) four').mp below⟩
  · rintro ⟨family, above, below⟩
    exact (stored.inRange a).mpr
      ⟨(addrLessEq_inet four (family.trans four)).mpr above, (addrLessEq_inet (family.trans four) four').mpr below⟩

theorem IpRange.Stored.inRange_iff_inBox (stored : range.Stored) (six : range.min.family = .inet6) (ip : a.IsIp) :
    ioaAddrInRange range a = true ↔
      a.family = range.min.family ∧ InBox range.min.ipBytes range.max.ipBytes a.ipBytes := by
  have six' : range.max.family = .inet6 := stored.family.symm.trans six
  constructor
  · intro member
    have family := stored.family_of_inRange member
    obtain ⟨above, below⟩ := (stored.inRange a).mp member
    exact ⟨family, (addrLessEq_inet6 stored.minIp ip six (family.trans six)).mp above,
      (addrLessEq_inet6 ip stored.maxIp (family.trans six) six').mp below⟩
  · rintro ⟨family, above, below⟩
    exact (stored.inRange a).mpr ⟨(addrLessEq_inet6 stored.minIp ip six (family.trans six)).mpr above,
      (addrLessEq_inet6 ip stored.maxIp (family.trans six) six').mpr below⟩

/-- For IPv4 membership in a range is numeric order. For IPv6, where every byte is compared on its own, it is so for
the ranges that are aligned, and only for them. -/
theorem range_is_numeric_iff {range : IpRange} (stored : range.Stored) :
    (∀ a : IoaAddr, a.IsIp → (ioaAddrInRange range a = true ↔ range.Spans a)) ↔
      (range.min.family = .inet6 → Aligned range.min.ip6 range.max.ip6) := by
  cases kind : range.min.family with
  | unspec => exact absurd kind stored.minIp.known
  | inet =>
    refine ⟨?_, ?_⟩
    · intro _ six
      cases six
    · intro _ a _
      exact stored.spans_of_inet kind a
  | inet6 =>
    have low : range.min.ipBytes = range.min.ip6 := by rw [IoaAddr.ipBytes, kind]
    have high : range.max.ipBytes = range.max.ip6 := by rw [IoaAddr.ipBytes, stored.family.symm.trans kind]
    have same : range.min.ip6.length = range.max.ip6.length := stored.minIp.six.trans stored.maxIp.six.symm
    rw [← inBox_iff_inInterval same]
    constructor
    · intro numeric _ bytes long
      -- every sixteen bytes are an address
      have ip : IoaAddr.IsIp ⟨.inet6, 0, 0, bytes⟩ := ⟨by simp, long.trans stored.minIp.six⟩
      have both := (stored.inRange_iff_inBox kind ip).symm.trans (numeric ⟨.inet6, 0, 0, bytes⟩ ip)
      rw [IpRange.Spans, low, high, kind] at both
      simpa [IoaAddr.ipBytes] using both
    · intro agree a ip
      rw [stored.inRange_iff_inBox kind ip, IpRange.Spans, low, high]
      apply and_congr_right
      intro family
      have bytes : a.ipBytes = a.ip6 := by rw [IoaAddr.ipBytes, family.trans kind]
      rw [bytes]
      exact agree rfl a.ip6 (ip.six.trans stored.minIp.six.symm)

/-- The range 2001:db8::-2001:db8:ffff:ffff:ffff:ffff:ffff:ffff. -/
def documentationRange : IpRange where
  realm := []
  min := ⟨.inet6, 0, 0, [0x20, 0x01, 0x0d, 0xb8] ++ List.replicate 12 0⟩
  max := ⟨.inet6, 0, 0, [0x20, 0x01, 0x0d, 0xb8] ++ List.replicate 12 255⟩

theorem range_is_numeric_iff_documentation :
    documentationRange.Stored ∧
      ∀ a : IoaAddr, a.IsIp → (ioaAddrInRange documentationRange a = true ↔ documentationRange.Spans a) := by
  have stored : documentationRange.Stored := ⟨⟨by decide, rfl⟩, ⟨by decide, rfl⟩, rfl, by decide, by decide⟩
  exact ⟨stored, (range_is_numeric_iff stored).mpr (fun _ => by simp [documentationRange, Aligned])⟩

/-- The range ::5-::100, which ::7 is not in. -/
theorem range_misses_address :
    let range : IpRange := ⟨[], ⟨.inet6, 0, 0, List.replicate 14 0 ++ [0, 5]⟩, ⟨.inet6, 0, 0, List.replicate 14 0 ++ [1, 0]⟩⟩
    let a : IoaAddr := ⟨.inet6, 0, 0, List.replicate 14 0 ++ [0, 7]⟩
    range.Stored ∧ a.IsIp ∧ range.Spans a ∧ ioaAddrInRange range a = false := by
  refine ⟨⟨⟨by decide, rfl⟩, ⟨by decide, rfl⟩, rfl, by decide, by decide⟩, ⟨by decide, rfl⟩, ⟨rfl, ?_, ?_⟩, by decide⟩
  · show number (List.replicate 14 0 ++ [0, 5]) ≤ number (List.replicate 14 0 ++ [0, 7])
    decide
  · show number (List.replicate 14 0 ++ [0, 7]) ≤ number (List.replicate 14 0 ++ [1, 0])
    decide

end TurnCluster
