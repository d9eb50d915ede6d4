import Mathlib.Data.List.Pairwise
import TurnCluster.Relay.Writing

namespace TurnCluster

/-- What `stun_attr_add_addr_str` returns. -/
def stunAttrAddAddrReturns (mapping : AddrMapping) (b : StunBuffer) (pos len : Nat) (attr : UInt16) (ca : IoaAddr) :
    Int :=
  match stunAddrEncode (mapAddrFromPrivateToPublic mapping ca) (stunXorEd attr)
      (stunTidFromMessageStr (b.view pos)) with
  | none => -1
  | some cfield => stunAttrAddReturns b pos len cfield

/-- Pairs of IPv4 or IPv6 addresses, no two with the same public and no two with the same private IP. -/
structure AddrMapping.Proper (mapping : AddrMapping) : Prop where
  known : ∀ pair ∈ mapping, pair.1.family ≠ .unspec ∧ pair.1.ip6.length = 16
  publics : mapping.Pairwise (fun pair other => addrEqNoPort pair.1 other.1 = false)
  privates : mapping.Pairwise (fun pair other => addrEqNoPort pair.2 other.2 = false)

section Mapping

variable {mapping : AddrMapping} {a publicAddr : IoaAddr}

theorem AddrMapping.Proper.unique (proper : mapping.Proper) {pair other : IoaAddr × IoaAddr} (first : pair ∈ mapping)
    (second : other ∈ mapping) (same : addrEqNoPort pair.1 other.1 = true) : pair = other := by
  have symmetric : Std.Symm (fun pair other : IoaAddr × IoaAddr => addrEqNoPort pair.1 other.1 = false) :=
    ⟨fun p q apart => Bool.eq_false_iff.mpr fun equal => Bool.eq_false_iff.mp apart (addrEqNoPort_symm equal)⟩
  by_contra differs
  have apart := proper.publics.forall first second differs
  rw [same] at apart
  cases apart

theorem find_none_of_unlisted {other : IoaAddr} (unlisted : ∀ pair ∈ mapping, addrEqNoPort a pair.1 = false)
    (same : addrEqNoPort other a = true) : mapping.find? (fun pair => addrEqNoPort other pair.1) = none := by
  refine List.find?_eq_none.mpr ?_
  intro pair member equal
  have matched := addrEqNoPort_trans (addrEqNoPort_symm same) equal
  rw [unlisted pair member] at matched
  cases matched

theorem AddrMapping.Proper.find_public (proper : mapping.Proper) {pair : IoaAddr × IoaAddr} (member : pair ∈ mapping)
    (ip : addrEqNoPort publicAddr pair.1 = true) :
    mapping.find? (fun other => addrEqNoPort publicAddr other.1) = some pair := by
  cases found : mapping.find? (fun other => addrEqNoPort publicAddr other.1) with
  | none => exact absurd ip (List.find?_eq_none.mp found pair member)
  | some other =>
    have equal := List.find?_some found
    rw [proper.unique member (List.mem_of_find?_eq_some found) (addrEqNoPort_trans (addrEqNoPort_symm ip) equal)]

theorem mapAddr_roundTrip (proper : mapping.Proper) (known : a.family ≠ .unspec)
    (listed : (∃ pair ∈ mapping, addrEqNoPort a pair.2 = true) ∨ ∀ pair ∈ mapping, addrEqNoPort a pair.1 = false)
    (same : addrEq publicAddr (mapAddrFromPrivateToPublic mapping a) = true) :
    addrEq (mapAddrFromPublicToPrivate mapping publicAddr) a = true := by
  unfold mapAddrFromPrivateToPublic at same
  cases found : mapping.find? (fun pair => addrEqNoPort a pair.2) with
  | none =>
    -- the address is not a listed private one, so it is sent as it is and must not be a listed public one
    have unlisted : ∀ pair ∈ mapping, addrEqNoPort a pair.1 = false := by
      rcases listed with ⟨pair, member, equal⟩ | unlisted
      · exact absurd equal (List.find?_eq_none.mp found pair member)
      · exact unlisted
    rw [found] at same
    have none := find_none_of_unlisted unlisted (addrEqNoPort_of_addrEq same).1
    simp only [mapAddrFromPublicToPrivate, none]
    exact same
  | some pair =>
    have member := List.mem_of_find?_eq_some found
    have matched := List.find?_some found
    rw [found] at same
    obtain ⟨ip, port⟩ := addrEqNoPort_of_addrEq same
    rw [addrEqNoPort_setPort] at ip
    rw [addrGetPort_setPort (proper.known pair member).1] at port
    have privateKnown : pair.2.family ≠ .unspec := by
      rw [← (addrEqNoPort_iff.mp matched).2.1]
      exact known
    simp only [mapAddrFromPublicToPrivate, proper.find_public member ip]
    apply addrEq_of_noPort
    · apply addrEqNoPort_symm
      rw [addrEqNoPort_setPort]
      exact matched
    · rw [addrGetPort_setPort privateKnown, port]

theorem mapAddrFromPrivateToPublic_known (proper : mapping.Proper) (known : a.family ≠ .unspec)
    (six : a.ip6.length = 16) :
    (mapAddrFromPrivateToPublic mapping a).family ≠ .unspec ∧ (mapAddrFromPrivateToPublic mapping a).ip6.length = 16 := by
  unfold mapAddrFromPrivateToPublic
  cases found : mapping.find? (fun pair => addrEqNoPort a pair.2) with
  | none => exact ⟨known, six⟩
  | some pair =>
    have entry := proper.known pair (List.mem_of_find?_eq_some found)
    dsimp only
    refine ⟨?_, ?_⟩
    · rw [addrSetPort_family]
      exact entry.1
    · unfold addrSetPort
      split <;> exact entry.2

end Mapping

/-- An address that was appended to a message under any type of attribute is read back from that attribute, whatever
address mapping is in use. -/
theorem addr_attr_round_trip {mapping : AddrMapping} (proper : mapping.Proper) {b : StunBuffer} {pos len : Nat}
    (message : MessageAt b pos len) (attr : UInt16) {a : IoaAddr} (known : a.family ≠ .unspec) (six : a.ip6.length = 16)
    (listed : (∃ pair ∈ mapping, addrEqNoPort a pair.2 = true) ∨ ∀ pair ∈ mapping, addrEqNoPort a pair.1 = false)
    (appended : stunAttrAddAddrReturns mapping b pos len attr a = 0) :
    ∃ addr, stunAttrGetAddrStr mapping ((stunAttrAddAddrStr mapping b pos len attr a).1.view pos) len none = some addr ∧
      addrEq addr a = true := by
  obtain ⟨cfield, encoded, _, added⟩ := stunAttrAddAddrStr_eq mapping b pos len attr a
  have room : grownLength len cfield.length < maxStunMessageSize := by
    simp only [stunAttrAddAddrReturns, encoded, message.addReturns] at appended
    by_contra full
    rw [if_pos (Nat.not_lt.mp full)] at appended
    cases appended
  have extended := stunAttrAddBytes_extended message attr cfield
  have long : 20 ≤ len := message.1
  have tid := extended.same.tid (by omega)
  have there := stunAttrAddBytes_attrAt message attr room
  obtain ⟨publicKnown, publicSix⟩ := mapAddrFromPrivateToPublic_known proper known six
  rw [← tid] at encoded
  obtain ⟨addr, same, read⟩ := there.decoded encoded publicKnown publicSix
  rw [added]
  exact ⟨_, read mapping, mapAddr_roundTrip proper known listed same⟩

/-- 10.0.0.1 is seen from outside as 5.6.7.8. -/
def exampleMapping : AddrMapping := [(.inet 0x08070605 0, .inet 0x0100000A 0)]

/-- An address behind the mapping, in the MAPPED-ADDRESS of an empty message. -/
theorem addr_attr_round_trip_mapped :
    let b := (stunInitCommandStr 0x0101 .ioaNetworkBufferAllocate 18 (List.replicate 12 7)).1
    let a := IoaAddr.inet 0x0100000A 5000
    stunAttrAddAddrReturns exampleMapping b 18 20 0x0001 a = 0 ∧
      ∃ addr, stunAttrGetAddrStr exampleMapping
          ((stunAttrAddAddrStr exampleMapping b 18 20 0x0001 a).1.view 18) 20 none = some addr ∧
        addrEq addr a = true := by
  have appended : stunAttrAddAddrReturns exampleMapping
      (stunInitCommandStr 0x0101 .ioaNetworkBufferAllocate 18 (List.replicate 12 7)).1 18 20 0x0001
      (.inet 0x0100000A 5000) = 0 := by decide
  have proper : exampleMapping.Proper := ⟨by decide, by decide, by decide⟩
  exact ⟨appended, addr_attr_round_trip proper (stunInitCommandStr_message _ _ _ _) _ (by decide) (by decide)
    (Or.inl (by decide)) appended⟩

end TurnCluster
