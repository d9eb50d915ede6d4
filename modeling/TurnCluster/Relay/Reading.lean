import TurnCluster.Relay.Building

namespace TurnCluster

/-- An attribute with this value stands `place` bytes into the message at `pos`. -/
structure AttrAt (b : StunBuffer) (pos place : Nat) (attr : UInt16) (value : List UInt8) : Prop where
  attrType : stunAttrGetType (b.view pos) place = attr
  length : stunAttrGetLen (b.view pos) place = value.length
  value : b.mem.byte.slice (pos + place + 4) value.length = value

theorem StunBuffer.write_byte {b : StunBuffer} {pos i : Nat} {bytes : List UInt8} (inside : i < bytes.length) :
    (b.write pos bytes).mem.byte (pos + i) = bytes.getD i 0 := by
  simp [StunBuffer.write, Traced.write, inside]

theorem StunBuffer.write_slice (b : StunBuffer) (pos : Nat) (bytes : List UInt8) :
    (b.write pos bytes).mem.byte.slice pos bytes.length = bytes := by
  apply List.ext_getElem
  · rw [Memory.length_slice]
  · intro i inside _
    rw [Memory.length_slice] at inside
    have read := @StunBuffer.write_byte b pos i bytes inside
    simp only [Memory.slice, List.getElem_map, List.getElem_range]
    rw [read, List.getD_eq_getElem?_getD, List.getElem?_eq_getElem inside, Option.getD_some]

theorem view_slice (b : StunBuffer) (pos start len : Nat) :
    (b.view pos).slice start len = b.mem.byte.slice (pos + start) len := by
  apply Memory.slice_congr
  intro i _
  show b.mem.byte (pos + (start + i)) = b.mem.byte (pos + start + i)
  rw [Nat.add_assoc]

variable {b b' : StunBuffer} {pos place lo len : Nat} {cfield old value : List UInt8} (nsCrc32 : List UInt8 → UInt32)
  {hi : Nat} {peer : IoaAddr}

theorem SameBetween.slice (same : SameBetween b b' lo hi) (above : lo ≤ pos) (below : pos + len ≤ hi) :
    b'.mem.byte.slice pos len = b.mem.byte.slice pos len := by
  apply Memory.slice_congr
  intro i inside
  exact (same (pos + i) (by omega) (by omega)).1

theorem SameBetween.net16 {i : Nat} (same : SameBetween b b' lo hi) (above : lo ≤ pos + i) (below : pos + i + 2 ≤ hi) :
    net16 (b'.view pos) i = TurnCluster.net16 (b.view pos) i :=
  net16_congr (same (pos + i) above (by omega)).1 (same (pos + (i + 1)) (by omega) (by omega)).1

theorem SameBetween.tid (same : SameBetween b b' (pos + 4) hi) (below : pos + 20 ≤ hi) :
    stunTidFromMessageStr (b'.view pos) = stunTidFromMessageStr (b.view pos) := by
  unfold stunTidFromMessageStr
  rw [view_slice, view_slice]
  exact same.slice (by omega) (show pos + 8 + 12 ≤ hi by omega)

theorem SameBetween.cookie (same : SameBetween b b' (pos + 4) hi) (below : pos + 20 ≤ hi) :
    net32 (b'.view pos) 4 = net32 (b.view pos) 4 := by
  apply net32_congr
  intro j inside
  exact (same (pos + (4 + j)) (by omega) (by omega)).1

theorem AttrAt.of_head {attr : UInt16} (attrType : stunAttrGetType (b.view pos) place = attr)
    (length : stunAttrGetLen (b.view pos) place = value.length)
    (same : SameBetween b b' (pos + place) (pos + place + 4))
    (bytes : b'.mem.byte.slice (pos + place + 4) value.length = value) : AttrAt b' pos place attr value where
  attrType := (same.net16 (le_refl _) (by omega)).trans attrType
  length := by
    have word : net16 (b'.view pos) (place + 2) = net16 (b.view pos) (place + 2) :=
      same.net16 (by omega) (by omega)
    exact (congrArg UInt16.toNat word).trans length
  value := bytes

/-- An attribute stays as long as its bytes do. -/
theorem AttrAt.of_same {attr : UInt16} (there : AttrAt b pos place attr value) (same : SameBetween b b' lo hi)
    (above : lo ≤ pos + place) (below : pos + place + 4 + value.length ≤ hi) : AttrAt b' pos place attr value := by
  refine .of_head there.attrType there.length (same.mono above (by omega)) ?_
  rw [same.slice (by omega) below]
  exact there.value

theorem net16_of_bytes {m : Memory} {i : Nat} {x : UInt16} (low : m i = UInt8.ofNat (nswap16 x).toNat)
    (high : m (i + 1) = UInt8.ofNat ((nswap16 x).toNat / 256)) : net16 m i = x := by
  rw [net16, le16_of_bytes low high, nswap16_nswap16]

theorem head_reads (b : StunBuffer) (pos : Nat) (attr : UInt16) {alen : Nat} (short : alen < 65536)
    (place newlen : Nat) :
    stunAttrGetType ((stunAttrHead b pos attr alen (pos + place) newlen).view pos) place = attr ∧
      stunAttrGetLen ((stunAttrHead b pos attr alen (pos + place) newlen).view pos) place = alen := by
  have size : (max (alen : Int) 0).toNat = alen := by omega
  unfold stunAttrHead
  dsimp only
  rw [size]
  generalize (if newlen < stunHeaderLength then b
    else b.write (pos + 2) (bytes16 (nswap16 (UInt16.ofNat (newlen - stunHeaderLength))))) = announced
  generalize header : bytes16 (nswap16 attr) ++ bytes16 (nswap16 (UInt16.ofNat alen)) = bytes
  have four : bytes.length = 4 := by rw [← header]; rfl
  have byte (i : Nat) (inside : i < 4) :
      ((announced.write (pos + place) bytes).view pos) (place + i) = bytes.getD i 0 := by
    have read := @StunBuffer.write_byte announced (pos + place) i bytes (by omega)
    rw [Nat.add_assoc] at read
    exact read
  constructor
  · apply net16_of_bytes
    · have read := byte 0 (by omega)
      rw [← header] at read ⊢
      exact read
    · have read := byte 1 (by omega)
      rw [← header] at read ⊢
      exact read
  · have word : net16 ((announced.write (pos + place) bytes).view pos) (place + 2) = UInt16.ofNat alen := by
      apply net16_of_bytes
      · have read := byte 2 (by omega)
        rw [← header] at read ⊢
        exact read
      · have read := byte 3 (by omega)
        rw [← header] at read ⊢
        exact read
    unfold stunAttrGetLen
    rw [word, UInt16.toNat_ofNat', Nat.mod_eq_of_lt short]

theorem stunAttrAddBytes_attrAt (message : MessageAt b pos len) (attr : UInt16)
    (room : grownLength len value.length < maxStunMessageSize) :
    AttrAt (stunAttrAddBytes b pos len attr value).1 pos len attr value := by
  have limit : maxStunMessageSize = 65507 := rfl
  have grown := le_grownLength len value.length
  obtain ⟨attrType, length⟩ := head_reads b pos attr (show value.length < 65536 by omega) len
    (grownLength len value.length)
  unfold stunAttrAddBytes
  rw [message.room, if_neg (by omega)]
  exact .of_head attrType length (StunBuffer.write_same (Or.inl (le_refl _))) (StunBuffer.write_slice _ _ _)

theorem copy_slice (b : StunBuffer) (dpos : Nat) (src : Traced) (spos len : Nat) :
    ({ b with mem := b.mem.copy dpos src spos len } : StunBuffer).mem.byte.slice dpos len =
      src.byte.slice spos len := by
  apply Memory.slice_congr
  intro i inside
  simp [Traced.copy, inside]

theorem stunAttrAddStr_attrAt (message : MessageAt b pos len) (attr : UInt16) (src : StunBuffer) (spos : Nat)
    (bytes : src.mem.byte.slice spos value.length = value) (room : grownLength len value.length < maxStunMessageSize) :
    AttrAt (stunAttrAddStr b pos len attr src spos value.length).1 pos len attr value := by
  have limit : maxStunMessageSize = 65507 := rfl
  have grown := le_grownLength len value.length
  have size : (max (value.length : Int) 0).toNat = value.length := by omega
  obtain ⟨attrType, length⟩ := head_reads b pos attr (show value.length < 65536 by omega) len
    (grownLength len value.length)
  unfold stunAttrAddStr
  rw [message.room, if_neg (by omega)]
  dsimp only
  rw [size]
  refine .of_head attrType length (copy_same (Or.inl (le_refl _))) ?_
  rw [copy_slice]
  exact bytes

theorem stunAttrAddBytes_overwrite (message : MessageAt b pos len) (attr : UInt16) (same : old.length = value.length)
    (fits : grownLength len value.length < maxStunMessageSize) :
    (stunAttrAddBytes b pos len attr old).1.write (pos + len + 4) value = (stunAttrAddBytes b pos len attr value).1 := by
  rw [stunAttrAddBytes_eq message attr fits, stunAttrAddBytes_eq message attr (by rw [same]; exact fits), same]
  exact StunBuffer.write_write _ _ same

theorem stunAttrAddBytes_before (message : MessageAt b pos len) (attr : UInt16) (same : old.length = value.length)
    (fits : grownLength len value.length < maxStunMessageSize) :
    ((stunAttrAddBytes b pos len attr value).1.view pos).slice 0 len =
      ((stunAttrAddBytes b pos len attr old).1.view pos).slice 0 len := by
  rw [← stunAttrAddBytes_overwrite message attr same fits, view_slice, view_slice]
  exact (StunBuffer.write_same (Or.inl (show pos + 0 + len ≤ pos + len + 4 by omega))).slice (le_refl _) (le_refl _)

theorem stunAttrAddBytes_same_type (message : MessageAt b pos len) (attr : UInt16) (value : List UInt8) :
    SameBetween b (stunAttrAddBytes b pos len attr value).1 pos (pos + 2) := by
  have long : 20 ≤ len := message.1
  unfold stunAttrAddBytes
  rw [message.room]
  by_cases full : maxStunMessageSize ≤ grownLength len value.length
  · rw [if_pos full]
    exact .refl _ _ _
  · rw [if_neg full]
    exact (head_same attr _ (Or.inl (le_refl _)) (by omega)).trans (StunBuffer.write_same (by omega))

theorem stunAttrAddStr_same {b : StunBuffer} {pos len alen : Nat} (message : MessageAt b pos len) (attr : UInt16)
    (src : StunBuffer) (spos : Nat) (room : grownLength len alen < maxStunMessageSize) {lo hi : Nat}
    (field : hi ≤ pos + 2 ∨ pos + 4 ≤ lo) (inside : hi ≤ pos + len) :
    SameBetween b (stunAttrAddStr b pos len attr src spos alen).1 lo hi := by
  unfold stunAttrAddStr
  rw [message.room, if_neg (by omega)]
  exact (head_same attr _ field inside).trans (copy_same (by omega))

theorem stunAttrAddFingerprintStr_same_type (message : MessageAt b pos len) :
    SameBetween b (stunAttrAddFingerprintStr nsCrc32 b pos len).1 pos (pos + 2) := by
  have long : 20 ≤ len := message.1
  have grown := (stunAttrAddBytes_extended message stunAttributeFingerprint [0, 0, 0, 0]).grown
  have place : pos + 2 ≤ pos + (stunAttrAddBytes b pos len stunAttributeFingerprint [0, 0, 0, 0]).2 - 4 := by omega
  exact (stunAttrAddBytes_same_type message stunAttributeFingerprint [0, 0, 0, 0]).trans
    (StunBuffer.write_same (Or.inl place))

theorem stunAttrAddFingerprintStr_room (message : MessageAt b pos len) (room : grownLength len 4 < maxStunMessageSize) :
    Extended b pos len (stunAttrAddFingerprintStr nsCrc32 b pos len).1
      (stunAttrAddFingerprintStr nsCrc32 b pos len).2 := by
  have long : 20 ≤ len := message.1
  have extended := stunAttrAddBytes_extended message stunAttributeFingerprint [0, 0, 0, 0]
  have length := stunAttrAddBytes_length message stunAttributeFingerprint [0, 0, 0, 0] room
  have grown := le_grownLength len 4
  have place : pos + len ≤ pos + (stunAttrAddBytes b pos len stunAttributeFingerprint [0, 0, 0, 0]).2 - 4 := by
    rw [length]
    show pos + len ≤ pos + grownLength len 4 - 4
    omega
  exact extended.write (by omega) place _

theorem AttrAt.decoded {attr : UInt16} (there : AttrAt b pos place attr cfield)
    (encoded : stunAddrEncode peer (stunXorEd attr) (stunTidFromMessageStr (b.view pos)) = some cfield)
    (known : peer.family ≠ .unspec) (six : peer.ip6.length = 16) :
    ∃ addr, addrEq addr peer = true ∧ ∀ mapping, stunAttrGetAddrStr mapping (b.view pos) place none =
      some (mapAddrFromPublicToPrivate mapping addr) := by
  have bytes : ((b.view pos).shift (place + 4)).slice 0 cfield.length = cfield := by
    refine Eq.trans ?_ there.value
    apply Memory.slice_congr
    intro i _
    show b.mem.byte (pos + (place + 4 + (0 + i))) = b.mem.byte (pos + place + 4 + i)
    congr 1
    omega
  have tid : (stunTidFromMessageStr (b.view pos)).length = 12 := Memory.length_slice _ _ _
  obtain ⟨addr, decoded, same⟩ := stunAddrDecode_encode known six tid encoded bytes
  obtain ⟨_, again, positive⟩ := stunAddrEncode_some peer (stunXorEd attr) (stunTidFromMessageStr (b.view pos))
  cases Option.some.inj (encoded.symm.trans again)
  refine ⟨addr, same, ?_⟩
  intro mapping
  unfold stunAttrGetAddrStr stunAttrGetValue
  rw [there.length, if_neg (by omega)]
  dsimp only
  rw [there.attrType, decoded]

theorem AttrAt.addr {attr : UInt16} (there : AttrAt b pos place attr cfield) (xored : stunXorEd attr = true)
    (encoded : stunAddrEncode peer true (stunTidFromMessageStr (b.view pos)) = some cfield)
    (known : peer.family ≠ .unspec) (six : peer.ip6.length = 16) :
    ∃ addr, stunAttrGetAddrStr [] (b.view pos) place none = some addr ∧ addrEq addr peer = true := by
  rw [← xored] at encoded
  obtain ⟨addr, same, read⟩ := there.decoded encoded known six
  exact ⟨addr, read [], same⟩

end TurnCluster
