import TurnCluster.Relay.Buffer

namespace TurnCluster

/-- A message of `len` bytes, as its own header says, stands at `pos`. -/
def MessageAt (b : StunBuffer) (pos len : Nat) : Prop :=
  stunHeaderLength ≤ len ∧ (net16 (b.view pos) 2).toNat + stunHeaderLength = len

/-- From `b` to `b'` nothing changed between the places `from` and `until`. -/
def SameBetween (b b' : StunBuffer) (lo hi : Nat) : Prop :=
  ∀ i, lo ≤ i → i < hi → b'.mem.byte i = b.mem.byte i ∧ b'.mem.origin i = b.mem.origin i

theorem SameBetween.refl (b : StunBuffer) (lo hi : Nat) : SameBetween b b lo hi :=
  fun _ _ _ => ⟨rfl, rfl⟩

variable {b : StunBuffer} {pos len : Nat} {b' a : StunBuffer} {newlen lo : Nat} (mapping : AddrMapping) {c : StunBuffer}
  {kept hi : Nat} (attr messageType : UInt16) {len' : Nat}

theorem SameBetween.trans (ab : SameBetween a b lo hi) (bc : SameBetween b c lo hi) : SameBetween a c lo hi := by
  intro i above below
  obtain ⟨byte, origin⟩ := ab i above below
  obtain ⟨byte', origin'⟩ := bc i above below
  exact ⟨byte'.trans byte, origin'.trans origin⟩

theorem SameBetween.mono {lo' hi' : Nat} (same : SameBetween b b' lo hi) (above : lo ≤ lo') (below : hi' ≤ hi) :
    SameBetween b b' lo' hi' :=
  fun i inside outside => same i (above.trans inside) (outside.trans_le below)

theorem StunBuffer.write_same {b : StunBuffer} {pos lo hi : Nat} {bytes : List UInt8}
    (outside : hi ≤ pos ∨ pos + bytes.length ≤ lo) : SameBetween b (b.write pos bytes) lo hi := by
  intro i above below
  have not : ¬ (pos ≤ i ∧ i < pos + bytes.length) := by omega
  simp only [StunBuffer.write, Traced.write, not, if_false, and_self]

theorem copy_same {src : Traced} {dpos spos : Nat} (outside : hi ≤ dpos ∨ dpos + len ≤ lo) :
    SameBetween b { b with mem := b.mem.copy dpos src spos len } lo hi := by
  intro i above below
  have off : i < dpos ∨ dpos + len ≤ i := by omega
  exact ⟨Traced.copy_byte_outside off, Traced.copy_origin_outside off⟩

theorem MessageAt.of_same (message : MessageAt b pos len) (same : SameBetween b b' (pos + 2) (pos + 4)) :
    MessageAt b' pos len := by
  obtain ⟨long, announced⟩ := message
  refine ⟨long, ?_⟩
  have word : le16 (b'.view pos) 2 = le16 (b.view pos) 2 :=
    le16_congr (same (pos + 2) (by omega) (by omega)).1 (same (pos + 3) (by omega) (by omega)).1
  rw [net16, word]
  exact announced

theorem MessageAt.commandMessageLen (message : MessageAt b pos len) :
    stunGetCommandMessageLenStr (b.view pos) len = some len := by
  obtain ⟨long, announced⟩ := message
  unfold stunGetCommandMessageLenStr
  rw [if_neg (by omega), if_neg (by omega), announced]

/-- Length of a message of `len` bytes with one attribute of `alen` bytes more. -/
def grownLength (len alen : Nat) : Nat := roundUp4 (len + 4 + alen)

theorem le_grownLength (len alen : Nat) : len + 4 + alen ≤ grownLength len alen := by
  unfold grownLength roundUp4
  split <;> omega

theorem grownLength_le (len alen : Nat) : grownLength len alen ≤ len + alen + 7 := by
  unfold grownLength roundUp4
  split <;> omega

theorem MessageAt.room (message : MessageAt b pos len) (alen : Nat) :
    stunAttrRoom b pos len alen =
      if maxStunMessageSize ≤ grownLength len alen then none else some (pos + len, grownLength len alen) := by
  have grown : (if ((len : Int) + 4 + max (alen : Int) 0) % 4 = 0 then (len : Int) + 4 + max (alen : Int) 0
      else (len : Int) + 4 + max (alen : Int) 0 + (4 - ((len : Int) + 4 + max (alen : Int) 0) % 4)) =
      (grownLength len alen : Int) := by
    unfold grownLength roundUp4
    split <;> split <;> omega
  unfold stunAttrRoom
  rw [message.commandMessageLen]
  dsimp only
  rw [grown]
  by_cases full : maxStunMessageSize ≤ grownLength len alen
  · rw [if_pos full, if_pos (by omega)]
  · rw [if_neg full, if_neg (by omega), Int.toNat_natCast]
    congr 1

theorem bytes16_length (x : UInt16) : (bytes16 x).length = 2 := rfl

theorem net16_write (b : StunBuffer) (pos : Nat) (x : UInt16) :
    net16 ((b.write (pos + 2) (bytes16 (nswap16 x))).view pos) 2 = x := by
  have low : (b.write (pos + 2) (bytes16 (nswap16 x))).mem.byte (pos + 2) = UInt8.ofNat (nswap16 x).toNat := by
    simp [StunBuffer.write, Traced.write, bytes16]
  have high : (b.write (pos + 2) (bytes16 (nswap16 x))).mem.byte (pos + 3) =
      UInt8.ofNat ((nswap16 x).toNat / 256) := by
    simp [StunBuffer.write, Traced.write, bytes16]
  have bound := (nswap16 x).toNat_lt
  have word : le16 ((b.write (pos + 2) (bytes16 (nswap16 x))).view pos) 2 = nswap16 x := by
    apply UInt16.toNat_inj.mp
    rw [le16_toNat]
    show ((b.write (pos + 2) (bytes16 (nswap16 x))).mem.byte (pos + 2)).toNat +
      256 * ((b.write (pos + 2) (bytes16 (nswap16 x))).mem.byte (pos + 3)).toNat = _
    rw [low, high, UInt8.toNat_ofNat', UInt8.toNat_ofNat']
    omega
  rw [net16, word, nswap16_nswap16]

theorem head_message (alen : Int) (message : MessageAt b pos len) (grown : len ≤ newlen)
    (small : newlen < maxStunMessageSize) : MessageAt (stunAttrHead b pos attr alen (pos + len) newlen) pos newlen := by
  have long := message.1
  have size : stunHeaderLength = 20 := rfl
  have limit : maxStunMessageSize = 65507 := rfl
  unfold stunAttrHead
  dsimp only
  rw [if_neg (by omega)]
  refine MessageAt.of_same (b := b.write (pos + 2) (bytes16 (nswap16 (UInt16.ofNat (newlen - 20))))) ?_ ?_
  · refine ⟨by omega, ?_⟩
    rw [net16_write, UInt16.toNat_ofNat', Nat.mod_eq_of_lt (by omega)]
    omega
  · exact StunBuffer.write_same (by omega)

theorem head_same (alen : Int) (field : hi ≤ pos + 2 ∨ pos + 4 ≤ lo) (inside : hi ≤ pos + len) :
    SameBetween b (stunAttrHead b pos attr alen (pos + len) newlen) lo hi := by
  unfold stunAttrHead
  dsimp only
  split
  · exact StunBuffer.write_same (by omega)
  · refine (StunBuffer.write_same ?_).trans (StunBuffer.write_same (by omega))
    rw [bytes16_length]
    omega

theorem head_sound {received : Memory} (sound : b.mem.Sound received) (pos : Nat) (attr : UInt16) (alen : Int)
    (start newlen : Nat) : (stunAttrHead b pos attr alen start newlen).mem.Sound received := by
  unfold stunAttrHead
  dsimp only
  split
  · exact sound.write _ _
  · exact (sound.write _ _).write _ _

/-- A message with attributes more than before: what it already held, up to
`kept` bytes, is untouched. -/
structure Extended (b : StunBuffer) (pos kept : Nat) (b' : StunBuffer) (len' : Nat) : Prop where
  message : MessageAt b' pos len'
  grown : kept ≤ len'
  same : SameBetween b b' (pos + 4) (pos + kept)
  sound : ∀ {received}, b.mem.Sound received → b'.mem.Sound received
  offset : b'.offset = b.offset
  coffset : b'.coffset = b.coffset

theorem Extended.refl (message : MessageAt b pos len) : Extended b pos len b len :=
  ⟨message, le_refl _, .refl b _ _, fun sound => sound, rfl, rfl⟩

theorem Extended.mono {kept' : Nat} (extended : Extended b pos kept' b' len') (fewer : kept ≤ kept') :
    Extended b pos kept b' len' where
  message := extended.message
  grown := fewer.trans extended.grown
  same := extended.same.mono (le_refl _) (by omega)
  sound := extended.sound
  offset := extended.offset
  coffset := extended.coffset

theorem Extended.trans {kept' lenb lenc : Nat} (ab : Extended a pos kept b lenb) (bc : Extended b pos kept' c lenc)
    (within : kept ≤ kept') :
    Extended a pos kept c lenc where
  message := bc.message
  grown := within.trans bc.grown
  same := ab.same.trans (bc.same.mono (le_refl _) (by omega))
  sound := fun sound => bc.sound (ab.sound sound)
  offset := bc.offset.trans ab.offset
  coffset := bc.coffset.trans ab.coffset

theorem Extended.write {place : Nat} (extended : Extended b pos kept b' len') (long : 4 ≤ kept)
    (beyond : pos + kept ≤ place) (bytes : List UInt8) :
    Extended b pos kept (b'.write place bytes) len' where
  message := extended.message.of_same (StunBuffer.write_same (by omega))
  grown := extended.grown
  same := extended.same.trans (StunBuffer.write_same (by omega))
  sound := fun sound => (extended.sound sound).write _ _
  offset := extended.offset
  coffset := extended.coffset

theorem head_extended (alen : Int) (message : MessageAt b pos len) (grown : len ≤ newlen)
    (small : newlen < maxStunMessageSize) :
    Extended b pos len (stunAttrHead b pos attr alen (pos + len) newlen) newlen where
  message := head_message attr alen message grown small
  grown := grown
  same := head_same attr alen (Or.inr (le_refl _)) (le_refl _)
  sound := fun sound => head_sound sound _ _ _ _ _
  offset := by
    unfold stunAttrHead
    dsimp only
    split <;> rfl
  coffset := by
    unfold stunAttrHead
    dsimp only
    split <;> rfl

theorem stunAttrAddBytes_extended (message : MessageAt b pos len) (attr : UInt16) (value : List UInt8) :
    Extended b pos len (stunAttrAddBytes b pos len attr value).1 (stunAttrAddBytes b pos len attr value).2 := by
  have long : 20 ≤ len := message.1
  have grown := le_grownLength len value.length
  unfold stunAttrAddBytes
  rw [message.room]
  by_cases full : maxStunMessageSize ≤ grownLength len value.length
  · rw [if_pos full]
    exact .refl message
  · rw [if_neg full]
    exact (head_extended attr _ message (by omega) (by omega)).write (by omega) (by omega) value

theorem stunAttrAddBytes_length (message : MessageAt b pos len) (attr : UInt16) (value : List UInt8)
    (room : grownLength len value.length < maxStunMessageSize) :
    (stunAttrAddBytes b pos len attr value).2 = grownLength len value.length := by
  unfold stunAttrAddBytes
  rw [message.room, if_neg (by omega)]

theorem stunAttrAddStr_extended (message : MessageAt b pos len) (attr : UInt16) (src : StunBuffer) (spos alen : Nat)
    (room : grownLength len alen < maxStunMessageSize) :
    (stunAttrAddStr b pos len attr src spos alen).2 = grownLength len alen ∧
      MessageAt (stunAttrAddStr b pos len attr src spos alen).1 pos (grownLength len alen) ∧
      (∀ j < alen, (stunAttrAddStr b pos len attr src spos alen).1.mem.origin (pos + len + 4 + j) =
        src.mem.origin (spos + j)) ∧
      (∀ {received}, b.mem.Sound received → src.mem.Sound received →
        (stunAttrAddStr b pos len attr src spos alen).1.mem.Sound received) ∧
      (stunAttrAddStr b pos len attr src spos alen).1.offset = b.offset ∧
      (stunAttrAddStr b pos len attr src spos alen).1.coffset = b.coffset := by
  have long : 20 ≤ len := message.1
  have grown := le_grownLength len alen
  have head := head_extended attr alen message (show len ≤ grownLength len alen by omega) room
  unfold stunAttrAddStr
  rw [message.room, if_neg (by omega)]
  have size : (max (alen : Int) 0).toNat = alen := by omega
  dsimp only
  rw [size]
  refine ⟨rfl, head.message.of_same (copy_same (by omega)), ?_, ?_, head.offset, head.coffset⟩
  · intro j inside
    exact Traced.copy_origin_inside inside
  · intro received sound source
    exact (head.sound sound).copy source _ _ _

theorem stunAddrEncode_some (ca : IoaAddr) (xorEd : Bool) (tsxId : List UInt8) :
    ∃ cfield, stunAddrEncode ca xorEd tsxId = some cfield ∧ 4 ≤ cfield.length := by
  unfold stunAddrEncode
  cases ca.family <;> cases xorEd <;> simp [bytes16, bytes32]

theorem stunAttrAddAddrStr_eq (b : StunBuffer) (pos len : Nat) (attr : UInt16) (ca : IoaAddr) :
    ∃ cfield, stunAddrEncode (mapAddrFromPrivateToPublic mapping ca) (stunXorEd attr)
        (stunTidFromMessageStr (b.view pos)) = some cfield ∧ 4 ≤ cfield.length ∧
      stunAttrAddAddrStr mapping b pos len attr ca = stunAttrAddBytes b pos len attr cfield := by
  obtain ⟨cfield, encoded, long⟩ := stunAddrEncode_some (mapAddrFromPrivateToPublic mapping ca) (stunXorEd attr)
    (stunTidFromMessageStr (b.view pos))
  refine ⟨cfield, encoded, long, ?_⟩
  unfold stunAttrAddAddrStr
  rw [encoded]

theorem stunAttrAddAddrStr_extended (message : MessageAt b pos len) (attr : UInt16) (ca : IoaAddr) :
    Extended b pos len (stunAttrAddAddrStr mapping b pos len attr ca).1
      (stunAttrAddAddrStr mapping b pos len attr ca).2 := by
  unfold stunAttrAddAddrStr
  split
  · exact .refl message
  · exact stunAttrAddBytes_extended message attr _

/-- The checksum is written into the last four bytes, whether or not its attribute found room. -/
theorem stunAttrAddFingerprintStr_extended (nsCrc32 : List UInt8 → UInt32) (message : MessageAt b pos len)
    (within : kept + 4 ≤ len) (long : 4 ≤ kept) :
    Extended b pos kept (stunAttrAddFingerprintStr nsCrc32 b pos len).1
      (stunAttrAddFingerprintStr nsCrc32 b pos len).2 := by
  have extended := stunAttrAddBytes_extended message stunAttributeFingerprint [0, 0, 0, 0]
  have grown := extended.grown
  have start : Extended b pos kept b len := ⟨message, by omega, .refl _ _ _, fun sound => sound, rfl, rfl⟩
  have place : pos + kept ≤ pos + (stunAttrAddBytes b pos len stunAttributeFingerprint [0, 0, 0, 0]).2 - 4 := by
    omega
  exact (start.trans extended (by omega)).write long place _

theorem oldStunInitCommandStr_message (b : StunBuffer) (pos : Nat) (tid : List UInt8) (cookie : UInt32) :
    MessageAt (oldStunInitCommandStr messageType b pos tid cookie).1 pos stunHeaderLength := by
  refine ⟨le_refl _, ?_⟩
  have first : (oldStunInitCommandStr messageType b pos tid cookie).1.mem.byte (pos + 2) = 0 := by
    simp [oldStunInitCommandStr, StunBuffer.write, Traced.write, bytes16]
  have second : (oldStunInitCommandStr messageType b pos tid cookie).1.mem.byte (pos + 3) = 0 := by
    simp [oldStunInitCommandStr, StunBuffer.write, Traced.write, bytes16]
  rw [net16_toNat]
  show 256 * ((oldStunInitCommandStr messageType b pos tid cookie).1.mem.byte (pos + 2)).toNat +
    ((oldStunInitCommandStr messageType b pos tid cookie).1.mem.byte (pos + 3)).toNat + _ = _
  rw [first, second]
  rfl

theorem stunInitCommandStr_message (b : StunBuffer) (pos : Nat) (tid : List UInt8) :
    MessageAt (stunInitCommandStr messageType b pos tid).1 pos stunHeaderLength :=
  oldStunInitCommandStr_message messageType b pos tid stunMagicCookie

theorem stunAddrEncode_length {ca : IoaAddr} {tsxId cfield : List UInt8}
    (encoded : stunAddrEncode ca true tsxId = some cfield) (tid : tsxId.length = 12) : cfield.length ≤ 20 := by
  unfold stunAddrEncode at encoded
  split at encoded
  · rw [if_pos rfl] at encoded
    rw [← Option.some.inj encoded]
    simp only [bytes16, xorPad, List.length_append, List.length_cons, List.length_nil, List.length_zipWith, tid]
    omega
  · rw [if_pos rfl] at encoded
    rw [← Option.some.inj encoded]
    simp [bytes16, bytes32]

theorem stunAttrAddAddrStr_xored {attr : UInt16} (xored : stunXorEd attr = true) (mapping : AddrMapping) (b : StunBuffer)
    (pos len : Nat) (ca : IoaAddr) :
    ∃ cfield, stunAddrEncode (mapAddrFromPrivateToPublic mapping ca) true (stunTidFromMessageStr (b.view pos)) =
        some cfield ∧ 4 ≤ cfield.length ∧ cfield.length ≤ 20 ∧
      stunAttrAddAddrStr mapping b pos len attr ca = stunAttrAddBytes b pos len attr cfield := by
  obtain ⟨cfield, encoded, long, added⟩ := stunAttrAddAddrStr_eq mapping b pos len attr ca
  rw [xored] at encoded
  exact ⟨cfield, encoded, long, stunAddrEncode_length encoded (Memory.length_slice _ _ _), added⟩

theorem stunAttrAddBytes_eq (message : MessageAt b pos len) (attr : UInt16) {value : List UInt8}
    (fits : grownLength len value.length < maxStunMessageSize) :
    stunAttrAddBytes b pos len attr value =
      ((stunAttrHead b pos attr value.length (pos + len) (grownLength len value.length)).write (pos + len + 4) value,
        grownLength len value.length) := by
  unfold stunAttrAddBytes
  rw [message.room, if_neg (by omega)]

theorem StunBuffer.write_write (b : StunBuffer) (pos : Nat) {old bytes : List UInt8}
    (same : old.length = bytes.length) : (b.write pos old).write pos bytes = b.write pos bytes := by
  have mem : (b.mem.write pos old).write pos bytes = b.mem.write pos bytes := by
    simp only [Traced.write, same, Traced.mk.injEq]
    constructor <;> funext i <;> split <;> rfl
  simp only [StunBuffer.write, mem]

end TurnCluster
