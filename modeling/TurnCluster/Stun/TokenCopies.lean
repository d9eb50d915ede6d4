import TurnCluster.Stun.OauthToken

namespace TurnCluster

def maxEncodedOauthTokenSize : Nat := 1024

def oauthMaxNonceSize : Nat := 256

/-- A `bcopy`: how many bytes it moves, how many there are from where it starts to read, and the
room it has at its destination. -/
structure Bcopy where
  length : Nat
  source : Nat
  room : Nat

def Bcopy.Fits (copy : Bcopy) : Prop := copy.length ≤ copy.source ∧ copy.length ≤ copy.room

instance (copy : Bcopy) : Decidable copy.Fits := inferInstanceAs (Decidable (_ ∧ _))

/-- The smallest token that `decode_oauth_token_gcm` looks into. -/
def minEncodedFieldSize (etoken : EncodedOauthToken) : Nat :=
  2 + 4 + 8 + (net16 etoken.token 0).toNat + 2 + oauthGcmTagSize + 1

/-- The copies of the key, the time stamp and the lifetime out of the decrypted bytes. -/
def fieldCopies (keyLength decrypted : Nat) : List Bcopy :=
  [⟨keyLength, decrypted - 2, maxShaSize⟩, ⟨8, decrypted - (2 + keyLength), 8⟩,
    ⟨4, decrypted - (2 + keyLength + 8), 4⟩]

/-- `decode_oauth_token_gcm`, with each of its copies written down in front of the result. -/
def decodeRecorded (gcm : Gcm) (serverName : List UInt8) (etoken : EncodedOauthToken) (key : OauthKey)
    (dtoken : OauthToken) (decodedField : Memory) : List Bcopy × Int × OauthToken :=
  let copies := [⟨2, maxEncodedOauthTokenSize, 2⟩]
  let nonceLen := net16 etoken.token 0
  let dtoken := { dtoken with nonceLength := nonceLen }
  if etoken.size < minEncodedFieldSize etoken then (copies, -1, dtoken)
  else
    let encodedFieldSize := (etoken.size % 2 ^ 32 + 2 ^ 32 - nonceLen.toNat - 2 - oauthGcmTagSize) % 2 ^ 32
    let nonce := etoken.token.slice 2 nonceLen.toNat
    let copies := copies ++ [⟨nonceLen.toNat, maxEncodedOauthTokenSize - 2, oauthMaxNonceSize⟩]
    let dtoken := { dtoken with nonce := dtoken.nonce.write 0 nonce }
    let copies := copies ++
      [⟨oauthGcmTagSize, maxEncodedOauthTokenSize - (nonceLen.toNat + 2 + encodedFieldSize), oauthGcmTagSize⟩]
    let tag := etoken.token.slice (nonceLen.toNat + 2 + encodedFieldSize) oauthGcmTagSize
    match getCipherType key.asRsAlg with
    | none => (copies, -1, dtoken)
    | some cipher =>
      match openField gcm cipher key.asRsKey nonce serverName
          (etoken.token.slice (nonceLen.toNat + 2) encodedFieldSize) tag with
      | none => (copies, -1, dtoken)
      | some out =>
        let decoded := decodedField.write 0 out
        (copies ++ fieldCopies (net16 decoded 0).toNat out.length, 0, readField decoded dtoken)

theorem decodeRecorded_snd (gcm : Gcm) (serverName : List UInt8) (etoken : EncodedOauthToken) (key : OauthKey)
    (dtoken : OauthToken) (decodedField : Memory) :
    (decodeRecorded gcm serverName etoken key dtoken decodedField).2 =
      decodeOauthTokenGcm gcm serverName etoken key dtoken decodedField := by
  unfold decodeRecorded decodeOauthTokenGcm minEncodedFieldSize
  dsimp only
  split
  · rfl
  · cases getCipherType key.asRsAlg with
    | none => rfl
    | some cipher =>
      dsimp only
      generalize openField gcm cipher _ _ _ _ _ = opened
      cases opened with
      | none => rfl
      | some out => rfl

/-- The size of the encrypted field: what is left of the token without the nonce and the tag. -/
def encodedFieldSize (etoken : EncodedOauthToken) : Nat :=
  (etoken.size % 2 ^ 32 + 2 ^ 32 - (net16 etoken.token 0).toNat - 2 - oauthGcmTagSize) % 2 ^ 32

theorem encodedFieldSize_add {etoken : EncodedOauthToken} (size : etoken.size ≤ maxEncodedOauthTokenSize)
    (long : minEncodedFieldSize etoken ≤ etoken.size) :
    (net16 etoken.token 0).toNat + 2 + encodedFieldSize etoken + oauthGcmTagSize = etoken.size := by
  simp only [minEncodedFieldSize, encodedFieldSize, maxEncodedOauthTokenSize, oauthGcmTagSize] at *
  omega

/-- The bytes that the decoder reads the key from, if it comes so far: the token is not too short,
the cipher is known and the tag is right. -/
def decryptedField (gcm : Gcm) (serverName : List UInt8) (etoken : EncodedOauthToken) (key : OauthKey) :
    Option (List UInt8) :=
  if etoken.size < minEncodedFieldSize etoken then none
  else
    (getCipherType key.asRsAlg).bind fun cipher =>
      openField gcm cipher key.asRsKey (etoken.token.slice 2 (net16 etoken.token 0).toNat) serverName
        (etoken.token.slice ((net16 etoken.token 0).toNat + 2) (encodedFieldSize etoken))
        (etoken.token.slice ((net16 etoken.token 0).toNat + 2 + encodedFieldSize etoken) oauthGcmTagSize)

/-- The copies behind the size check that do not depend on the encryption. -/
def tokenCopies (etoken : EncodedOauthToken) : List Bcopy :=
  [⟨2, maxEncodedOauthTokenSize, 2⟩,
    ⟨(net16 etoken.token 0).toNat, maxEncodedOauthTokenSize - 2, oauthMaxNonceSize⟩,
    ⟨oauthGcmTagSize, maxEncodedOauthTokenSize - ((net16 etoken.token 0).toNat + 2 + encodedFieldSize etoken),
      oauthGcmTagSize⟩]

section Copies

variable {gcm : Gcm} {serverName : List UInt8} {etoken : EncodedOauthToken} {key : OauthKey} {dtoken : OauthToken}
  {decodedField : Memory}

theorem decodeRecorded_short (short : etoken.size < minEncodedFieldSize etoken) :
    (decodeRecorded gcm serverName etoken key dtoken decodedField).1 = [⟨2, maxEncodedOauthTokenSize, 2⟩] := by
  unfold decodeRecorded
  dsimp only
  rw [if_pos short]

theorem decodeRecorded_long (long : ¬ etoken.size < minEncodedFieldSize etoken) :
    (decodeRecorded gcm serverName etoken key dtoken decodedField).1 = tokenCopies etoken ++
      match decryptedField gcm serverName etoken key with
      | none => []
      | some out => fieldCopies (net16 (decodedField.write 0 out) 0).toNat out.length := by
  unfold decodeRecorded decryptedField
  dsimp only
  rw [if_neg long, if_neg long]
  cases getCipherType key.asRsAlg with
  | none => rfl
  | some cipher =>
    dsimp only [Option.bind_some, encodedFieldSize]
    split <;> rfl

theorem tokenCopies_fit (size : etoken.size ≤ maxEncodedOauthTokenSize)
    (long : ¬ etoken.size < minEncodedFieldSize etoken) :
    (∀ copy ∈ tokenCopies etoken, copy.Fits) ↔ (net16 etoken.token 0).toNat ≤ oauthMaxNonceSize := by
  have whole := encodedFieldSize_add size (Nat.le_of_not_lt long)
  simp only [tokenCopies, List.forall_mem_cons, Bcopy.Fits, List.not_mem_nil, false_imp_iff, implies_true, and_true]
  simp only [maxEncodedOauthTokenSize, oauthGcmTagSize] at *
  omega

theorem fieldCopies_fit (keyLength decrypted : Nat) :
    (∀ copy ∈ fieldCopies keyLength decrypted, copy.Fits) ↔
      keyLength ≤ maxShaSize ∧ 2 + keyLength + 12 ≤ decrypted := by
  simp only [fieldCopies, List.forall_mem_cons, Bcopy.Fits, List.not_mem_nil, false_imp_iff, implies_true, and_true]
  omega

/-- With one outcome of the decryption, every copy stays in its arrays exactly if the nonce has room, as far as it is
copied, and the decrypted key has room and is there with what follows it. -/
theorem decodeRecorded_fits_outcome (size : etoken.size ≤ maxEncodedOauthTokenSize) :
    (∀ copy ∈ (decodeRecorded gcm serverName etoken key dtoken decodedField).1, copy.Fits) ↔
      (minEncodedFieldSize etoken ≤ etoken.size → (net16 etoken.token 0).toNat ≤ oauthMaxNonceSize) ∧
        ∀ out, decryptedField gcm serverName etoken key = some out →
          (net16 (decodedField.write 0 out) 0).toNat ≤ maxShaSize ∧
            2 + (net16 (decodedField.write 0 out) 0).toNat + 12 ≤ out.length := by
  by_cases short : etoken.size < minEncodedFieldSize etoken
  · have stopped : decryptedField gcm serverName etoken key = none := if_pos short
    have first : Bcopy.Fits ⟨2, maxEncodedOauthTokenSize, 2⟩ := by decide
    rw [decodeRecorded_short short, stopped]
    refine ⟨fun _ => ⟨fun long => absurd short (Nat.not_lt.mpr long), fun out opened => nomatch opened⟩, ?_⟩
    intro _ copy member
    rw [List.mem_singleton.mp member]
    exact first
  · rw [decodeRecorded_long short, List.forall_mem_append, tokenCopies_fit size short]
    refine and_congr ⟨fun room _ => room, fun room => room (Nat.le_of_not_lt short)⟩ ?_
    cases decryptedField gcm serverName etoken key with
    | none =>
      exact ⟨fun _ out opened => (nomatch opened), fun _ copy member => absurd member List.not_mem_nil⟩
    | some out =>
      rw [fieldCopies_fit]
      exact ⟨fun fits out' opened => Option.some.inj opened ▸ fits, fun fits => fits out rfl⟩

end Copies

section Stream

/-- The bytes of a text, each with the byte of a key stream at its place. -/
def xorStream (stream : Memory) (text : List UInt8) : List UInt8 := text.mapIdx (fun i b => b ^^^ stream i)

theorem xorStream_xorStream (stream : Memory) (text : List UInt8) :
    xorStream stream (xorStream stream text) = text := by
  apply List.ext_getElem
  · simp [xorStream]
  · intro i _ inside
    simp only [xorStream, List.getElem_mapIdx, UInt8.xor_assoc, UInt8.xor_self, UInt8.xor_zero]

/-- The stream that turns a field into the bytes `b`. -/
theorem xorStream_constant (field : List UInt8) (b : UInt8) :
    xorStream (fun i => field.getD i 0 ^^^ b) field = List.replicate field.length b := by
  apply List.ext_getElem
  · simp [xorStream]
  · intro i inside _
    have inside' : i < field.length := by simpa [xorStream] using inside
    simp [xorStream, inside', ← UInt8.xor_assoc]

/-- An AES-GCM by its key stream, with one tag for everything. -/
def streamGcm (stream : Memory) (tag : List UInt8) : Gcm where
  ready _ _ _ := true
  encrypt _ _ _ text := some (xorStream stream text)
  decrypt _ _ _ sealed := some (xorStream stream sealed)
  tag _ _ _ _ _ := tag

theorem streamGcm_correct (stream : Memory) {tag : List UInt8} (size : tag.length = oauthGcmTagSize) :
    (streamGcm stream tag).Correct where
  ready _ _ _ _ := rfl
  decrypts _ _ _ text _ _ :=
    ⟨xorStream stream text, rfl, List.length_mapIdx, congrArg some (xorStream_xorStream stream text)⟩
  tagSize _ _ _ _ _ := size

theorem openField_streamGcm (stream : Memory) (cipher : EvpCipher) (key nonce serverName tag : List UInt8)
    {field : List UInt8} (nonempty : field ≠ []) (small : field.length < 2 ^ 31) :
    openField (streamGcm stream tag) cipher key nonce serverName field tag = some (xorStream stream field) := by
  have size : (xorStream stream field).length = field.length := List.length_mapIdx
  have ready : ¬ (streamGcm stream tag).ready cipher key nonce = false := Bool.noConfusion
  rw [openField, if_neg ready, associate_all]
  simp only [List.nil_append]
  rw [crypt_all ⟨rfl, rfl⟩ nonempty small rfl size]
  exact if_pos rfl

end Stream

/-- A token that comes to be decrypted: there is a right cipher under which its field is nothing but bytes 255, and the
key that such a field announces has no room. -/
theorem exists_overrun {etoken : EncodedOauthToken} {key : OauthKey} {cipher : EvpCipher}
    (size : etoken.size ≤ maxEncodedOauthTokenSize) (long : ¬ etoken.size < minEncodedFieldSize etoken)
    (supported : getCipherType key.asRsAlg = some cipher) (serverName : List UInt8) (dtoken : OauthToken)
    (decodedField : Memory) :
    ∃ gcm : Gcm, gcm.Correct ∧
      ¬ ∀ copy ∈ (decodeRecorded gcm serverName etoken key dtoken decodedField).1, copy.Fits := by
  have whole := encodedFieldSize_add size (Nat.le_of_not_lt long)
  obtain ⟨field, hfield⟩ : ∃ field,
      etoken.token.slice ((net16 etoken.token 0).toNat + 2) (encodedFieldSize etoken) = field := ⟨_, rfl⟩
  obtain ⟨tag, htag⟩ : ∃ tag, etoken.token.slice ((net16 etoken.token 0).toNat + 2 + encodedFieldSize etoken)
      oauthGcmTagSize = tag := ⟨_, rfl⟩
  have fieldSize : field.length = encodedFieldSize etoken := by rw [← hfield, Memory.length_slice]
  have tagSize : tag.length = oauthGcmTagSize := by rw [← htag, Memory.length_slice]
  have bounds : 15 ≤ field.length ∧ field.length < 2 ^ 31 := by
    rw [fieldSize]
    simp only [minEncodedFieldSize, maxEncodedOauthTokenSize, oauthGcmTagSize] at *
    omega
  have nonempty : field ≠ [] := List.length_pos_iff.mp (by omega)
  refine ⟨streamGcm (fun i => field.getD i 0 ^^^ 255) tag, streamGcm_correct _ tagSize, fun fits => ?_⟩
  have opened : decryptedField (streamGcm (fun i => field.getD i 0 ^^^ 255) tag) serverName etoken key =
      some (List.replicate field.length 255) := by
    rw [decryptedField, if_neg long, supported, Option.bind_some, hfield, htag,
      openField_streamGcm _ _ _ _ _ _ nonempty bounds.2, xorStream_constant]
  have room := (((decodeRecorded_fits_outcome size).mp fits).2 _ opened).1
  have byte (i : Nat) (inside : i < 2) : decodedField.write 0 (List.replicate field.length 255) i = 255 := by
    have value := @Memory.write_inside decodedField 0 i (List.replicate field.length 255) (by simp; omega)
    rw [Nat.zero_add] at value
    rw [value, List.getD_eq_getElem?_getD, List.getElem?_replicate_of_lt (by omega)]
    rfl
  rw [net16_toNat, byte 0 (by omega), byte 1 (by omega)] at room
  exact absurd room (by decide)

/-- Every copy of the decoder stays in its arrays, whatever the decryption comes to, exactly for the tokens that are
refused for their size and, without a cipher, for those whose nonce has room. -/
theorem decodeRecorded_fits_iff (serverName : List UInt8) (etoken : EncodedOauthToken) (key : OauthKey)
    (size : etoken.size ≤ maxEncodedOauthTokenSize) :
    (∀ (gcm : Gcm) (dtoken : OauthToken) (decodedField : Memory),
      ∀ copy ∈ (decodeRecorded gcm serverName etoken key dtoken decodedField).1, copy.Fits) ↔
      etoken.size < (net16 etoken.token 0).toNat + 33 ∨
        getCipherType key.asRsAlg = none ∧ (net16 etoken.token 0).toNat ≤ oauthMaxNonceSize := by
  have least : minEncodedFieldSize etoken = (net16 etoken.token 0).toNat + 33 := by
    simp only [minEncodedFieldSize, oauthGcmTagSize]
    omega
  rw [← least]
  constructor
  · intro fits
    by_cases short : etoken.size < minEncodedFieldSize etoken
    · exact Or.inl short
    · cases supported : getCipherType key.asRsAlg with
      | some cipher =>
        obtain ⟨gcm, _, overrun⟩ := exists_overrun size short supported serverName blankToken (fun _ => 0)
        exact absurd (fits gcm blankToken (fun _ => 0)) overrun
      | none =>
        have room := ((decodeRecorded_fits_outcome size).mp (fits exampleGcm blankToken (fun _ => 0))).1
        exact Or.inr ⟨rfl, room (Nat.le_of_not_lt short)⟩
  · intro refused gcm dtoken decodedField
    refine (decodeRecorded_fits_outcome size).mpr ⟨fun long => ?_, fun out opened => ?_⟩
    · rcases refused with short | ⟨_, room⟩
      · exact absurd short (Nat.not_lt.mpr long)
      · exact room
    · unfold decryptedField at opened
      rcases refused with short | ⟨unsupported, _⟩
      · rw [if_pos short] at opened
        cases opened
      · rw [unsupported, Option.bind_none, ite_self] at opened
        cases opened

/-- A token of 44 bytes with the usual nonce, one byte too short, and one of 45 bytes. -/
def emptyToken (size : Nat) : EncodedOauthToken := ⟨Memory.ofList [0, 12], size⟩

theorem decodeRecorded_fits_iff_short :
    (emptyToken 44).size ≤ maxEncodedOauthTokenSize ∧
      (∀ (gcm : Gcm) (dtoken : OauthToken) (decodedField : Memory),
        ∀ copy ∈ (decodeRecorded gcm [97] (emptyToken 44) ⟨.a128gcm, []⟩ dtoken decodedField).1, copy.Fits) ∧
      ¬ ∀ (gcm : Gcm) (dtoken : OauthToken) (decodedField : Memory),
        ∀ copy ∈ (decodeRecorded gcm [97] (emptyToken 45) ⟨.a128gcm, []⟩ dtoken decodedField).1, copy.Fits := by
  refine ⟨by decide, (decodeRecorded_fits_iff [97] (emptyToken 44) ⟨.a128gcm, []⟩ (by decide)).mpr (by decide), ?_⟩
  intro fits
  exact absurd ((decodeRecorded_fits_iff [97] (emptyToken 45) ⟨.a128gcm, []⟩ (by decide)).mp fits) (by decide)

/-- A token of 1024 bytes, of which 991 are the nonce. -/
def longNonceToken : EncodedOauthToken := ⟨Memory.ofList [0x03, 0xDF], maxEncodedOauthTokenSize⟩

/-- The nonce of a token that is not authenticated yet overruns the 256 bytes meant for it. -/
theorem decodeRecorded_nonce_overrun : ¬ ∀ (gcm : Gcm) (serverName : List UInt8) (etoken : EncodedOauthToken)
    (key : OauthKey) (dtoken : OauthToken) (decodedField : Memory), etoken.size ≤ maxEncodedOauthTokenSize →
      ∀ copy ∈ (decodeRecorded gcm serverName etoken key dtoken decodedField).1, copy.Fits := by
  intro claimed
  have long : ¬ longNonceToken.size < minEncodedFieldSize longNonceToken := by decide
  have fits := claimed exampleGcm [97] longNonceToken ⟨.a128gcm, []⟩ blankToken (fun _ => 0) le_rfl
  rw [decodeRecorded_long long, List.forall_mem_append, tokenCopies_fit le_rfl long] at fits
  exact absurd fits.1 (by decide)

end TurnCluster
