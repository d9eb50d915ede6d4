import TurnCluster.Lib.Serial

namespace TurnCluster

def maxShaSize : Nat := 128

def oauthGcmNonceSize : Nat := 12

def oauthGcmTagSize : Nat := 16

inductive EncAlg
  | error
  | a256gcm
  | a128gcm
  | num
  deriving DecidableEq

inductive EvpCipher
  | aes128gcm
  | aes256gcm
  deriving DecidableEq

def getCipherType : EncAlg → Option EvpCipher
  | .a128gcm => some .aes128gcm
  | .a256gcm => some .aes256gcm
  | _ => none

/-- The AES-GCM of the crypto library. -/
structure Gcm where
  /-- Whether a context can be set up with this key and nonce. -/
  ready : EvpCipher → List UInt8 → List UInt8 → Bool
  encrypt : EvpCipher → List UInt8 → List UInt8 → List UInt8 → Option (List UInt8)
  decrypt : EvpCipher → List UInt8 → List UInt8 → List UInt8 → Option (List UInt8)
  /-- The tag for the associated data and what was encrypted. -/
  tag : EvpCipher → List UInt8 → List UInt8 → List UInt8 → List UInt8 → List UInt8

/-- With nonces of the usual size, everything that is encrypted is decrypted again. -/
structure Gcm.Correct (gcm : Gcm) : Prop where
  ready : ∀ cipher key nonce, nonce.length = oauthGcmNonceSize → gcm.ready cipher key nonce = true
  decrypts : ∀ cipher key nonce text, nonce.length = oauthGcmNonceSize → text.length < 2 ^ 31 →
    ∃ sealed, gcm.encrypt cipher key nonce text = some sealed ∧ sealed.length = text.length ∧
      gcm.decrypt cipher key nonce sealed = some text
  tagSize : ∀ cipher key nonce aad sealed, (gcm.tag cipher key nonce aad sealed).length = oauthGcmTagSize

/-- A context, by what it was given and what it made of it. -/
structure EvpCipherCtx where
  cipher : EvpCipher
  key : List UInt8
  nonce : List UInt8
  aad : List UInt8 := []
  given : List UInt8 := []
  made : List UInt8 := []

namespace EvpCipherCtx

/-- `EVP_EncryptUpdate` and `EVP_DecryptUpdate` without an output: associated data, of which all is taken. -/
def associate (ctx : EvpCipherCtx) (bytes : List UInt8) : Option (EvpCipherCtx × List UInt8) :=
  some ({ ctx with aad := ctx.aad ++ bytes }, bytes)

/-- `EVP_EncryptUpdate` and `EVP_DecryptUpdate`: what the new bytes add to the output. -/
def update (crypt : EvpCipher → List UInt8 → List UInt8 → List UInt8 → Option (List UInt8)) (ctx : EvpCipherCtx)
    (bytes : List UInt8) : Option (EvpCipherCtx × List UInt8) :=
  (crypt ctx.cipher ctx.key ctx.nonce (ctx.given ++ bytes)).map fun whole =>
    ({ ctx with given := ctx.given ++ bytes, made := whole }, whole.drop ctx.made.length)

end EvpCipherCtx

/-- The loop of `my_EVP_EncryptUpdate` and `my_EVP_DecryptUpdate`: it goes on until as much has come out as went in. -/
def myEvpLoop (update : EvpCipherCtx → List UInt8 → Option (EvpCipherCtx × List UInt8)) (input : List UInt8) :
    Nat → EvpCipherCtx → List UInt8 → Option (EvpCipherCtx × List UInt8)
  | 0, ctx, out => some (ctx, out)
  | cycles + 1, ctx, out =>
    if out.length < input.length then
      match update ctx (input.drop out.length) with
      | none => none
      | some (ctx, more) => myEvpLoop update input cycles ctx (out ++ more)
    else some (ctx, out)

/-- The bytes are counted by an `int`, and there are fewer than 128 cycles. -/
def myEvpUpdate (update : EvpCipherCtx → List UInt8 → Option (EvpCipherCtx × List UInt8)) (ctx : EvpCipherCtx)
    (bytes : List UInt8) : Option (EvpCipherCtx × List UInt8) :=
  myEvpLoop update (bytes.take (intOfSize bytes.length).toNat) 127 ctx []

structure OauthKey where
  asRsAlg : EncAlg
  asRsKey : List UInt8

/-- The encrypted block of a token. -/
structure OauthToken where
  nonceLength : UInt16
  nonce : Memory
  keyLength : UInt16
  macKey : Memory
  timestamp : UInt64
  lifetime : UInt32

structure EncodedOauthToken where
  token : Memory
  size : Nat

/-- The field that `encode_oauth_token_gcm` fills before it encrypts the part behind the nonce. -/
def origField (dtoken : OauthToken) (nonce : List UInt8) : Writer :=
  Writer.empty
    |>.put (bytes16 (nswap16 (UInt16.ofNat oauthGcmNonceSize)))
    |>.put nonce
    |>.put (bytes16 (nswap16 dtoken.keyLength))
    |>.put (dtoken.macKey.slice 0 dtoken.keyLength.toNat)
    |>.put (bytes64 (nswap64 dtoken.timestamp))
    |>.put (bytes32 (nswap32 dtoken.lifetime))

/-- What `encode_oauth_token_gcm` gets from the crypto library: the encrypted field and its tag. -/
def sealField (gcm : Gcm) (cipher : EvpCipher) (key nonce serverName field : List UInt8) :
    Option (List UInt8 × List UInt8) :=
  if gcm.ready cipher key nonce = false then none
  else
    match myEvpUpdate EvpCipherCtx.associate { cipher := cipher, key := key, nonce := nonce } serverName with
    | none => none
    | some (ctx, _) =>
      match myEvpUpdate (EvpCipherCtx.update gcm.encrypt) ctx field with
      | none => none
      -- with GCM `EVP_EncryptFinal_ex` has nothing left to write
      | some (ctx, out) => some (out, gcm.tag ctx.cipher ctx.key ctx.nonce ctx.aad ctx.made)

/-- The token that `encode_oauth_token_gcm` writes: the encrypted field, what stands in front of it, and its tag. -/
def tokenField (token : Memory) (front out tag : List UInt8) : Writer :=
  (⟨token, 0⟩ : Writer).put front |>.put out |>.put tag

/-- `encode_oauth_token_gcm`; without a nonce a random one is taken. -/
def encodeOauthTokenGcm (gcm : Gcm) (serverName : List UInt8) (etoken : EncodedOauthToken) (key : OauthKey)
    (dtoken : OauthToken) (nonce0 : Option Memory) (random : Memory) : Option EncodedOauthToken :=
  if dtoken.keyLength.toNat ≤ maxShaSize then
    let nonce := (nonce0.getD random).slice 0 oauthGcmNonceSize
    let orig := origField dtoken nonce
    match getCipherType key.asRsAlg with
    | none => none
    | some cipher =>
      match sealField gcm cipher key.asRsKey nonce serverName
          (orig.field.slice (oauthGcmNonceSize + 2) (orig.len - (oauthGcmNonceSize + 2))) with
      | none => none
      | some (out, tag) =>
        let token := tokenField etoken.token (orig.field.slice 0 (oauthGcmNonceSize + 2)) out tag
        some ⟨token.field, 2 + oauthGcmNonceSize + (out.length + oauthGcmTagSize)⟩
  else none

/-- What `decode_oauth_token_gcm` gets from the crypto library: the decrypted field, if the tag is right. -/
def openField (gcm : Gcm) (cipher : EvpCipher) (key nonce serverName field tag : List UInt8) : Option (List UInt8) :=
  if gcm.ready cipher key nonce = false then none
  else
    match myEvpUpdate EvpCipherCtx.associate { cipher := cipher, key := key, nonce := nonce } serverName with
    | none => none
    | some (ctx, _) =>
      match myEvpUpdate (EvpCipherCtx.update gcm.decrypt) ctx field with
      | none => none
      | some (ctx, out) => if gcm.tag ctx.cipher ctx.key ctx.nonce ctx.aad ctx.given = tag then some out else none

/-- The end of `decode_oauth_token_gcm`: the token is read from the decrypted field. -/
def readField (decoded : Memory) (dtoken : OauthToken) : OauthToken :=
  let keyLength := net16 decoded 0
  { dtoken with
    keyLength := keyLength
    macKey := dtoken.macKey.write 0 (decoded.slice 2 keyLength.toNat)
    timestamp := net64 decoded (2 + keyLength.toNat)
    lifetime := net32 decoded (2 + keyLength.toNat + 8) }

/-- `decode_oauth_token_gcm`, on a stack where its field holds whatever was there before. -/
def decodeOauthTokenGcm (gcm : Gcm) (serverName : List UInt8) (etoken : EncodedOauthToken) (key : OauthKey)
    (dtoken : OauthToken) (decodedField : Memory) : Int × OauthToken :=
  let nonceLen := net16 etoken.token 0
  let dtoken := { dtoken with nonceLength := nonceLen }
  if etoken.size < 2 + 4 + 8 + nonceLen.toNat + 2 + oauthGcmTagSize + 1 then (-1, dtoken)
  else
    let encodedFieldSize := (etoken.size % 2 ^ 32 + 2 ^ 32 - nonceLen.toNat - 2 - oauthGcmTagSize) % 2 ^ 32
    let nonce := etoken.token.slice 2 nonceLen.toNat
    let dtoken := { dtoken with nonce := dtoken.nonce.write 0 nonce }
    let tag := etoken.token.slice (nonceLen.toNat + 2 + encodedFieldSize) oauthGcmTagSize
    match getCipherType key.asRsAlg with
    | none => (-1, dtoken)
    | some cipher =>
      match openField gcm cipher key.asRsKey nonce serverName
          (etoken.token.slice (nonceLen.toNat + 2) encodedFieldSize) tag with
      | none => (-1, dtoken)
      | some out => (0, readField (decodedField.write 0 out) dtoken)

section Update

variable {update : EvpCipherCtx → List UInt8 → Option (EvpCipherCtx × List UInt8)} {ctx later : EvpCipherCtx}
  {bytes out : List UInt8}

theorem myEvpLoop_once (nonempty : bytes ≠ []) (done : update ctx bytes = some (later, out))
    (size : out.length = bytes.length) (cycles : Nat) :
    myEvpLoop update bytes (cycles + 2) ctx [] = some (later, out) := by
  have left : 0 < bytes.length := List.length_pos_iff.mpr nonempty
  have finished : ¬ out.length < bytes.length := by omega
  simp only [myEvpLoop, List.length_nil, if_pos left, List.drop_zero, done, List.nil_append, if_neg finished]

theorem myEvpLoop_nil (cycles : Nat) : myEvpLoop update [] cycles ctx [] = some (ctx, []) := by
  cases cycles <;> rfl

/-- The associated data, as far as the `int` counts it. -/
theorem associate_all (ctx : EvpCipherCtx) (bytes : List UInt8) :
    myEvpUpdate EvpCipherCtx.associate ctx bytes =
      some ({ ctx with aad := ctx.aad ++ bytes.take (intOfSize bytes.length).toNat },
        bytes.take (intOfSize bytes.length).toNat) := by
  unfold myEvpUpdate
  by_cases empty : bytes.take (intOfSize bytes.length).toNat = []
  · rw [empty, myEvpLoop_nil, List.append_nil]
  · exact myEvpLoop_once empty rfl rfl 125

theorem crypt_all {crypt : EvpCipher → List UInt8 → List UInt8 → List UInt8 → Option (List UInt8)}
    (fresh : ctx.given = [] ∧ ctx.made = []) (nonempty : bytes ≠ []) (small : bytes.length < 2 ^ 31)
    (done : crypt ctx.cipher ctx.key ctx.nonce bytes = some out) (size : out.length = bytes.length) :
    myEvpUpdate (EvpCipherCtx.update crypt) ctx bytes = some ({ ctx with given := bytes, made := out }, out) := by
  have whole : bytes.take (intOfSize bytes.length).toNat = bytes := by
    rw [intOfSize_of_small small, Int.toNat_natCast, List.take_length]
  have step : EvpCipherCtx.update crypt ctx bytes = some ({ ctx with given := bytes, made := out }, out) := by
    simp only [EvpCipherCtx.update, fresh.1, fresh.2, List.nil_append, done, Option.map_some, List.length_nil,
      List.drop_zero]
  rw [myEvpUpdate, whole]
  exact myEvpLoop_once nonempty step size 125

end Update

variable {gcm : Gcm} {serverName nonce sealed : List UInt8} (dtoken : OauthToken) {tag : List UInt8}

theorem Gcm.Correct.opens (correct : gcm.Correct) (cipher : EvpCipher) (key : List UInt8)
    (usual : nonce.length = oauthGcmNonceSize) (serverName : List UInt8) {field : List UInt8} (nonempty : field ≠ [])
    (small : field.length < 2 ^ 31) :
    ∃ sealed tag, sealField gcm cipher key nonce serverName field = some (sealed, tag) ∧
      sealed.length = field.length ∧ tag.length = oauthGcmTagSize ∧
      openField gcm cipher key nonce serverName sealed tag = some field := by
  obtain ⟨sealed, encrypted, size, decrypted⟩ := correct.decrypts cipher key nonce field usual small
  have ready : ¬ gcm.ready cipher key nonce = false := by
    rw [correct.ready cipher key nonce usual]
    decide
  have nonempty' : sealed ≠ [] := by
    rw [← List.length_pos_iff, size]
    exact List.length_pos_iff.mpr nonempty
  refine ⟨sealed, gcm.tag cipher key nonce (serverName.take (intOfSize serverName.length).toNat) sealed, ?_, size,
    correct.tagSize _ _ _ _ _, ?_⟩
  · rw [sealField, if_neg ready, associate_all]
    simp only [List.nil_append]
    rw [crypt_all ⟨rfl, rfl⟩ nonempty small encrypted size]
  · rw [openField, if_neg ready, associate_all]
    simp only [List.nil_append]
    rw [crypt_all ⟨rfl, rfl⟩ nonempty' (by omega) decrypted size.symm]
    simp only [if_true]

/-- The nonce behind its length, as a token starts with it. -/
def nonceField (nonce : List UInt8) : List UInt8 := bytes16 (nswap16 (UInt16.ofNat oauthGcmNonceSize)) ++ nonce

theorem length_nonceField (usual : nonce.length = oauthGcmNonceSize) :
    (nonceField nonce).length = oauthGcmNonceSize + 2 := by
  rw [nonceField, List.length_append, usual]
  rfl

/-- The part of a token that is encrypted. -/
def OauthToken.block (dtoken : OauthToken) : List UInt8 :=
  bytes16 (nswap16 dtoken.keyLength) ++ dtoken.macKey.slice 0 dtoken.keyLength.toNat ++
    bytes64 (nswap64 dtoken.timestamp) ++ bytes32 (nswap32 dtoken.lifetime)

theorem OauthToken.length_block : dtoken.block.length = dtoken.keyLength.toNat + 14 := by
  simp only [block, List.length_append, Memory.length_slice, length_bytes64]
  show 2 + dtoken.keyLength.toNat + 8 + 4 = _
  omega

theorem origField_written (nonce : List UInt8) :
    (origField dtoken nonce).written = nonceField nonce ++ dtoken.block := by
  have empty : Writer.empty.written = [] := rfl
  simp only [origField, Writer.written_put, empty, List.nil_append, nonceField, OauthToken.block, List.append_assoc]

theorem origField_parts (usual : nonce.length = oauthGcmNonceSize) :
    (origField dtoken nonce).field.slice 0 (oauthGcmNonceSize + 2) = nonceField nonce ∧
      (origField dtoken nonce).field.slice (oauthGcmNonceSize + 2)
          ((origField dtoken nonce).len - (oauthGcmNonceSize + 2)) = dtoken.block := by
  have written := origField_written dtoken nonce
  have front := length_nonceField usual
  have total := congrArg List.length written
  rw [Writer.length_written, List.length_append, front] at total
  obtain ⟨head, rest⟩ := Memory.slice_parts written
  rw [front] at head rest
  rw [Nat.zero_add] at rest
  rw [total, Nat.add_sub_cancel_left]
  exact ⟨head, rest⟩

theorem readField_block {decoded : Memory} {dtoken : OauthToken}
    (stored : decoded.slice 0 dtoken.block.length = dtoken.block) (old : OauthToken) :
    readField decoded old =
      { old with
        keyLength := dtoken.keyLength
        macKey := old.macKey.write 0 (dtoken.macKey.slice 0 dtoken.keyLength.toNat)
        timestamp := dtoken.timestamp
        lifetime := dtoken.lifetime } := by
  obtain ⟨front, lifetime⟩ := Memory.slice_parts stored
  obtain ⟨front, timestamp⟩ := Memory.slice_parts front
  obtain ⟨front, macKey⟩ := Memory.slice_parts front
  have keyLength : net16 decoded 0 = dtoken.keyLength := net16_of_slice front
  have two : (bytes16 (nswap16 dtoken.keyLength)).length = 2 := rfl
  simp only [List.length_append, two, Memory.length_slice, length_bytes64, Nat.zero_add] at macKey timestamp lifetime
  simp only [readField, keyLength, macKey, net64_of_slice timestamp, net32_of_slice lifetime]

theorem tokenField_written (token : Memory) (front out tag : List UInt8) :
    (tokenField token front out tag).written = front ++ out ++ tag := by
  have start : (⟨token, 0⟩ : Writer).written = [] := rfl
  rw [tokenField, Writer.written_put, Writer.written_put, Writer.written_put, start, List.nil_append]

/-- What `encode_oauth_token_gcm` returns: header, nonce, sealed block and tag, in a token of that size. -/
theorem encodeOauthTokenGcm_written {key : OauthKey} {dtoken : OauthToken} {nonce0 : Option Memory} {random : Memory}
    {cipher : EvpCipher} (fits : dtoken.keyLength.toNat ≤ maxShaSize)
    (supported : getCipherType key.asRsAlg = some cipher)
    (given : (nonce0.getD random).slice 0 oauthGcmNonceSize = nonce) (size : sealed.length = dtoken.block.length)
    (tagSize : tag.length = oauthGcmTagSize)
    (seals : sealField gcm cipher key.asRsKey nonce serverName dtoken.block = some (sealed, tag))
    (etoken : EncodedOauthToken) :
    ∃ out, encodeOauthTokenGcm gcm serverName etoken key dtoken nonce0 random = some out ∧
      out.size = dtoken.keyLength.toNat + 44 ∧
      out.token.slice 0 out.size = nonceField nonce ++ sealed ++ tag := by
  have usual : nonce.length = oauthGcmNonceSize := by rw [← given, Memory.length_slice]
  obtain ⟨front, block⟩ := origField_parts dtoken usual
  have written := tokenField_written etoken.token (nonceField nonce) sealed tag
  have total := congrArg List.length written
  rw [Writer.length_written] at total
  have outSize : 2 + oauthGcmNonceSize + (sealed.length + oauthGcmTagSize) =
      (tokenField etoken.token (nonceField nonce) sealed tag).len := by
    rw [total, List.length_append, List.length_append, length_nonceField usual, tagSize]
    omega
  refine ⟨⟨(tokenField etoken.token (nonceField nonce) sealed tag).field,
    2 + oauthGcmNonceSize + (sealed.length + oauthGcmTagSize)⟩, ?_, ?_, ?_⟩
  · simp only [encodeOauthTokenGcm, if_pos fits, given, supported, block, seals, front]
  · show 2 + 12 + (sealed.length + 16) = _
    rw [size, OauthToken.length_block]
    omega
  · rw [outSize]
    exact written

/-- A token written by `encode_oauth_token_gcm` is split again as it was put together. -/
theorem decodeOauthTokenGcm_written {key : OauthKey} {dtoken : OauthToken} {cipher : EvpCipher}
    {etoken : EncodedOauthToken} (least : 1 ≤ dtoken.keyLength.toNat)
    (supported : getCipherType key.asRsAlg = some cipher) (usual : nonce.length = oauthGcmNonceSize)
    (size : sealed.length = dtoken.block.length) (tagSize : tag.length = oauthGcmTagSize)
    (opens : openField gcm cipher key.asRsKey nonce serverName sealed tag = some dtoken.block)
    (total : etoken.size = dtoken.keyLength.toNat + 44)
    (written : etoken.token.slice 0 etoken.size = nonceField nonce ++ sealed ++ tag) (old : OauthToken)
    (decodedField : Memory) :
    decodeOauthTokenGcm gcm serverName etoken key old decodedField =
      (0, { nonceLength := UInt16.ofNat oauthGcmNonceSize
            nonce := old.nonce.write 0 nonce
            keyLength := dtoken.keyLength
            macKey := old.macKey.write 0 (dtoken.macKey.slice 0 dtoken.keyLength.toNat)
            timestamp := dtoken.timestamp
            lifetime := dtoken.lifetime }) := by
  have bound := dtoken.keyLength.toNat_lt
  have block := dtoken.length_block
  have two : (bytes16 (nswap16 (UInt16.ofNat oauthGcmNonceSize))).length = 2 := rfl
  have twelve : (UInt16.ofNat oauthGcmNonceSize).toNat = 12 := rfl
  obtain ⟨front, tagPart⟩ := Memory.slice_parts written
  obtain ⟨front, sealedPart⟩ := Memory.slice_parts front
  obtain ⟨front, noncePart⟩ := Memory.slice_parts front
  have nonceLen : net16 etoken.token 0 = UInt16.ofNat oauthGcmNonceSize := net16_of_slice front
  have enough : ¬ etoken.size < 2 + 4 + 8 + 12 + 2 + oauthGcmTagSize + 1 := by
    show ¬ etoken.size < 45
    omega
  have fieldSize : (etoken.size % 2 ^ 32 + 2 ^ 32 - 12 - 2 - oauthGcmTagSize) % 2 ^ 32 = sealed.length := by
    show (etoken.size % 2 ^ 32 + 2 ^ 32 - 12 - 2 - 16) % 2 ^ 32 = _
    omega
  simp only [List.length_append, length_nonceField usual, two, usual, tagSize, Nat.zero_add]
    at noncePart sealedPart tagPart
  have noncePart : etoken.token.slice 2 12 = nonce := noncePart
  have sealedPart : etoken.token.slice (12 + 2) sealed.length = sealed := sealedPart
  have tagPart : etoken.token.slice (12 + 2 + sealed.length) oauthGcmTagSize = tag := tagPart
  simp only [decodeOauthTokenGcm, nonceLen, twelve, if_neg enough, fieldSize, noncePart, sealedPart, tagPart, supported,
    opens]
  rw [readField_block (Memory.slice_write decodedField 0 dtoken.block)]

/-- A token comes back from `decode_oauth_token_gcm` as it went into `encode_oauth_token_gcm`, whatever the buffers held
before. -/
theorem oauth_token_round_trip {gcm : Gcm} (correct : gcm.Correct) (serverName : List UInt8) {key : OauthKey}
    (supported : key.asRsAlg = .a256gcm ∨ key.asRsAlg = .a128gcm) {dtoken : OauthToken}
    (least : 1 ≤ dtoken.keyLength.toNat) (most : dtoken.keyLength.toNat ≤ 128) (nonce0 : Option Memory)
    (random : Memory) (buffer : EncodedOauthToken) (old : OauthToken) (decodedField : Memory) :
    ∃ etoken, encodeOauthTokenGcm gcm serverName buffer key dtoken nonce0 random = some etoken ∧
      ∃ decoded, decodeOauthTokenGcm gcm serverName etoken key old decodedField = (0, decoded) ∧
        decoded.keyLength = dtoken.keyLength ∧
        decoded.macKey.slice 0 dtoken.keyLength.toNat = dtoken.macKey.slice 0 dtoken.keyLength.toNat ∧
        decoded.timestamp = dtoken.timestamp ∧ decoded.lifetime = dtoken.lifetime ∧
        decoded.nonceLength.toNat = oauthGcmNonceSize ∧
        decoded.nonce.slice 0 oauthGcmNonceSize = (nonce0.getD random).slice 0 oauthGcmNonceSize := by
  obtain ⟨nonce, given⟩ : ∃ nonce, (nonce0.getD random).slice 0 oauthGcmNonceSize = nonce := ⟨_, rfl⟩
  have usual : nonce.length = oauthGcmNonceSize := by rw [← given, Memory.length_slice]
  obtain ⟨cipher, known⟩ : ∃ cipher, getCipherType key.asRsAlg = some cipher := by
    rcases supported with alg | alg <;> rw [alg]
    · exact ⟨_, rfl⟩
    · exact ⟨_, rfl⟩
  have block := dtoken.length_block
  have nonempty : dtoken.block ≠ [] := List.length_pos_iff.mp (by omega)
  obtain ⟨sealed, tag, seals, size, tagSize, opens⟩ :=
    correct.opens cipher key.asRsKey usual serverName nonempty (by omega)
  obtain ⟨etoken, encoded, total, written⟩ :=
    encodeOauthTokenGcm_written most known given size tagSize seals buffer
  have decoded := decodeOauthTokenGcm_written least known usual size tagSize opens total written old decodedField
  refine ⟨etoken, encoded, _, decoded, rfl, ?_, rfl, rfl, rfl, ?_⟩
  · have stored := Memory.slice_write old.macKey 0 (dtoken.macKey.slice 0 dtoken.keyLength.toNat)
    rwa [Memory.length_slice] at stored
  · have stored := Memory.slice_write old.nonce 0 nonce
    rw [usual] at stored
    rw [stored, given]

/-- A cipher that adds one to every byte, with a tag of zeros. -/
def exampleGcm : Gcm where
  ready _ _ _ := true
  encrypt _ _ _ text := some (text.map (· + 1))
  decrypt _ _ _ sealed := some (sealed.map (· - 1))
  tag _ _ _ _ _ := List.replicate oauthGcmTagSize 0

theorem exampleGcm_correct : exampleGcm.Correct where
  ready _ _ _ _ := rfl
  decrypts _ _ _ text _ _ := by
    refine ⟨text.map (· + 1), rfl, List.length_map _, ?_⟩
    have undone : (fun b : UInt8 => b - 1) ∘ (fun b => b + 1) = id := by
      funext b
      simp
    simp only [exampleGcm, List.map_map, undone, List.map_id]
  tagSize _ _ _ _ _ := List.length_replicate

/-- A token with a MAC key of 20 bytes. -/
def exampleToken : OauthToken := ⟨0, fun _ => 0, 20, fun i => UInt8.ofNat i, 92470300704768, 3600⟩

def blankToken : OauthToken := ⟨0, fun _ => 0, 0, fun _ => 0, 0, 0⟩

theorem oauth_token_round_trip_sha1 :
    ∃ etoken, encodeOauthTokenGcm exampleGcm [97] ⟨fun _ => 0, 0⟩ ⟨.a128gcm, []⟩ exampleToken none (fun _ => 7) =
        some etoken ∧
      ∃ decoded, decodeOauthTokenGcm exampleGcm [97] etoken ⟨.a128gcm, []⟩ blankToken (fun _ => 0) = (0, decoded) ∧
        decoded.keyLength = 20 ∧ decoded.macKey.slice 0 20 = exampleToken.macKey.slice 0 20 ∧
        decoded.timestamp = 92470300704768 ∧ decoded.lifetime = 3600 ∧
        decoded.nonceLength.toNat = oauthGcmNonceSize ∧
        decoded.nonce.slice 0 oauthGcmNonceSize = Memory.slice (fun _ => 7) 0 oauthGcmNonceSize :=
  oauth_token_round_trip exampleGcm_correct [97] (Or.inr rfl) (by decide) (by decide) none _ _ _ _

end TurnCluster
