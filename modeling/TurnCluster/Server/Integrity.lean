import TurnCluster.Relay.Writing
import TurnCluster.Server.Draft

namespace TurnCluster
namespace Integrity

/-- `SHATYPE`. Its value `SHATYPE_ERROR` names no hash, and nothing in the source uses it. -/
inductive ShaType where
  | sha1
  | sha256
  | sha384
  | sha512
  deriving DecidableEq, Repr

inductive TurnCredentialType where
  | none
  | longTerm
  | shortTerm
  | undefined
  deriving DecidableEq, Repr

def shaSizeBytes : ShaType → Nat
  | .sha256 => 32
  | .sha384 => 48
  | .sha512 => 64
  | .sha1 => 20

def getHmackeySize : ShaType → Nat
  | .sha256 => 32
  | .sha384 => 48
  | .sha512 => 64
  | .sha1 => 16

/-- `stun_calculate_hmac`: no value where the library fails, which it does for a hash that it was built without. -/
structure Hmac where
  stunCalculateHmac : ShaType → List UInt8 → List UInt8 → Option (List UInt8)
  size : ∀ {shatype key data mac}, stunCalculateHmac shatype key data = some mac → mac.length = shaSizeBytes shatype

/-- The credentials that a message is signed with: `hmackey_t` and `password_t` are arrays of bytes. -/
structure Credentials where
  ct : TurnCredentialType
  key : List UInt8
  pwd : List UInt8
  shatype : ShaType

/-- Short-term credentials sign with the password up to its terminating zero. -/
def Credentials.sign (c : Credentials) (h : Hmac) (data : List UInt8) : Option (List UInt8) :=
  if c.ct = .shortTerm then h.stunCalculateHmac c.shatype (cString c.pwd) data
  else h.stunCalculateHmac c.shatype (c.key.take (getHmackeySize c.shatype)) data

variable {h : Hmac} {c : Credentials} {b : StunBuffer} {buf : Memory} {pos : Nat} {key : List UInt8} {len sar : Nat}

theorem Credentials.sign_size {data mac : List UInt8} (signed : c.sign h data = some mac) :
    mac.length = shaSizeBytes c.shatype := by
  unfold Credentials.sign at signed
  split at signed
  · exact h.size signed
  · exact h.size signed

/-- `stun_attr_add_integrity_str`, with the value it returns. The attribute is added with what the array `hmac`
of the function happens to hold, and the HMAC is written over it. -/
def stunAttrAddIntegrityStr (h : Hmac) (c : Credentials) (hmac : Memory) (b : StunBuffer) (pos len : Nat) :
    StunBuffer × Nat × Int :=
  let shasize := shaSizeBytes c.shatype
  if stunAttrAddReturns b pos len (hmac.slice 0 shasize) < 0 then (b, len, -1)
  else
    let (b, len) := stunAttrAddBytes b pos len stunAttributeMessageIntegrity (hmac.slice 0 shasize)
    match c.sign h ((b.view pos).slice 0 (len - 4 - shasize)) with
    | none => (b, len, -1)
    | some mac => (b.write (pos + len - shasize) mac, len, 0)

def stunSetCommandMessageLenStr (buf : Memory) (len : Nat) : Option Memory :=
  if len < stunHeaderLength then none
  else some (buf.write 2 (bytes16 (nswap16 (UInt16.ofNat (len - stunHeaderLength)))))

/-- The hash that a MESSAGE-INTEGRITY of this length belongs to. -/
def shaOfLength (sarlen : Nat) : Option ShaType :=
  if sarlen = 32 then some .sha256
  else if sarlen = 48 then some .sha384
  else if sarlen = 64 then some .sha512
  else if sarlen = 20 then some .sha1
  else none

/-- The end of the check: the two values are compared, with the length of the message restored. -/
def compareHmac (h : Hmac) (c : Credentials) (buf changed : Memory) (sar shasize : Nat) : Memory × Int :=
  match c.sign h (changed.slice 0 (sar + 4 + shasize - 4 - shasize)) with
  | none => (buf, -1)
  | some newHmac =>
    match stunAttrGetValue buf sar with
    | none => (buf, -1)
    | some oldHmac => if buf.slice oldHmac shasize ≠ newHmac then (buf, 0) else (buf, 1)

/-- The check of the MESSAGE-INTEGRITY at `sar` once its length is known to be the right one. -/
def checkHmac (h : Hmac) (c : Credentials) (buf : Memory) (len sar shasize : Nat) : Memory × Int :=
  match stunGetCommandMessageLenStr buf len with
  | none => (buf, -1)
  | some origLen =>
    let newLen := sar + 4 + shasize
    if origLen < newLen then (buf, -1)
    else
      match stunSetCommandMessageLenStr buf newLen with
      | none => (buf, -1)
      | some changed =>
        compareHmac h c ((stunSetCommandMessageLenStr changed origLen).getD changed) changed sar shasize

/-- `stun_check_message_integrity_by_key_str`: what it leaves in the buffer and what it returns. -/
def stunCheckMessageIntegrityByKeyStr (h : Hmac) (c : Credentials) (buf : Memory) (len : Nat) : Memory × Int :=
  match stunAttrGetFirstByTypeStr buf len stunAttributeMessageIntegrity with
  | none => (buf, -1)
  | some sar =>
    match shaOfLength (stunAttrGetLen buf sar) with
    | none => (buf, -1)
    | some shatype =>
      if c.shatype ≠ shatype then (buf, -1) else checkHmac h c buf len sar (shaSizeBytes shatype)

theorem shaOfLength_eq_some {sarlen : Nat} {shatype : ShaType} :
    shaOfLength sarlen = some shatype ↔ sarlen = shaSizeBytes shatype := by
  constructor
  · intro found
    unfold shaOfLength at found
    split_ifs at found with h256 h384 h512 h1
    · cases found
      exact h256
    · cases found
      exact h384
    · cases found
      exact h512
    · cases found
      exact h1
  · rintro rfl
    cases shatype <;> rfl

theorem shaSizeBytes_aligned (shatype : ShaType) : 20 ≤ shaSizeBytes shatype ∧ shaSizeBytes shatype % 4 = 0 := by
  cases shatype <;> decide

/-- The bytes that an HMAC covers: those before the attribute at `sar`, with a header that says the message ends
with a MESSAGE-INTEGRITY of `shasize` bytes there. -/
def hmacInput (buf : Memory) (sar shasize : Nat) : List UInt8 :=
  buf.slice 0 2 ++ bytes16 (nswap16 (UInt16.ofNat (sar + 4 + shasize - stunHeaderLength))) ++ buf.slice 4 (sar - 4)

theorem slice_stunSetCommandMessageLenStr {buf : Memory} {sar shasize : Nat} (behind : stunHeaderLength ≤ sar) :
    ∃ changed, stunSetCommandMessageLenStr buf (sar + 4 + shasize) = some changed ∧
      changed.slice 0 (sar + 4 + shasize - 4 - shasize) = hmacInput buf sar shasize ∧
      ∃ bytes : List UInt8, bytes.length = 2 ∧ changed = buf.write 2 bytes := by
  have header : stunHeaderLength = 20 := rfl
  let bytes := bytes16 (nswap16 (UInt16.ofNat (sar + 4 + shasize - stunHeaderLength)))
  refine ⟨buf.write 2 bytes, if_neg (by omega), ?_, bytes, rfl, rfl⟩
  have parts : sar + 4 + shasize - 4 - shasize = 2 + 2 + (sar - 4) := by omega
  rw [parts, Memory.slice_append, Memory.slice_append, hmacInput]
  have before : (buf.write 2 bytes).slice 0 2 = buf.slice 0 2 :=
    Memory.slice_congr (fun i inside => Memory.write_outside (by omega))
  have written : (buf.write 2 bytes).slice (0 + 2) 2 = bytes := rfl
  have after : (buf.write 2 bytes).slice (0 + (2 + 2)) (sar - 4) = buf.slice 4 (sar - 4) :=
    Memory.slice_congr (fun i _ => Memory.write_outside (Or.inr (show 2 + 2 ≤ 0 + (2 + 2) + i by omega)))
  rw [before, written, after]

theorem stunSetCommandMessageLenStr_restores {origLen : Nat} {bytes : List UInt8}
    (announced : stunGetCommandMessageLenStr buf len = some origLen) (two : bytes.length = 2) :
    stunSetCommandMessageLenStr (buf.write 2 bytes) origLen = some buf := by
  have field : origLen = (net16 buf 2).toNat + stunHeaderLength := by
    unfold stunGetCommandMessageLenStr at announced
    split_ifs at announced
    exact (Option.some.inj announced).symm
  have same : UInt16.ofNat (origLen - stunHeaderLength) = net16 buf 2 := by
    rw [field, Nat.add_sub_cancel, UInt16.ofNat_toNat]
  unfold stunSetCommandMessageLenStr
  rw [if_neg (by omega), same, Memory.write_write (two.trans rfl), bytes16_net16, Memory.write_slice]

/-- What the comparison at a MESSAGE-INTEGRITY comes to. -/
def verdict (h : Hmac) (c : Credentials) (buf : Memory) (sar : Nat) : Int :=
  if stunAttrGetLen buf sar ≠ shaSizeBytes c.shatype then -1
  else
    match c.sign h (hmacInput buf sar (shaSizeBytes c.shatype)) with
    | none => -1
    | some newHmac => if buf.slice (sar + 4) (shaSizeBytes c.shatype) = newHmac then 1 else 0

theorem verdict_eq_one :
    verdict h c buf sar = 1 ↔ stunAttrGetLen buf sar = shaSizeBytes c.shatype ∧
      c.sign h (hmacInput buf sar (shaSizeBytes c.shatype)) = some (buf.slice (sar + 4) (shaSizeBytes c.shatype)) := by
  unfold verdict
  by_cases long : stunAttrGetLen buf sar = shaSizeBytes c.shatype
  · cases c.sign h (hmacInput buf sar (shaSizeBytes c.shatype)) with
    | none => simp [long]
    | some newHmac =>
      by_cases same : buf.slice (sar + 4) (shaSizeBytes c.shatype) = newHmac
      · simp [long, same]
      · simp [long, same, Ne.symm same]
  · simp [long]

theorem compareHmac_eq {changed : Memory} (long : stunAttrGetLen buf sar = shaSizeBytes c.shatype)
    (input : changed.slice 0 (sar + 4 + shaSizeBytes c.shatype - 4 - shaSizeBytes c.shatype) =
      hmacInput buf sar (shaSizeBytes c.shatype)) :
    compareHmac h c buf changed sar (shaSizeBytes c.shatype) = (buf, verdict h c buf sar) := by
  have some' := (shaSizeBytes_aligned c.shatype).1
  have value : stunAttrGetValue buf sar = some (sar + 4) := if_neg (by omega)
  unfold compareHmac verdict
  rw [input, if_neg (by simp [long]), value]
  cases c.sign h (hmacInput buf sar (shaSizeBytes c.shatype)) with
  | none => rfl
  | some newHmac =>
    by_cases same : buf.slice (sar + 4) (shaSizeBytes c.shatype) = newHmac
    · simp [same]
    · simp [same]

theorem stunCheckMessageIntegrityByKeyStr_eq (h : Hmac) (c : Credentials) (buf : Memory) (len : Nat) :
    stunCheckMessageIntegrityByKeyStr h c buf len =
      (buf, match stunAttrGetFirstByTypeStr buf len stunAttributeMessageIntegrity with
        | none => -1
        | some sar => verdict h c buf sar) := by
  unfold stunCheckMessageIntegrityByKeyStr
  cases found : stunAttrGetFirstByTypeStr buf len stunAttributeMessageIntegrity with
  | none => rfl
  | some sar =>
    dsimp only
    by_cases long : stunAttrGetLen buf sar = shaSizeBytes c.shatype
    · obtain ⟨k, there⟩ := nthAttr_of_first found
      obtain ⟨origLen, announced, fits⟩ := nthAttr_announced there
      have behind := (nthAttr_safe there).2.1
      have rounded := le_roundUp4 (stunAttrGetLen buf sar)
      obtain ⟨changed, set, input, bytes, two, written⟩ :=
        @slice_stunSetCommandMessageLenStr buf sar (shaSizeBytes c.shatype) behind
      rw [shaOfLength_eq_some.mpr long]
      dsimp only
      rw [if_neg (by simp)]
      unfold checkHmac
      rw [announced]
      dsimp only
      rw [if_neg (by omega), set]
      dsimp only
      rw [written, stunSetCommandMessageLenStr_restores announced two, ← written]
      exact compareHmac_eq long input
    · have other : verdict h c buf sar = -1 := if_pos long
      rw [other]
      cases sized : shaOfLength (stunAttrGetLen buf sar) with
      | none => rfl
      | some shatype =>
        have mismatch : c.shatype ≠ shatype := by
          rintro rfl
          exact long (shaOfLength_eq_some.mp sized)
        dsimp only
        rw [if_pos mismatch]

/-- The server's own check is this one for long-term credentials and SHA-1. -/
theorem stunCheckMessageIntegrityByKeyStr_server {server : Server.TurnServer}
    (same : ∀ data, h.stunCalculateHmac .sha1 (key.take (getHmackeySize .sha1)) data = some (server.hmac key data))
    (m : Server.Request) (pwd : List UInt8) :
    Server.stunCheckMessageIntegrityByKeyStr server m key =
      (stunCheckMessageIntegrityByKeyStr h ⟨.longTerm, key, pwd, .sha1⟩ m.buf m.len).2 := by
  rw [stunCheckMessageIntegrityByKeyStr_eq]
  unfold Server.stunCheckMessageIntegrityByKeyStr Server.firstIntegrity
  cases found : stunAttrGetFirstByTypeStr m.buf m.len stunAttributeMessageIntegrity with
  | none => rfl
  | some sar =>
    obtain ⟨k, there⟩ := nthAttr_of_first found
    obtain ⟨origLen, announced, fits⟩ := nthAttr_announced there
    have rounded := le_roundUp4 (stunAttrGetLen m.buf sar)
    have twenty : shaSizeBytes .sha1 = Server.sha1SizeBytes := rfl
    have signed : Credentials.sign ⟨.longTerm, key, pwd, .sha1⟩ h (hmacInput m.buf sar Server.sha1SizeBytes) =
        some (server.hmac key (Server.hmacCovered m.buf sar)) := same _
    dsimp only [verdict]
    rw [twenty, signed]
    by_cases long : stunAttrGetLen m.buf sar = Server.sha1SizeBytes
    · rw [if_neg (not_not.mpr long), if_neg (not_not.mpr long), announced]
      dsimp only
      rw [if_neg (by omega)]
    · rw [if_pos long, if_pos long]

/-- An attribute with room whose HMAC is calculated stands where the room was made, and the HMAC is that of
the message before it. -/
theorem stunAttrAddIntegrityStr_adds {hmac : Memory} (message : MessageAt b pos len) (aligned : len % 4 = 0)
    (returned : (stunAttrAddIntegrityStr h c hmac b pos len).2.2 = 0) :
    ∃ mac, mac.length = shaSizeBytes c.shatype ∧ grownLength len mac.length < maxStunMessageSize ∧
      stunAttrAddIntegrityStr h c hmac b pos len =
        ((stunAttrAddBytes b pos len stunAttributeMessageIntegrity mac).1,
          (stunAttrAddBytes b pos len stunAttributeMessageIntegrity mac).2, 0) ∧
      c.sign h (((stunAttrAddBytes b pos len stunAttributeMessageIntegrity mac).1.view pos).slice 0 len) = some mac := by
  have sized : (hmac.slice 0 (shaSizeBytes c.shatype)).length = shaSizeBytes c.shatype := Memory.length_slice _ _ _
  have divisible := (shaSizeBytes_aligned c.shatype).2
  have grown : grownLength len (shaSizeBytes c.shatype) = len + 4 + shaSizeBytes c.shatype := by
    unfold grownLength roundUp4
    rw [if_pos (by omega)]
  by_cases full : maxStunMessageSize ≤ grownLength len (shaSizeBytes c.shatype)
  · have refused : stunAttrAddReturns b pos len (hmac.slice 0 (shaSizeBytes c.shatype)) = -1 := by
      rw [message.addReturns, sized, if_pos full]
    simp [stunAttrAddIntegrityStr, refused] at returned
  · have accepted : stunAttrAddReturns b pos len (hmac.slice 0 (shaSizeBytes c.shatype)) = 0 := by
      rw [message.addReturns, sized, if_neg full]
    let made := (stunAttrAddBytes b pos len stunAttributeMessageIntegrity (hmac.slice 0 (shaSizeBytes c.shatype))).1
    have added : stunAttrAddBytes b pos len stunAttributeMessageIntegrity (hmac.slice 0 (shaSizeBytes c.shatype)) =
        (made, len + 4 + shaSizeBytes c.shatype) := by
      have length := stunAttrAddBytes_length message stunAttributeMessageIntegrity (hmac.slice 0 (shaSizeBytes c.shatype))
        (by rw [sized]; omega)
      rw [sized, grown] at length
      rw [← length]
    have data : len + 4 + shaSizeBytes c.shatype - 4 - shaSizeBytes c.shatype = len := by omega
    have place : pos + (len + 4 + shaSizeBytes c.shatype) - shaSizeBytes c.shatype = pos + len + 4 := by omega
    unfold stunAttrAddIntegrityStr at returned ⊢
    dsimp only at returned ⊢
    rw [accepted, if_neg (by decide), added] at returned ⊢
    dsimp only at returned ⊢
    rw [data] at returned ⊢
    cases signed : c.sign h ((made.view pos).slice 0 len) with
    | none =>
      rw [signed] at returned
      exact absurd (show (-1 : Int) = 0 from returned) (by decide)
    | some mac =>
      have long := Credentials.sign_size signed
      have fits : grownLength len mac.length < maxStunMessageSize := by
        rw [long]
        omega
      have length := stunAttrAddBytes_length message stunAttributeMessageIntegrity mac fits
      rw [long, grown] at length
      refine ⟨mac, long, fits, ?_, ?_⟩
      · rw [← stunAttrAddBytes_overwrite message stunAttributeMessageIntegrity (sized.trans long.symm) fits, length,
          ← place]
      · rw [stunAttrAddBytes_before message stunAttributeMessageIntegrity (sized.trans long.symm) fits]
        exact signed

/-- The server's own signing is this one for long-term credentials and SHA-1. -/
theorem stunAttrAddIntegrityStr_server {sign : List UInt8 → List UInt8}
    (same : ∀ data, h.stunCalculateHmac .sha1 (key.take (getHmackeySize .sha1)) data = some (sign data))
    (message : MessageAt b pos len) (aligned : len % 4 = 0) (pwd : List UInt8) (hmac : Memory) :
    let signed := stunAttrAddIntegrityStr h ⟨.longTerm, key, pwd, .sha1⟩ hmac b pos len
    TurnCluster.stunAttrAddIntegrityStr sign b pos len = (signed.1, signed.2.1) := by
  have sized : (hmac.slice 0 (shaSizeBytes .sha1)).length = Server.sha1SizeBytes := Memory.length_slice _ _ _
  have signs (data : List UInt8) : Credentials.sign ⟨.longTerm, key, pwd, .sha1⟩ h data = some (sign data) := same data
  rcases Nat.lt_or_ge (grownLength len Server.sha1SizeBytes) maxStunMessageSize with room | full
  · obtain ⟨value, long, added, own⟩ := stunAttrAddIntegrityStr_room sign message aligned room
    have returned : (stunAttrAddIntegrityStr h ⟨.longTerm, key, pwd, .sha1⟩ hmac b pos len).2.2 = 0 := by
      unfold stunAttrAddIntegrityStr
      dsimp only
      rw [message.addReturns, sized, if_neg (Nat.not_le.mpr room), if_neg (by decide), signs]
    obtain ⟨mac, macLong, fits, macAdded, signed⟩ := stunAttrAddIntegrityStr_adds message aligned returned
    have equal : value.length = mac.length := long.trans macLong.symm
    rw [signs, Option.some.injEq] at signed
    have macs : value = mac := by
      rw [own, ← stunAttrAddBytes_before message stunAttributeMessageIntegrity equal fits, signed]
      exact List.take_left' macLong
    rw [added, macAdded, macs]
  · rw [stunAttrAddIntegrityStr_full sign message full]
    unfold stunAttrAddIntegrityStr
    dsimp only
    rw [message.addReturns, sized, if_pos full, if_pos (by decide)]

/-- What was signed is read again, whatever was added behind. -/
theorem hmacInput_of_extended {b' : StunBuffer} {len' shasize : Nat} (long : stunHeaderLength ≤ len)
    (message : MessageAt b pos (len + 4 + shasize)) (extended : Extended b pos (len + 4 + shasize) b' len')
    (typed : SameBetween b b' pos (pos + 2)) : hmacInput (b'.view pos) len shasize = (b.view pos).slice 0 len := by
  have header : stunHeaderLength = 20 := rfl
  have field : UInt16.ofNat (len + 4 + shasize - stunHeaderLength) = net16 (b.view pos) 2 := by
    rw [← message.2, Nat.add_sub_cancel, UInt16.ofNat_toNat]
  have parts : len = 2 + 2 + (len - 4) := by omega
  have first : (b'.view pos).slice 0 2 = (b.view pos).slice 0 2 := by
    rw [view_slice, view_slice]
    exact typed.slice (by omega) (by omega)
  have last : (b'.view pos).slice 4 (len - 4) = (b.view pos).slice 4 (len - 4) := by
    rw [view_slice, view_slice]
    exact extended.same.slice (by omega) (by omega)
  unfold hmacInput
  rw [field, bytes16_net16, first, last]
  conv_rhs => rw [parts, Memory.slice_append, Memory.slice_append]

theorem stunAttrAddIntegrityStr_checked {hmac : Memory} {attrs : List Attribute} (composed : Composed b pos len attrs)
    (unsigned : ∀ a ∈ attrs, a.attrType ≠ stunAttributeMessageIntegrity)
    (returned : (stunAttrAddIntegrityStr h c hmac b pos len).2.2 = 0) (calls : List Attribute) :
    let signed := stunAttrAddIntegrityStr h c hmac b pos len
    let sent := stunAttrAddAll signed.1 pos signed.2.1 calls
    (stunCheckMessageIntegrityByKeyStr h c (sent.1.view pos) sent.2).2 = 1 := by
  obtain ⟨mac, long, fits, added, signed⟩ := stunAttrAddIntegrityStr_adds composed.message composed.aligned returned
  rw [added]
  have grow := composed.grow stunAttributeMessageIntegrity mac fits
  have length : (stunAttrAddBytes b pos len stunAttributeMessageIntegrity mac).2 = len + 4 + shaSizeBytes c.shatype := by
    have divisible := (shaSizeBytes_aligned c.shatype).2
    have aligned := composed.aligned
    rw [stunAttrAddBytes_length composed.message stunAttributeMessageIntegrity mac fits, long, grownLength, roundUp4,
      if_pos (by omega)]
  dsimp only
  generalize stunAttrAddBytes b pos len stunAttributeMessageIntegrity mac = made at grow length signed
  let start : Writing := ⟨made.1, made.2, attrs ++ [⟨stunAttributeMessageIntegrity, mac⟩]⟩
  have final := @Writing.addAll_composed start pos grow calls
  obtain ⟨extended, typed⟩ := @Writing.addAll_extended start pos grow.message calls
  obtain ⟨more, accepted⟩ := start.addAll_accepted pos calls
  rw [start.addAll_eq pos calls]
  generalize start.addAll pos calls = sent at final extended typed accepted
  have laid := final.laid
  rw [accepted, List.append_assoc] at laid
  obtain ⟨found, there⟩ := laid.first final.message (le_refl _) unsigned
  have place : stunHeaderLength + laidSize attrs = len := composed.laid.stop_eq.symm
  rw [place] at found there
  have covered : hmacInput (sent.b.view pos) len (shaSizeBytes c.shatype) = (made.1.view pos).slice 0 len := by
    have message := grow.message
    rw [length] at message
    have kept : Extended made.1 pos made.2 sent.b sent.len := extended
    rw [length] at kept
    exact hmacInput_of_extended composed.message.1 message kept typed
  have value : (sent.b.view pos).slice (len + 4) mac.length = mac := by
    rw [view_slice, ← Nat.add_assoc]
    exact there.value
  rw [stunCheckMessageIntegrityByKeyStr_eq]
  dsimp only
  rw [found]
  dsimp only
  rw [verdict, if_neg (by simp [there.length, long]), covered, signed]
  dsimp only
  rw [← long, if_pos value]

/-- A message that was signed passes the check with the same credentials. The check passes exactly the
messages whose first MESSAGE-INTEGRITY is right, and it leaves the buffer as it found it. -/
theorem message_integrity_complete_and_exact (h : Hmac) (c : Credentials) :
    (∀ (hmac : Memory) (b : StunBuffer) (pos len : Nat) (attrs : List Attribute), Composed b pos len attrs →
      (∀ a ∈ attrs, a.attrType ≠ stunAttributeMessageIntegrity) →
      (stunAttrAddIntegrityStr h c hmac b pos len).2.2 = 0 → ∀ calls : List Attribute,
        let signed := stunAttrAddIntegrityStr h c hmac b pos len
        let sent := stunAttrAddAll signed.1 pos signed.2.1 calls
        (stunCheckMessageIntegrityByKeyStr h c (sent.1.view pos) sent.2).2 = 1) ∧
    (∀ (buf : Memory) (len : Nat), (stunCheckMessageIntegrityByKeyStr h c buf len).2 = 1 ↔
      ∃ sar, stunAttrGetFirstByTypeStr buf len stunAttributeMessageIntegrity = some sar ∧
        stunAttrGetLen buf sar = shaSizeBytes c.shatype ∧
        c.sign h (hmacInput buf sar (shaSizeBytes c.shatype)) =
          some (buf.slice (sar + 4) (shaSizeBytes c.shatype))) ∧
    (∀ (buf : Memory) (len : Nat), (stunCheckMessageIntegrityByKeyStr h c buf len).1 = buf) := by
  refine ⟨?_, ?_, ?_⟩
  · intro hmac b pos len attrs composed unsigned returned calls
    exact stunAttrAddIntegrityStr_checked composed unsigned returned calls
  · intro buf len
    rw [stunCheckMessageIntegrityByKeyStr_eq]
    cases stunAttrGetFirstByTypeStr buf len stunAttributeMessageIntegrity with
    | none => simp
    | some sar => simpa using verdict_eq_one
  · intro buf len
    rw [stunCheckMessageIntegrityByKeyStr_eq]

/-- An HMAC for examples: the sum of the bytes, repeated. -/
def sumHmac : Hmac where
  stunCalculateHmac shatype key data := some (List.replicate (shaSizeBytes shatype) ((key ++ data).foldl (· + ·) 0))
  size := by
    rintro shatype key data mac ⟨⟩
    exact List.length_replicate

/-- A request that is signed with SHA-256, with a SOFTWARE attribute behind the HMAC. -/
theorem message_integrity_complete_and_exact_sha256 :
    let c : Credentials := ⟨.longTerm, List.replicate 64 7, [], .sha256⟩
    let w := Writing.start 1 .ioaNetworkBufferAllocate 8 (List.replicate 12 9)
    let signed := stunAttrAddIntegrityStr sumHmac c (fun _ => 0) w.b 8 w.len
    let sent := stunAttrAddAll signed.1 8 signed.2.1 [⟨stunAttributeSoftware, [71, 105, 97]⟩]
    (stunCheckMessageIntegrityByKeyStr sumHmac c (sent.1.view 8) sent.2).2 = 1 :=
  (message_integrity_complete_and_exact sumHmac ⟨.longTerm, List.replicate 64 7, [], .sha256⟩).1 (fun _ => 0) _ 8 _ []
    (Writing.start_composed 1 .ioaNetworkBufferAllocate 8 (List.replicate 12 9)) (by simp) rfl
    [⟨stunAttributeSoftware, [71, 105, 97]⟩]

end Integrity
end TurnCluster
