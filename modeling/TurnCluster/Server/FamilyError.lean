import TurnCluster.Server.Reflexive

namespace TurnCluster
namespace Server

/-- What an attribute leaves in the first byte of a message when it is written across its header, from the byte in
front of it: the second byte of ADDRESS-ERROR-CODE, SOFTWARE, MESSAGE-INTEGRITY or FINGERPRINT. -/
def overwriting : List UInt8 := [0x33, 0x22, 0x08, 0x28]

theorem method_of_overwritten {m : Memory} (first : m 0 ∈ overwriting) (len : Nat) :
    stunGetMethodStr m len ≠ stunMethodAllocate := by
  have methods : ∀ k : Fin 256, ∀ b ∈ overwriting,
      stunGetMethodStr (.ofList [b, UInt8.ofNat k.val]) 2 ≠ stunMethodAllocate := by decide +kernel
  unfold stunGetMethodStr
  split
  · decide
  · have word : net16 m 0 = net16 (.ofList [m 0, m 1]) 0 := congrArg nswap16 (le16_congr rfl rfl)
    have found := methods ⟨(m 1).toNat, (m 1).toNat_lt⟩ (m 0) first
    rw [show UInt8.ofNat (m 1).toNat = m 1 from UInt8.ofNat_toNat] at found
    unfold stunGetMethodStr at found
    rw [if_neg (by omega), ← word] at found
    exact found

/-- The two ways in which `stun_attr_add_str` computes the length of the message: the announced one, or -1. -/
theorem stunAttrRoom_spec (b : StunBuffer) (pos len alen : Nat) :
    ∃ clen newlen : Int, (stunGetCommandMessageLenStr (b.view pos) len = none ∧ clen = -1 ∨
        stunGetCommandMessageLenStr (b.view pos) len ≠ none ∧ 20 ≤ clen ∧ clen ≤ len) ∧
      clen + 4 + alen ≤ newlen ∧ newlen < clen + 8 + alen ∧
      stunAttrRoom b pos len alen =
        if (maxStunMessageSize : Int) ≤ newlen then none else some (((pos : Int) + clen).toNat, newlen.toNat) := by
  have rounded (n : Int) : n ≤ (if n % 4 = 0 then n else n + (4 - n % 4)) ∧
      (if n % 4 = 0 then n else n + (4 - n % 4)) < n + 4 := by
    split <;> omega
  unfold stunAttrRoom
  rw [Int.max_eq_left (Int.natCast_nonneg alen)]
  cases announced : stunGetCommandMessageLenStr (b.view pos) len with
  | none =>
    obtain ⟨lower, upper⟩ := rounded (-1 + 4 + alen)
    exact ⟨-1, _, Or.inl ⟨rfl, rfl⟩, lower, by omega, rfl⟩
  | some k =>
    have header : stunHeaderLength = 20 := rfl
    have bounds : 20 ≤ k ∧ k ≤ len := by
      unfold stunGetCommandMessageLenStr at announced
      split_ifs at announced
      have same := Option.some.inj announced
      omega
    obtain ⟨lower, upper⟩ := rounded (k + 4 + alen)
    exact ⟨k, _, Or.inr ⟨Option.some_ne_none k, by omega, by omega⟩, lower, by omega, rfl⟩

variable {b : StunBuffer} {len alen : Nat} {built : StunBuffer × Nat}

theorem stunAttrRoom_place {pos start newlen : Nat} (room : stunAttrRoom b pos len alen = some (start, newlen)) :
    alen + 3 ≤ newlen ∧ (start = pos - 1 ∨ pos + 20 ≤ start) := by
  obtain ⟨clen, grown, either, lower, _, made⟩ := stunAttrRoom_spec b pos len alen
  rw [made] at room
  split_ifs at room
  cases room
  omega

theorem full_of_no_room {pos : Nat} (full : stunAttrRoom b pos len alen = none) (small : alen ≤ 1000) :
    60000 ≤ len := by
  have limit : maxStunMessageSize = 65507 := rfl
  obtain ⟨clen, grown, either, _, upper, made⟩ := stunAttrRoom_spec b pos len alen
  rw [made] at full
  split_ifs at full
  omega

theorem write_first (b : StunBuffer) {place : Nat} (bytes : List UInt8) (behind : 19 ≤ place) :
    (b.write place bytes).mem.byte 18 = b.mem.byte 18 :=
  (@StunBuffer.write_same b place 18 19 bytes (Or.inl behind) 18 (le_refl _) (by omega)).1

theorem stunAttrHead_first (b : StunBuffer) (attr : UInt16) (alen : Int) {start : Nat} (newlen : Nat)
    (value : List UInt8) (place : start = 17 ∨ 38 ≤ start) :
    ((stunAttrHead b 18 attr alen start newlen).write (start + 4) value).mem.byte 18 =
      if start = 17 then (bytes16 (nswap16 attr)).getD 1 0 else b.mem.byte 18 := by
  have sized : (if newlen < stunHeaderLength then b
      else b.write (18 + 2) (bytes16 (nswap16 (UInt16.ofNat (newlen - stunHeaderLength))))).mem.byte 18 =
        b.mem.byte 18 := by
    split
    · rfl
    · exact write_first b _ (by omega)
  rw [write_first _ value (by omega)]
  unfold stunAttrHead
  dsimp only
  rcases place with rfl | far
  · rw [if_pos rfl]
    exact @StunBuffer.write_byte _ 17 1 _ (by simp [bytes16])
  · rw [write_first _ _ (by omega), sized, if_neg (by omega)]

/-- A message whose first byte is gone, and of which something is sent. -/
structure Overwritten (b : StunBuffer) (len : Nat) : Prop where
  first : b.mem.byte 18 ∈ overwriting
  long : 1 ≤ len

theorem Overwritten.addBytes {b : StunBuffer} {len : Nat} (overwritten : Overwritten b len) {attr : UInt16}
    (listed : (bytes16 (nswap16 attr)).getD 1 0 ∈ overwriting) (value : List UInt8) :
    Overwritten (stunAttrAddBytes b 18 len attr value).1 (stunAttrAddBytes b 18 len attr value).2 := by
  unfold stunAttrAddBytes
  cases room : stunAttrRoom b 18 len value.length with
  | none => exact overwritten
  | some place =>
    obtain ⟨start, newlen⟩ := place
    obtain ⟨long, place⟩ := stunAttrRoom_place room
    refine ⟨?_, show 1 ≤ newlen by omega⟩
    dsimp only
    rw [stunAttrHead_first b attr value.length newlen value place]
    split
    · exact listed
    · exact overwritten.first

theorem Overwritten.addFingerprint (overwritten : Overwritten b len) (nsCrc32 : List UInt8 → UInt32) :
    Overwritten (stunAttrAddFingerprintStr nsCrc32 b 18 len).1 (stunAttrAddFingerprintStr nsCrc32 b 18 len).2 := by
  have added := @Overwritten.addBytes b len overwritten stunAttributeFingerprint (by decide) [0, 0, 0, 0]
  have long : 7 ≤ (stunAttrAddBytes b 18 len stunAttributeFingerprint [0, 0, 0, 0]).2 := by
    unfold stunAttrAddBytes
    cases room : stunAttrRoom b 18 len ([0, 0, 0, 0] : List UInt8).length with
    | none => exact (full_of_no_room room (by decide)).trans' (by omega)
    | some place => exact (stunAttrRoom_place room).1
  unfold stunAttrAddFingerprintStr
  generalize stunAttrAddBytes b 18 len stunAttributeFingerprint [0, 0, 0, 0] = result at *
  obtain ⟨c, k⟩ := result
  dsimp only at added long ⊢
  refine ⟨?_, added.long⟩
  rw [write_first c _ (by omega)]
  exact added.first

theorem Overwritten.finish {sur : Surroundings} (overwritten : Overwritten built.1 built.2) :
    Overwritten (finishResponse sur built).1 (finishResponse sur built).2 := by
  have listed (attr : UInt16) (member : attr ∈ [stunAttributeSoftware, stunAttributeMessageIntegrity]) :
      (bytes16 (nswap16 attr)).getD 1 0 ∈ overwriting := by
    rcases List.mem_pair.mp member with rfl | rfl
    · decide
    · decide
  exact finishResponse_keeps sur (fun before attr member value => before.addBytes (listed attr member) value)
    (fun before nsCrc32 => before.addFingerprint nsCrc32) overwritten

theorem stunAttrRoom_across (short : stunGetCommandMessageLenStr (b.view 18) len = none) (small : alen ≤ 1000) :
    ∃ newlen, stunAttrRoom b 18 len alen = some (17, newlen) ∧ 1 ≤ newlen := by
  have limit : maxStunMessageSize = 65507 := rfl
  obtain ⟨clen, grown, ⟨_, rfl⟩ | ⟨announced, _⟩, lower, upper, made⟩ := stunAttrRoom_spec b 18 len alen
  · rw [made, if_neg (by omega)]
    exact ⟨grown.toNat, rfl, by omega⟩
  · exact absurd short announced

theorem errorCodeValue_length (family : UInt8) (errorCode : Nat) (reason : String) :
    (errorCodeValue family errorCode reason).length ≤ 1000 := by
  unfold errorCodeValue
  dsimp only
  generalize textIs : (reason.toList.map (fun c => UInt8.ofNat c.toNat)).take 508 = text
  have bound : text.length ≤ 508 := by
    rw [← textIs]
    exact List.length_take_le _ _
  rw [List.length_append, List.length_replicate, List.length_append]
  have round := roundUp4_spec (([family, 0, UInt8.ofNat (errorCode / 100), UInt8.ofNat (errorCode % 100)] : List UInt8).length
    + text.length)
  simp only [List.length_cons, List.length_nil] at round ⊢
  omega

theorem overwritten_of_short (short : stunGetCommandMessageLenStr (b.view 18) len = none) {attr : UInt16}
    (listed : (bytes16 (nswap16 attr)).getD 1 0 ∈ overwriting) {value : List UInt8} (small : value.length ≤ 1000) :
    Overwritten (stunAttrAddBytes b 18 len attr value).1 (stunAttrAddBytes b 18 len attr value).2 := by
  obtain ⟨newlen, room, long⟩ := stunAttrRoom_across short small
  unfold stunAttrAddBytes
  rw [room]
  refine ⟨?_, long⟩
  dsimp only
  rw [stunAttrHead_first b attr value.length newlen value (Or.inl rfl), if_pos rfl]
  exact listed

theorem overwritten_of_familyError (message : MessageAt built.1 18 built.2) (family : UInt8) {errCode : Nat}
    (error : errCode ≠ 0) :
    Overwritten (addFamilyError built family errCode).1 (addFamilyError built family errCode).2 := by
  have short : stunGetCommandMessageLenStr (built.1.view 18) (sizeSub built.2 stunCustomHeaderLen) = none := by
    obtain ⟨long, announced⟩ := message
    have word := (net16 (built.1.view 18) 2).toNat_lt
    have header : stunHeaderLength = 20 := rfl
    have custom : stunCustomHeaderLen = 14 := rfl
    rw [sizeSub_of_le (by omega) (by omega)]
    unfold stunGetCommandMessageLenStr
    split_ifs
    · rfl
    · rfl
    · omega
  unfold addFamilyError
  rw [if_neg error]
  exact overwritten_of_short short (by decide) (errorCodeValue_length family errCode (getDefaultReason errCode))

theorem addressErrors_single (server : TurnServer) (env : Env) (ss : SuperSession) (m : Request) :
    (addressErrors server env ss m).1 = 0 ∨ (addressErrors server env ss m).2 = 0 := by
  unfold addressErrors dualErrors
  split
  · exact Or.inl rfl
  · split
    · dsimp only
      split
      · exact Or.inl rfl
      · rename_i single
        exact (Classical.not_and_iff_not_or_not.mp single).imp Classical.not_not.mp Classical.not_not.mp
    · exact Or.inl rfl

theorem addFamilyError_zero (built : StunBuffer × Nat) (family : UInt8) : addFamilyError built family 0 = built :=
  if_pos rfl

theorem allocateResponse_overwritten {server : TurnServer} {sur : Surroundings} {before after : SuperSession}
    {m : Request} {header : StunCustomHeader} {remoteAddr : IoaAddr}
    (errors : addressErrors server sur.env before m ≠ (0, 0)) :
    Overwritten (allocateResponse server sur before after m header remoteAddr).1
      (allocateResponse server sur before after m header remoteAddr).2 := by
  have single := addressErrors_single server sur.env before m
  have message := stunSetAllocateResponseStr_message server.mapping (responseBuffer header) 18 m.tid
    (relayedAddr server sur after.relayFailure4 after.relay4) (relayedAddr server sur after.relayFailure6 after.relay6)
    remoteAddr (allocateResponseFields server sur before after m)
  unfold allocateResponse
  generalize addressErrors server sur.env before m = codes at *
  generalize stunSetAllocateResponseStr server.mapping (responseBuffer header) 18 m.tid
    (relayedAddr server sur after.relayFailure4 after.relay4) (relayedAddr server sur after.relayFailure6 after.relay6)
    remoteAddr (allocateResponseFields server sur before after m) = built at *
  obtain ⟨four, six⟩ := codes
  dsimp only at single ⊢
  rcases single with rfl | rfl
  · rw [addFamilyError_zero]
    exact overwritten_of_familyError message 2 (fun zero => errors (by rw [zero]))
  · rw [addFamilyError_zero]
    exact overwritten_of_familyError message 1 (fun zero => errors (by rw [zero]))

end Server
end TurnCluster
