import TurnCluster.Relay.Writing

namespace TurnCluster

/-- `stun_is_command_message_full_check_str`: its result, and `*fingerprint_present`, which was `present` before. -/
def stunIsCommandMessageFullCheckStr (nsCrc32 : List UInt8 → UInt32) (buf : Memory) (blen : Nat)
    (mustCheckFingerprint present : Bool) : Bool × Bool :=
  if stunIsCommandMessageStr buf blen = false then (false, present)
  else
    match stunAttrGetFirstByTypeStr buf blen stunAttributeFingerprint with
    | none =>
      if stunGetMethodStr buf blen = stunMethodBinding then (true, false) else (!mustCheckFingerprint, false)
    | some sar =>
      if stunAttrGetLen buf sar ≠ 4 then (false, present)
      else
        match stunAttrGetValue buf sar with
        | none => (!mustCheckFingerprint, present)
        | some fingerprint =>
          let ret := le32 buf fingerprint == nswap32 (nsCrc32 (buf.slice 0 (fingerprint - 4)) ^^^ 0x5354554e)
          (ret, ret || present)

/-- The four bytes that stand for a message in its FINGERPRINT. -/
def fingerprintBytes (nsCrc32 : List UInt8 → UInt32) (message : List UInt8) : List UInt8 :=
  bytes32 (nswap32 (nsCrc32 message ^^^ 0x5354554e))

variable {b : StunBuffer} {pos len : Nat} {attrs : List Attribute} (nsCrc32 : List UInt8 → UInt32)

@[simp] theorem fingerprintBytes_length (message : List UInt8) :
    (fingerprintBytes nsCrc32 message).length = 4 := rfl

theorem grownLength_four (aligned : len % 4 = 0) : grownLength len 4 = len + 8 := by
  unfold grownLength roundUp4
  rw [if_pos (by omega)]

theorem stunAttrAddFingerprintStr_adds (message : MessageAt b pos len) (aligned : len % 4 = 0)
    (room : len + 8 < maxStunMessageSize) :
    ∃ value : List UInt8, value.length = 4 ∧
      stunAttrAddFingerprintStr nsCrc32 b pos len = stunAttrAddBytes b pos len stunAttributeFingerprint value ∧
      value = fingerprintBytes nsCrc32
        (((stunAttrAddBytes b pos len stunAttributeFingerprint value).1.view pos).slice 0 len) := by
  have grown := grownLength_four aligned
  obtain ⟨zeros, four, nothing⟩ : ∃ zeros : List UInt8, zeros.length = 4 ∧ [0, 0, 0, 0] = zeros := ⟨_, rfl, rfl⟩
  have length (bytes : List UInt8) (same : bytes.length = 4) :
      grownLength len bytes.length < maxStunMessageSize ∧
        (stunAttrAddBytes b pos len stunAttributeFingerprint bytes).2 = len + 8 := by
    have fits : grownLength len bytes.length < maxStunMessageSize := by
      rw [same, grown]
      exact room
    refine ⟨fits, ?_⟩
    rw [stunAttrAddBytes_length message stunAttributeFingerprint bytes fits, same, grown]
  let made := (stunAttrAddBytes b pos len stunAttributeFingerprint zeros).1
  have added : stunAttrAddBytes b pos len stunAttributeFingerprint zeros = (made, len + 8) := by
    rw [← (length zeros four).2]
  obtain ⟨value, checksum⟩ : ∃ value, value = fingerprintBytes nsCrc32 ((made.view pos).slice 0 len) := ⟨_, rfl⟩
  have long : value.length = 4 := by simp [checksum]
  obtain ⟨fits, longer⟩ := length value long
  refine ⟨value, long, ?_, ?_⟩
  · have place : pos + (len + 8) - 4 = pos + len + 4 := by omega
    unfold stunAttrAddFingerprintStr
    rw [nothing, added]
    dsimp only
    rw [Nat.add_sub_cancel, place, ← fingerprintBytes, ← checksum,
      stunAttrAddBytes_overwrite message stunAttributeFingerprint (four.trans long.symm) fits, ← longer]
  · rw [stunAttrAddBytes_before message stunAttributeFingerprint (four.trans long.symm) fits]
    exact checksum

/-- Without room the bytes of the checksum land on the end of the message. -/
theorem stunAttrAddFingerprintStr_full (message : MessageAt b pos len) (aligned : len % 4 = 0)
    (full : maxStunMessageSize ≤ len + 8) :
    ∃ value : List UInt8, value.length = 4 ∧
      stunAttrAddFingerprintStr nsCrc32 b pos len = (b.write (pos + len - 4) value, len) := by
  have same : stunAttrAddBytes b pos len stunAttributeFingerprint [0, 0, 0, 0] = (b, len) := by
    unfold stunAttrAddBytes
    simp only [List.length_cons, List.length_nil, message.room]
    rw [if_pos (by rw [grownLength_four aligned]; exact full)]
  unfold stunAttrAddFingerprintStr
  rw [same]
  exact ⟨_, rfl, rfl⟩

theorem stunIsCommandMessageStr_extended {b' : StunBuffer} {len' kept : Nat}
    (command : stunIsCommandMessageStr (b.view pos) len = true) (extended : Extended b pos kept b' len')
    (long : stunHeaderLength ≤ kept) (typed : SameBetween b b' pos (pos + 2)) (aligned : len' % 4 = 0) :
    stunIsCommandMessageStr (b'.view pos) len' = true := by
  have header : stunHeaderLength = 20 := rfl
  obtain ⟨longer, announced⟩ := extended.message
  have first : (b'.view pos) 0 = (b.view pos) 0 := (typed pos (le_refl _) (by omega)).1
  have messageType : net16 (b'.view pos) 0 = net16 (b.view pos) 0 := typed.net16 (by omega) (by omega)
  have cookie : net32 (b'.view pos) 4 = net32 (b.view pos) 4 := extended.same.cookie (by omega)
  have words : (net16 (b'.view pos) 2).toNat % 4 = 0 := by omega
  simp only [stunIsCommandMessageStr, startsCommand, Bool.and_eq_true, beq_iff_eq] at command ⊢
  rw [first, messageType, cookie]
  obtain ⟨⟨⟨⟨⟨_, channel⟩, top⟩, magic⟩, _⟩, _⟩ := command
  exact ⟨⟨⟨⟨⟨by simpa using longer, channel⟩, top⟩, magic⟩, words⟩, announced⟩

theorem stunIsCommandMessageFullCheckStr_of_found {nsCrc32 : List UInt8 → UInt32} {buf : Memory} {blen sar : Nat}
    (command : stunIsCommandMessageStr buf blen = true)
    (found : stunAttrGetFirstByTypeStr buf blen stunAttributeFingerprint = some sar)
    (long : stunAttrGetLen buf sar = 4)
    (value : buf.slice (sar + 4) 4 = fingerprintBytes nsCrc32 (buf.slice 0 sar)) (must present : Bool) :
    stunIsCommandMessageFullCheckStr nsCrc32 buf blen must present = (true, true) := by
  have place : stunAttrGetValue buf sar = some (sar + 4) := if_neg (by omega)
  have word : le32 buf (sar + 4) = nswap32 (nsCrc32 (buf.slice 0 sar) ^^^ 0x5354554e) := le32_of_slice value
  unfold stunIsCommandMessageFullCheckStr
  rw [command, found]
  dsimp only
  rw [place, if_neg (by simp), if_neg (by simp [long])]
  dsimp only
  rw [Nat.add_sub_cancel, word]
  simp

/-- With room for a FINGERPRINT the message with it is accepted, and it has the attributes it had and that one. -/
theorem Composed.fingerprint_accepted (composed : Composed b pos len attrs)
    (command : stunIsCommandMessageStr (b.view pos) len = true)
    (unmarked : ∀ a ∈ attrs, a.attrType ≠ stunAttributeFingerprint) (nsCrc32 : List UInt8 → UInt32)
    (room : len + 8 < maxStunMessageSize) (must present : Bool) :
    let sent := stunAttrAddFingerprintStr nsCrc32 b pos len
    stunIsCommandMessageFullCheckStr nsCrc32 (sent.1.view pos) sent.2 must present = (true, true) ∧
      ∃ value, attributes (sent.1.view pos) sent.2 = attrs ++ [⟨stunAttributeFingerprint, value⟩] := by
  have aligned := composed.aligned
  obtain ⟨value, four, added, checksum⟩ := stunAttrAddFingerprintStr_adds nsCrc32 composed.message aligned room
  have fits : grownLength len value.length < maxStunMessageSize := by
    rw [four, grownLength_four aligned]
    exact room
  have grow := composed.grow stunAttributeFingerprint value fits
  have extended := stunAttrAddBytes_extended composed.message stunAttributeFingerprint value
  have typed := stunAttrAddBytes_same_type composed.message stunAttributeFingerprint value
  rw [added]
  dsimp only
  generalize stunAttrAddBytes b pos len stunAttributeFingerprint value = sent at grow extended typed checksum
  refine ⟨?_, value, grow.attributes_eq⟩
  obtain ⟨found, there⟩ := grow.laid.first grow.message (le_refl _) unmarked
  have place : stunHeaderLength + laidSize attrs = len := composed.laid.stop_eq.symm
  rw [place] at found there
  have bytes : (sent.1.view pos).slice (len + 4) value.length = value := by
    rw [view_slice, ← Nat.add_assoc]
    exact there.value
  rw [four] at bytes
  exact stunIsCommandMessageFullCheckStr_of_found
    (stunIsCommandMessageStr_extended command extended composed.message.1 typed grow.aligned) found
    (there.length.trans four) (bytes.trans checksum) must present

/-- A FINGERPRINT with a value of four bytes cannot come from the four bytes that were overwritten. -/
theorem Composed.no_fingerprint (composed : Composed b pos len attrs)
    (unmarked : ∀ a ∈ attrs, a.attrType ≠ stunAttributeFingerprint) {buf : Memory}
    (same : ∀ i, i < len - 4 → buf i = b.view pos i) {sar : Nat}
    (found : stunAttrGetFirstByTypeStr buf len stunAttributeFingerprint = some sar) : stunAttrGetLen buf sar ≠ 4 := by
  intro four
  obtain ⟨k, there⟩ := nthAttr_of_first found
  have inside := (nthAttr_safe there).2.2
  have rounded := le_roundUp4 (stunAttrGetLen buf sar)
  have before : sar + 4 ≤ len - 4 := by omega
  have typed : stunAttrGetType buf sar = stunAttributeFingerprint := by simpa using List.find?_some found
  have known := nthAttr_of_same same there before
  have member : attributeAt (b.view pos) sar ∈ attrs := by
    rw [← composed.attributes_eq]
    apply List.mem_map_of_mem
    rw [← stunAttrs_getElem?] at known
    exact List.mem_of_getElem? known
  exact unmarked _ member ((stunAttrGetType_congr same before).symm.trans typed)

/-- Without room the message is rejected, unless it is a Binding. -/
theorem Composed.fingerprint_rejected (composed : Composed b pos len attrs)
    (unmarked : ∀ a ∈ attrs, a.attrType ≠ stunAttributeFingerprint) (nsCrc32 : List UInt8 → UInt32)
    (full : maxStunMessageSize ≤ len + 8) (method : stunGetMethodStr (b.view pos) len ≠ stunMethodBinding)
    (present : Bool) :
    let sent := stunAttrAddFingerprintStr nsCrc32 b pos len
    (stunIsCommandMessageFullCheckStr nsCrc32 (sent.1.view pos) sent.2 true present).1 = false := by
  obtain ⟨value, four, written⟩ := stunAttrAddFingerprintStr_full nsCrc32 composed.message composed.aligned full
  have limit : maxStunMessageSize = 65507 := rfl
  have same : ∀ i, i < len - 4 → (b.write (pos + len - 4) value).view pos i = b.view pos i := by
    intro i before
    have apart : SameBetween b (b.write (pos + len - 4) value) pos (pos + len - 4) :=
      StunBuffer.write_same (Or.inl (le_refl _))
    exact (apart (pos + i) (by omega) (by omega)).1
  rw [written]
  dsimp only
  generalize (b.write (pos + len - 4) value).view pos = buf at same
  have method' : stunGetMethodStr buf len ≠ stunMethodBinding := by
    unfold stunGetMethodStr at method ⊢
    rw [net16_congr (same 0 (by omega)) (same 1 (by omega))]
    exact method
  unfold stunIsCommandMessageFullCheckStr
  by_cases command : stunIsCommandMessageStr buf len = false
  · rw [if_pos command]
  · rw [if_neg command]
    cases found : stunAttrGetFirstByTypeStr buf len stunAttributeFingerprint with
    | none =>
      dsimp only
      rw [if_neg method']
      rfl
    | some sar =>
      dsimp only
      rw [if_pos (composed.no_fingerprint unmarked same found)]

/-- A message gets its FINGERPRINT: the check that insists on one accepts it, and it keeps its attributes. -/
def FingerprintRoundTrip (nsCrc32 : List UInt8 → UInt32) (b : StunBuffer) (pos len : Nat) : Prop :=
  let sent := stunAttrAddFingerprintStr nsCrc32 b pos len
  (∀ present, (stunIsCommandMessageFullCheckStr nsCrc32 (sent.1.view pos) sent.2 true present).1 = true) ∧
    attributes (b.view pos) len <+: attributes (sent.1.view pos) sent.2

/-- The round trip works as long as eight more bytes are below the limit, and for every method but Binding only
then: `stun_attr_add_fingerprint_str` does not look at what adding the attribute returned. The check accepts a Binding
message without FINGERPRINT, but the checksum is written over the end of its last attribute. -/
theorem fingerprint_round_trip {b : StunBuffer} {pos len : Nat} {attrs : List Attribute}
    (composed : Composed b pos len attrs) (command : stunIsCommandMessageStr (b.view pos) len = true)
    (unmarked : ∀ a ∈ attrs, a.attrType ≠ stunAttributeFingerprint) (nsCrc32 : List UInt8 → UInt32) :
    (len + 8 < maxStunMessageSize → FingerprintRoundTrip nsCrc32 b pos len) ∧
      (stunGetMethodStr (b.view pos) len ≠ stunMethodBinding →
        (FingerprintRoundTrip nsCrc32 b pos len ↔ len + 8 < maxStunMessageSize)) := by
  have enough : len + 8 < maxStunMessageSize → FingerprintRoundTrip nsCrc32 b pos len := by
    intro room
    refine ⟨?_, ?_⟩
    · intro present
      rw [(composed.fingerprint_accepted command unmarked nsCrc32 room true present).1]
    · obtain ⟨_, value, read⟩ := composed.fingerprint_accepted command unmarked nsCrc32 room true false
      rw [read, composed.attributes_eq]
      exact List.prefix_append _ _
  refine ⟨enough, ?_⟩
  intro method
  refine ⟨?_, enough⟩
  intro trip
  by_contra full
  have rejected := composed.fingerprint_rejected unmarked nsCrc32 (Nat.not_lt.mp full) method false
  exact Bool.false_ne_true (rejected.symm.trans (trip.1 false))

/-- An Allocate request without attributes. -/
theorem fingerprint_round_trip_header :
    let w := Writing.start 3 .ioaNetworkBufferAllocate 8 (List.replicate 12 0)
    FingerprintRoundTrip (fun _ => 7) w.b 8 w.len :=
  (fingerprint_round_trip (Writing.start_composed 3 .ioaNetworkBufferAllocate 8 (List.replicate 12 0)) rfl
    (by intro a member; cases member) (fun _ => 7)).1 (show 20 + 8 < 65507 by omega)

theorem Writing.add_full {w : Writing} (composed : Composed w.b pos w.len w.accepted)
    (command : stunIsCommandMessageStr (w.b.view pos) w.len = true)
    (method : stunGetMethodStr (w.b.view pos) w.len ≠ stunMethodBinding) (a : Attribute)
    (unmarked : ∀ x ∈ w.accepted ++ [a], x.attrType ≠ stunAttributeFingerprint)
    (fits : grownLength w.len a.value.length < maxStunMessageSize)
    (full : maxStunMessageSize ≤ grownLength w.len a.value.length + 8) :
    Composed (w.add pos a).b pos (w.add pos a).len (w.accepted ++ [a]) ∧
      (w.add pos a).len = grownLength w.len a.value.length ∧
      stunIsCommandMessageStr ((w.add pos a).b.view pos) (w.add pos a).len = true ∧
      ∀ nsCrc32, ¬ FingerprintRoundTrip nsCrc32 (w.add pos a).b pos (w.add pos a).len := by
  have long : 20 ≤ w.len := composed.message.1
  have grow : Composed (w.add pos a).b pos (w.add pos a).len (w.accepted ++ [a]) :=
    composed.grow a.attrType a.value fits
  have length : (w.add pos a).len = grownLength w.len a.value.length :=
    stunAttrAddBytes_length composed.message a.attrType a.value fits
  have extended : Extended w.b pos w.len (w.add pos a).b (w.add pos a).len :=
    stunAttrAddBytes_extended composed.message a.attrType a.value
  have typed : SameBetween w.b (w.add pos a).b pos (pos + 2) :=
    stunAttrAddBytes_same_type composed.message a.attrType a.value
  refine ⟨grow, length, stunIsCommandMessageStr_extended command extended long typed grow.aligned, ?_⟩
  intro nsCrc32 trip
  have method' : stunGetMethodStr ((w.add pos a).b.view pos) (w.add pos a).len ≠ stunMethodBinding := by
    have further := extended.grown
    have word : net16 ((w.add pos a).b.view pos) 0 = net16 (w.b.view pos) 0 := typed.net16 (le_refl _) (le_refl _)
    unfold stunGetMethodStr at method ⊢
    rw [if_neg (by omega)] at method ⊢
    rw [word]
    exact method
  have rejected := grow.fingerprint_rejected unmarked nsCrc32 (by rw [length]; exact full) method' false
  exact Bool.false_ne_true (rejected.symm.trans (trip.1 false))

/-- An Allocate request of 65500 bytes: the checksum takes the place of the end of its last attribute. -/
theorem full_message_loses_fingerprint :
    let a : Attribute := ⟨stunAttributeSoftware, List.replicate 65476 0⟩
    let w := (Writing.start 3 .ioaNetworkBufferAllocate 8 (List.replicate 12 0)).add 8 a
    Composed w.b 8 w.len [a] ∧ w.len = 65500 ∧ stunIsCommandMessageStr (w.b.view 8) w.len = true ∧
      ∀ nsCrc32, ¬ FingerprintRoundTrip nsCrc32 w.b 8 w.len := by
  have grown : grownLength 20 (List.replicate 65476 (0 : UInt8)).length = 65500 := by
    rw [List.length_replicate]
    decide
  have made := Writing.add_full (Writing.start_composed 3 .ioaNetworkBufferAllocate 8 (List.replicate 12 0)) rfl
    (by decide) ⟨stunAttributeSoftware, List.replicate 65476 0⟩
    (by intro x member; rw [List.mem_singleton.mp member]; decide)
    (show grownLength 20 _ < maxStunMessageSize by rw [grown]; decide)
    (show maxStunMessageSize ≤ grownLength 20 _ + 8 by rw [grown]; decide)
  obtain ⟨composed, length, command, lost⟩ := made
  exact ⟨composed, length.trans grown, command, lost⟩

end TurnCluster
