import TurnCluster.Relay.Reading
import TurnCluster.Stun.Framing

namespace TurnCluster

/-- The header that `stun_init_channel_message_str` writes, and the length it sets. -/
theorem stunInitChannelMessageStr_reads (chnumber : UInt16) (b : StunBuffer) (pos len : Nat) {length : Nat}
    (short : length ≤ 65503) (doPadding : Bool) :
    let made := stunInitChannelMessageStr chnumber b pos len length doPadding
    net16 (made.1.view pos) 0 = chnumber ∧ lengthField (made.1.view pos) = length ∧
      made.2 = (if doPadding then roundUp4 (4 + length) else 4 + length) ∧
      ∀ i, pos + 4 ≤ i → made.1.mem.byte i = b.mem.byte i := by
  intro made
  have limit : maxStunMessageSize = 65507 := rfl
  have accepted : ¬ ((length : Int) < 0 ∨ (maxStunMessageSize : Int) < 4 + length) := by omega
  have unwrapped : length % 2 ^ 16 = length := Nat.mod_eq_of_lt (by omega)
  obtain ⟨header, written⟩ : ∃ header, header = bytes16 (nswap16 chnumber) ++ bytes16 (nswap16 (UInt16.ofNat length)) :=
    ⟨_, rfl⟩
  have four : header.length = 4 := by rw [written]; rfl
  have buffer : made.1 = b.write pos header := by
    show (stunInitChannelMessageStr chnumber b pos len length doPadding).1 = _
    unfold stunInitChannelMessageStr
    rw [if_neg accepted, written]
    rfl
  have byte (i : Nat) (inside : i < 4) : (made.1.view pos) i = header.getD i 0 := by
    rw [buffer]
    exact StunBuffer.write_byte (by omega)
  have size : made.2 = 4 + (if doPadding && length % 4 != 0 then (length / 4 + 1) * 4 % 2 ^ 16 else length) := by
    show (stunInitChannelMessageStr chnumber b pos len length doPadding).2 = _
    unfold stunInitChannelMessageStr
    rw [if_neg accepted]
    dsimp only
    rw [Int.toNat_natCast, unwrapped]
  refine ⟨?_, ?_, ?_, ?_⟩
  · apply net16_of_bytes
    · rw [byte 0 (by omega), written]
      rfl
    · rw [byte 1 (by omega), written]
      rfl
  · have word : net16 (made.1.view pos) 2 = UInt16.ofNat length := by
      apply net16_of_bytes
      · rw [byte 2 (by omega), written]
        rfl
      · rw [byte 3 (by omega), written]
        rfl
    rw [lengthField, word, UInt16.toNat_ofNat', unwrapped]
  · rw [size]
    cases doPadding with
    | false => rfl
    | true =>
      simp only [Bool.true_and, bne_iff_ne, ne_eq, if_true]
      unfold roundUp4
      split <;> split <;> omega
  · intro i behind
    rw [buffer]
    exact (@StunBuffer.write_same b pos (pos + 4) (i + 1) header (Or.inr (by omega)) i behind (by omega)).1

/-- A buffer starts with the `len` bytes that stand at `pos`. -/
def StartsWith (buf : Memory) (b : StunBuffer) (pos len : Nat) : Prop := ∀ i < len, buf i = b.view pos i

/-- What was written is ChannelData again, as a datagram and at the start of a stream. -/
theorem channel_data_round_trip {chnumber : UInt16} {b : StunBuffer} {pos : Nat} {d : List UInt8}
    (valid : 0x4000 ≤ chnumber ∧ chnumber ≤ 0x7FFF) (stands : b.mem.byte.slice (pos + 4) d.length = d)
    (short : d.length ≤ 65503) (len : Nat) (doPadding : Bool) :
    let made := stunInitChannelMessageStr chnumber b pos len d.length doPadding
    ∀ buf, StartsWith buf made.1 pos made.2 →
      buf.slice 4 d.length = d ∧
        (∀ mandatoryPadding,
          stunIsChannelMessageStr buf made.2 mandatoryPadding = some (chnumber, 4 + d.length)) ∧
        ∀ strtoul blen appLen, made.2 ≤ blen → ¬ HoldsHttp strtoul buf blen →
          (stunGetMessageLenStr strtoul buf blen doPadding appLen).1 = made.2 := by
  intro made buf starts
  obtain ⟨number, field, size, behind⟩ := stunInitChannelMessageStr_reads chnumber b pos len short doPadding
  change net16 (made.1.view pos) 0 = chnumber at number
  change lengthField (made.1.view pos) = d.length at field
  change made.2 = _ at size
  change ∀ i, pos + 4 ≤ i → made.1.mem.byte i = b.mem.byte i at behind
  obtain ⟨lower, upper, _⟩ := roundUp4_spec (4 + d.length)
  have bounds : 4 + d.length ≤ made.2 ∧ made.2 < 2 ^ 16 := by
    rw [size]
    split <;> omega
  have number' : net16 buf 0 = chnumber := by
    rw [← number]
    exact net16_congr (starts 0 (by omega)) (starts 1 (by omega))
  have field' : lengthField buf = d.length := by
    rw [← field]
    exact congrArg UInt16.toNat (net16_congr (starts 2 (by omega)) (starts 3 (by omega)))
  have channel : stunValidChannel (net16 buf 0) = true := by
    rw [number', stunValidChannel, Bool.and_eq_true]
    exact ⟨decide_eq_true valid.1, decide_eq_true valid.2⟩
  have frame : channelFrameLen buf doPadding = made.2 := by
    rw [size, channelFrameLen, field']
  refine ⟨?_, ?_, ?_⟩
  · refine Eq.trans ?_ stands
    apply Memory.slice_congr
    intro i inside
    rw [starts (4 + i) (by omega)]
    show made.1.mem.byte (pos + (4 + i)) = _
    rw [← Nat.add_assoc]
    exact behind _ (by omega)
  · intro mandatoryPadding
    have accepted := @stunIsChannelMessageStr_frame buf doPadding channel (by omega) mandatoryPadding
    rwa [frame, number', field'] at accepted
  · intro strtoul blen appLen within notHttp
    have found := @stunGetMessageLenStr_frame strtoul buf blen doPadding channel notHttp (by omega) (by omega) appLen
    rw [found, frame]

/-- One byte of data, with padding. -/
theorem channel_data_round_trip_padded :
    let made := stunInitChannelMessageStr 0x4000 ⟨.input (.ofList [7]) 4, 1, 0, 0⟩ 0 1 (1 : Nat) true
    made.2 = 8 ∧ stunIsChannelMessageStr (made.1.view 0) made.2 true = some (0x4000, 5) := by
  intro made
  have round := @channel_data_round_trip 0x4000 ⟨.input (.ofList [7]) 4, 1, 0, 0⟩ 0 [7] (by decide) (by decide)
    (by decide) 1 true (made.1.view 0) (fun _ _ => rfl)
  exact ⟨rfl, round.2.1 true⟩

end TurnCluster
