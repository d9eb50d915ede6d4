import TurnCluster.Stun.Attribute

namespace TurnCluster

/-- The first tests of `stun_is_command_message_str` and `stun_get_message_len_str`: a header with the cookie. -/
def startsCommand (buf : Memory) (blen : Nat) : Bool :=
  decide (stunHeaderLength ≤ blen) && !stunValidChannel (net16 buf 0) && (buf 0 &&& 0xC0 == 0) &&
    net32 buf 4 == stunMagicCookie && (net16 buf 2).toNat % 4 == 0

def stunIsCommandMessageStr (buf : Memory) (blen : Nat) : Bool :=
  startsCommand buf blen && (net16 buf 2).toNat + stunHeaderLength == blen

/-- `sheadof`: the text at `full` starts with `head`. -/
def sheadof (head : List UInt8) (full : Memory) (ignoreCase : Bool) : Bool :=
  match head with
  | [] => true
  | c :: rest =>
    (c == full 0 || ignoreCase && toLower c == toLower (full 0)) && sheadof rest (full.shift 1) ignoreCase

/-- `findstr`: offset of the first occurrence of `needle` in `slen` bytes. -/
def findstr (hay : Memory) (slen : Nat) (needle : List UInt8) (ignoreCase : Bool) : Option Nat :=
  if slen = 0 ∨ slen < needle.length then none
  else (List.range (slen - needle.length + 1)).find? (fun i => sheadof needle (hay.shift i) ignoreCase)

/-- "GET ", "POST ", "DELETE " and "PUT ". -/
def httpMethods : List (List UInt8) :=
  [[71, 69, 84, 32], [80, 79, 83, 84, 32], [68, 69, 76, 69, 84, 69, 32], [80, 85, 84, 32]]

/-- " HTTP/" -/
def httpVersion : List UInt8 := [32, 72, 84, 84, 80, 47]

/-- The blank line behind the headers. -/
def httpEnd : List UInt8 := [13, 10, 13, 10]

/-- "content-length: " -/
def httpContentLength : List UInt8 := [99, 111, 110, 116, 101, 110, 116, 45, 108, 101, 110, 103, 116, 104, 58, 32]

/-- `is_http_inline`: length of the HTTP request that the buffer starts with, or 0. What `strtoul`
reads, possibly beyond the buffer, is left to the C library. -/
def isHttpInline (strtoul : Memory → Nat) (s : Memory) (blen : Nat) : Int :=
  if blen < 12 ∨ httpMethods.any (fun method => sheadof method s false) = false then 0
  else
    match findstr (s.shift 4) (blen - 4) httpVersion false with
    | none => 0
    | some version =>
      let diffBlen := 4 + version + 6
      if blen < diffBlen + 4 then 0
      else
        match findstr (s.shift diffBlen) (blen - diffBlen) httpEnd false with
        | none => 0
        | some blank =>
          let sp := diffBlen + blank
          match findstr s sp httpContentLength true with
          | none => intOfSize (sp + 4)
          | some cl =>
            let clen := strtoul (s.shift (cl + httpContentLength.length))
            if 0 < clen ∧ clen < 0x0FFFFFFF then intOfSize (sp + 4) + clen else intOfSize (sp + 4)

/-- A 16-bit length rounded up to a multiple of four, in 16 bits. -/
def roundUp16 (len : Nat) : Nat := if len % 4 = 0 then len else (len / 4 + 1) * 4 % 2 ^ 16

/-- `stun_get_message_len_str`: length of the first message in a stream, or -1, and `*app_len`. The
sums with the length field are kept in 16 bits. -/
def stunGetMessageLenStr (strtoul : Memory → Nat) (buf : Memory) (blen : Nat) (padding : Bool) (appLen : Nat) :
    Int × Nat :=
  let len := ((net16 buf 2).toNat + stunHeaderLength) % 2 ^ 16
  let httpLen := isHttpInline strtoul buf blen
  let bret := (4 + (net16 buf 2).toNat) % 2 ^ 16
  let padded := if padding then roundUp16 bret else bret
  if startsCommand buf blen = true ∧ len ≤ blen then (len, len)
  else if 0 < httpLen ∧ httpLen ≤ blen then (httpLen, httpLen.toNat)
  else if 4 ≤ blen ∧ stunValidChannel (net16 buf 0) = true then
    if padded ≤ blen then (padded, bret) else (-1, bret)
  else (-1, appLen)

/-- The buffer holds a whole HTTP request. -/
def HoldsHttp (strtoul : Memory → Nat) (buf : Memory) (blen : Nat) : Prop :=
  0 < isHttpInline strtoul buf blen ∧ isHttpInline strtoul buf blen ≤ blen

/-- The length field of the header. -/
def lengthField (buf : Memory) : Nat := (net16 buf 2).toNat

/-- What the length of a ChannelData message in a stream should be. -/
def channelFrameLen (buf : Memory) (padding : Bool) : Nat :=
  if padding then roundUp4 (4 + lengthField buf) else 4 + lengthField buf

/-- The first `n` of the `blen` bytes are a whole message. -/
structure FramedExactly (buf : Memory) (blen : Nat) (padding : Bool) (n : Nat) : Prop where
  within : n ≤ blen
  message :
    (n = stunHeaderLength + lengthField buf ∧ stunIsCommandMessageStr buf n = true) ∨
      stunValidChannel (net16 buf 0) = true ∧ n = channelFrameLen buf padding ∧
        ∀ mandatoryPadding,
          stunIsChannelMessageStr buf n mandatoryPadding = some (net16 buf 0, 4 + lengthField buf)

/-- The sum with the length field has 16 bits. -/
def LengthFits (buf : Memory) (padding : Bool) : Prop :=
  if stunValidChannel (net16 buf 0) = true then channelFrameLen buf padding < 2 ^ 16
  else stunHeaderLength + lengthField buf < 2 ^ 16

theorem not_channel_of_startsCommand {buf : Memory} {blen : Nat} (starts : startsCommand buf blen = true) :
    stunValidChannel (net16 buf 0) = false := by
  simp only [startsCommand, Bool.and_eq_true, Bool.not_eq_true'] at starts
  exact starts.1.1.1.2

theorem roundUp16_eq {len : Nat} (small : len < 2 ^ 16) : roundUp16 len = roundUp4 len % 2 ^ 16 := by
  unfold roundUp16 roundUp4
  split <;> omega

theorem stunGetMessageLenStr_cases {strtoul : Memory → Nat} {buf : Memory} {blen appLen n : Nat} {padding : Bool}
    (notHttp : ¬ HoldsHttp strtoul buf blen)
    (framed : (stunGetMessageLenStr strtoul buf blen padding appLen).1 = n) :
    n ≤ blen ∧
      (startsCommand buf blen = true ∧ n = (stunHeaderLength + lengthField buf) % 2 ^ 16 ∨
        stunValidChannel (net16 buf 0) = true ∧
          n = (if padding then roundUp16 ((4 + lengthField buf) % 2 ^ 16) else (4 + lengthField buf) % 2 ^ 16)) := by
  have field : (net16 buf 2).toNat = lengthField buf := rfl
  unfold HoldsHttp at notHttp
  unfold stunGetMessageLenStr at framed
  dsimp only at framed
  rw [field, Nat.add_comm (lengthField buf)] at framed
  generalize (stunHeaderLength + lengthField buf) % 2 ^ 16 = len at *
  generalize (if padding = true then roundUp16 ((4 + lengthField buf) % 2 ^ 16)
    else (4 + lengthField buf) % 2 ^ 16) = padded at *
  by_cases command : startsCommand buf blen = true ∧ len ≤ blen
  · rw [if_pos command] at framed
    have whole : len = n := Int.ofNat.inj framed
    exact ⟨whole ▸ command.2, .inl ⟨command.1, whole.symm⟩⟩
  · rw [if_neg command, if_neg notHttp] at framed
    by_cases channel : 4 ≤ blen ∧ stunValidChannel (net16 buf 0) = true
    · rw [if_pos channel] at framed
      by_cases fits : padded ≤ blen
      · rw [if_pos fits] at framed
        have whole : padded = n := Int.ofNat.inj framed
        exact ⟨whole ▸ fits, .inr ⟨channel.2, whole.symm⟩⟩
      · rw [if_neg fits] at framed
        exact absurd framed (by simp)
    · rw [if_neg channel] at framed
      exact absurd framed (by simp)

theorem stunIsChannelMessageStr_frame {buf : Memory} {padding : Bool} (channel : stunValidChannel (net16 buf 0) = true)
    (fits : channelFrameLen buf padding < 2 ^ 16) (mandatoryPadding : Bool) :
    stunIsChannelMessageStr buf (channelFrameLen buf padding) mandatoryPadding =
      some (net16 buf 0, 4 + lengthField buf) := by
  have shape : channelFrameLen buf padding = 4 + lengthField buf ∨
      4 + lengthField buf ≤ channelFrameLen buf padding ∧ channelFrameLen buf padding % 4 = 0 := by
    unfold channelFrameLen
    cases padding with
    | false => exact .inl rfl
    | true =>
      obtain ⟨lower, _, aligned⟩ := roundUp4_spec (4 + lengthField buf)
      exact .inr ⟨lower, aligned⟩
  generalize channelFrameLen buf padding = n at fits shape ⊢
  have field : (net16 buf 2).toNat = lengthField buf := rfl
  unfold stunIsChannelMessageStr
  dsimp only
  rw [if_neg (by omega), if_neg (by rw [channel]; decide), if_neg (by omega), if_neg (by omega), field, Nat.add_comm]

theorem stunGetMessageLenStr_frame {strtoul : Memory → Nat} {buf : Memory} {blen : Nat} {padding : Bool}
    (channel : stunValidChannel (net16 buf 0) = true) (notHttp : ¬ HoldsHttp strtoul buf blen)
    (fits : channelFrameLen buf padding < 2 ^ 16) (within : channelFrameLen buf padding ≤ blen) (appLen : Nat) :
    stunGetMessageLenStr strtoul buf blen padding appLen =
      ((channelFrameLen buf padding : Int), 4 + lengthField buf) := by
  have field : (net16 buf 2).toNat = lengthField buf := rfl
  have lower : 4 + lengthField buf ≤ channelFrameLen buf padding := by
    unfold channelFrameLen
    split
    · exact le_roundUp4 _
    · exact Nat.le_refl _
  have unwrapped : (4 + lengthField buf) % 2 ^ 16 = 4 + lengthField buf := Nat.mod_eq_of_lt (by omega)
  have padded : (if padding = true then roundUp16 (4 + lengthField buf) else 4 + lengthField buf) =
      channelFrameLen buf padding := by
    rw [roundUp16_eq (by omega)]
    unfold channelFrameLen at fits ⊢
    cases padding with
    | false => rfl
    | true => exact Nat.mod_eq_of_lt fits
  have other : ¬ (startsCommand buf blen = true ∧ ((net16 buf 2).toNat + stunHeaderLength) % 2 ^ 16 ≤ blen) :=
    fun command => absurd ((not_channel_of_startsCommand command.1).symm.trans channel) (by decide)
  unfold HoldsHttp at notHttp
  unfold stunGetMessageLenStr
  dsimp only
  rw [if_neg other, if_neg notHttp, if_pos ⟨by omega, channel⟩, field, unwrapped, padded, if_pos within]

/-- The length that is found is that of a whole message exactly if the sum with the length field did not wrap. -/
theorem stream_framing_exact_iff {strtoul : Memory → Nat} {buf : Memory} {blen appLen n : Nat} {padding : Bool}
    (notHttp : ¬ HoldsHttp strtoul buf blen)
    (framed : (stunGetMessageLenStr strtoul buf blen padding appLen).1 = n) :
    FramedExactly buf blen padding n ↔ LengthFits buf padding := by
  have field : lengthField buf < 2 ^ 16 := (net16 buf 2).toNat_lt
  obtain ⟨within, ⟨starts, len⟩ | ⟨channel, len⟩⟩ := stunGetMessageLenStr_cases notHttp framed
  · have other := not_channel_of_startsCommand starts
    have fits : LengthFits buf padding ↔ stunHeaderLength + lengthField buf < 2 ^ 16 := by
      unfold LengthFits
      rw [other, if_neg (by decide)]
    rw [fits]
    constructor
    · rintro ⟨_, ⟨whole, _⟩ | ⟨channel, _⟩⟩
      · omega
      · exact absurd (other.symm.trans channel) (by decide)
    · intro small
      have whole : n = stunHeaderLength + lengthField buf := by omega
      refine ⟨within, .inl ⟨whole, ?_⟩⟩
      have long : decide (stunHeaderLength ≤ n) = true := decide_eq_true (by omega)
      have rest : startsCommand buf n = true := by
        simp only [startsCommand, Bool.and_eq_true] at starts ⊢
        exact ⟨⟨⟨⟨long, starts.1.1.1.2⟩, starts.1.1.2⟩, starts.1.2⟩, starts.2⟩
      rw [stunIsCommandMessageStr, rest, Bool.true_and, beq_iff_eq, whole, Nat.add_comm]
      rfl
  · have fits : LengthFits buf padding ↔ channelFrameLen buf padding < 2 ^ 16 := by
      unfold LengthFits
      rw [if_pos channel]
    have rounded : n = (if padding then roundUp4 ((4 + lengthField buf) % 2 ^ 16) % 2 ^ 16
        else (4 + lengthField buf) % 2 ^ 16) := by
      rw [len, roundUp16_eq (Nat.mod_lt _ (by decide))]
    have small : n < 2 ^ 16 := by
      rw [rounded]
      split <;> exact Nat.mod_lt _ (by decide)
    rw [fits]
    constructor
    · rintro ⟨_, ⟨_, command⟩ | ⟨_, whole, _⟩⟩
      · rw [stunIsCommandMessageStr, Bool.and_eq_true] at command
        exact absurd ((not_channel_of_startsCommand command.1).symm.trans channel) (by decide)
      · omega
    · intro short
      have unwrapped : 4 + lengthField buf < 2 ^ 16 := by
        refine Nat.lt_of_le_of_lt ?_ short
        unfold channelFrameLen
        split
        · exact le_roundUp4 _
        · exact Nat.le_refl _
      have whole : n = channelFrameLen buf padding := by
        rw [rounded, Nat.mod_eq_of_lt unwrapped]
        unfold channelFrameLen at short ⊢
        cases padding with
        | false => rfl
        | true => exact Nat.mod_eq_of_lt short
      refine ⟨within, .inr ⟨channel, whole, ?_⟩⟩
      rw [whole]
      exact stunIsChannelMessageStr_frame channel short

/-- ChannelData with one byte of data and three of padding. -/
def examplePadded : Memory := .ofList [0x40, 0, 0, 1, 7, 0, 0, 0]

theorem stream_framing_exact_iff_padded :
    (stunGetMessageLenStr (fun _ => 0) examplePadded 8 true 0).1 = (8 : Nat) ∧ FramedExactly examplePadded 8 true 8 := by
  have framed : (stunGetMessageLenStr (fun _ => 0) examplePadded 8 true 0).1 = (8 : Nat) := by decide
  have notHttp : ¬ HoldsHttp (fun _ => 0) examplePadded 8 := by
    unfold HoldsHttp
    decide
  exact ⟨framed, (stream_framing_exact_iff notHttp framed).mpr (by unfold LengthFits; decide)⟩

/-- A header that announces 65520 bytes: in 16 bits the length of the message is 4. -/
def exampleWrapped : Memory := .ofList [0, 1, 0xFF, 0xF0, 0x21, 0x12, 0xA4, 0x42]

theorem wrapped_length_loses_sync : ¬ ∀ (strtoul : Memory → Nat) (buf : Memory) (blen appLen n : Nat) (padding : Bool),
    ¬ HoldsHttp strtoul buf blen → (stunGetMessageLenStr strtoul buf blen padding appLen).1 = n →
      FramedExactly buf blen padding n := by
  intro claimed
  have notHttp : ¬ HoldsHttp (fun _ => 0) exampleWrapped 20 := by
    unfold HoldsHttp
    decide
  have framed : (stunGetMessageLenStr (fun _ => 0) exampleWrapped 20 false 0).1 = (4 : Nat) := by decide
  rcases (claimed _ _ _ _ _ _ notHttp framed).message with ⟨whole, _⟩ | ⟨channel, _⟩
  · exact absurd whole (by decide)
  · exact absurd channel (by decide)

/-- A datagram is accepted exactly if it is ChannelData with at most three bytes behind the data. -/
structure AcceptsExactly (buf : Memory) (blen : Nat) : Prop where
  accepts : (stunIsChannelMessageStr buf blen false).isSome = true ↔
    stunValidChannel (net16 buf 0) = true ∧ lengthField buf ≤ blen - 4 ∧ blen - 4 ≤ lengthField buf + 3
  reads : ∀ chnumber len, stunIsChannelMessageStr buf blen false = some (chnumber, len) →
    chnumber = net16 buf 0 ∧ len = 4 + lengthField buf

/-- ChannelData that is not followed by more than three bytes up to a multiple of four, nor, without data,
by one to three bytes. -/
def PlainlyPadded (buf : Memory) (blen : Nat) : Prop :=
  stunValidChannel (net16 buf 0) = true →
    ¬ ((blen - 4) % 4 = 0 ∧ lengthField buf + 3 < blen - 4) ∧
      ¬ (lengthField buf = 0 ∧ 0 < blen - 4 ∧ blen - 4 ≤ 3)

/-- `stun_is_channel_message_str` without its outputs. -/
theorem stunIsChannelMessageStr_eq {buf : Memory} {blen : Nat} (long : 4 ≤ blen) (short : blen ≤ 65535) :
    stunIsChannelMessageStr buf blen false =
      if stunValidChannel (net16 buf 0) = true ∧ lengthField buf ≤ blen - 4 ∧
          (lengthField buf = blen - 4 ∨ (blen - 4) % 4 = 0 ∨ lengthField buf ≠ 0 ∧ blen - 4 ≤ lengthField buf + 3)
      then some (net16 buf 0, 4 + lengthField buf) else none := by
  have capped : min blen 65535 = blen := Nat.min_eq_left short
  have field : (net16 buf 2).toNat = lengthField buf := rfl
  unfold stunIsChannelMessageStr
  dsimp only
  rw [if_neg (by omega), capped, field, Nat.add_comm _ 4]
  cases channel : stunValidChannel (net16 buf 0) with
  | false => rw [if_pos rfl, if_neg (by simp)]
  | true =>
    rw [if_neg (by simp)]
    by_cases beyond : blen - 4 < lengthField buf
    · rw [if_pos beyond, if_neg (by omega)]
    · rw [if_neg beyond]
      simp only [Bool.false_eq_true, false_or, true_and]
      split
      · rw [if_neg (by omega)]
      · rw [if_pos (by omega)]

/-- Acceptance is exact for all datagrams but the two kinds that `PlainlyPadded` excludes. -/
theorem channel_acceptance_exact_iff {buf : Memory} {blen : Nat} (long : 4 ≤ blen) (short : blen ≤ 65535) :
    AcceptsExactly buf blen ↔ PlainlyPadded buf blen := by
  have accepts : (stunIsChannelMessageStr buf blen false).isSome = true ↔ stunValidChannel (net16 buf 0) = true ∧
      lengthField buf ≤ blen - 4 ∧
        (lengthField buf = blen - 4 ∨ (blen - 4) % 4 = 0 ∨ lengthField buf ≠ 0 ∧ blen - 4 ≤ lengthField buf + 3) := by
    rw [stunIsChannelMessageStr_eq long short]
    split
    · rename_i accepted
      exact ⟨fun _ => accepted, fun _ => rfl⟩
    · rename_i refused
      exact ⟨fun none => absurd none (by simp), fun accepted => absurd accepted refused⟩
  unfold PlainlyPadded
  constructor
  · rintro ⟨exact', _⟩ channel
    rw [accepts] at exact'
    simp only [channel, true_and] at exact'
    omega
  · intro plain
    refine ⟨?_, ?_⟩
    · rw [accepts]
      refine and_congr_right fun channel => ?_
      have usual := plain channel
      omega
    · intro chnumber len accepted
      rw [stunIsChannelMessageStr_eq long short] at accepted
      split at accepted
      · cases accepted
        exact ⟨rfl, rfl⟩
      · cases accepted

theorem channel_acceptance_exact_iff_padded : AcceptsExactly examplePadded 8 :=
  (channel_acceptance_exact_iff (by decide) (by decide)).mpr (fun _ => by decide)

/-- ChannelData without data in a datagram of twelve bytes is accepted. -/
theorem oversized_datagram_accepted :
    ¬ ∀ (buf : Memory) (blen : Nat), 4 ≤ blen → blen ≤ 65535 → AcceptsExactly buf blen := by
  intro claimed
  have exact' := claimed (.ofList [0x40, 0, 0, 0]) 12 (by decide) (by decide)
  exact absurd (exact'.accepts.mp (by decide)) (by decide)

end TurnCluster
