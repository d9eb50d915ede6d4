import TurnCluster.Lib.Bytes

namespace TurnCluster

def stunHeaderLength : Nat := 20
def stunChannelHeaderLength : Nat := 4
def stunTidSize : Nat := 12
def stunMagicCookie : UInt32 := 0x2112A442

/-- Largest STUN message the relay builds. -/
def maxStunMessageSize : Nat := 65507

def stunMethodBinding : UInt16 := 1
def stunMethodAllocate : UInt16 := 3
def stunMethodRefresh : UInt16 := 4
def stunMethodSend : UInt16 := 6
def stunMethodData : UInt16 := 7
def stunMethodCreatePermission : UInt16 := 8
def stunMethodChannelBind : UInt16 := 9
def stunMethodConnect : UInt16 := 0xa
def stunMethodConnectionBind : UInt16 := 0xb

def stunValidChannel (chn : UInt16) : Bool := decide (0x4000 ≤ chn) && decide (chn ≤ 0x7FFF)

/-- Length of the whole message, or nothing when the header is cut off or
announces more bytes than there are. -/
def stunGetCommandMessageLenStr (buf : Memory) (len : Nat) : Option Nat :=
  if len < stunHeaderLength then none
  else if (net16 buf 2).toNat + stunHeaderLength > len then none
  else some ((net16 buf 2).toNat + stunHeaderLength)

def stunMakeType (method : UInt16) : UInt16 :=
  let method : UInt16 := method &&& 0x0FFF
  let low : UInt16 := method &&& 0x000F
  let mid : UInt16 := method &&& 0x0070
  let high : UInt16 := method &&& 0x0380
  let top : UInt16 := method &&& 0x0C00
  low ||| mid <<< 1 ||| high <<< 2 ||| top <<< 2

def stunGetMethodStr (buf : Memory) (len : Nat) : UInt16 :=
  if len < 2 then 0xFFFF
  else
    let tt := net16 buf 0
    let low : UInt16 := tt &&& 0x000F
    let mid : UInt16 := tt &&& 0x00E0
    let high : UInt16 := tt &&& 0x0E00
    let top : UInt16 := tt &&& 0x3000
    low ||| mid >>> 1 ||| high >>> 2 ||| top >>> 2

def stunGetMsgTypeStr (buf : Memory) (len : Nat) : UInt16 :=
  if len < 2 then 0xFFFF else net16 buf 0 &&& 0x3FFF

def isChannelMsgStr (buf : Memory) (blen : Nat) : Bool :=
  decide (4 ≤ blen) && stunValidChannel (net16 buf 0)

/-- `stun_is_channel_message_str`: channel number of a ChannelData message and its length without padding. -/
def stunIsChannelMessageStr (buf : Memory) (blen : Nat) (mandatoryPadding : Bool) : Option (UInt16 × Nat) :=
  if blen < 4 then none
  else if stunValidChannel (net16 buf 0) = false then none
  else
    let actual := min blen 65535 - 4
    let header := (net16 buf 2).toNat
    if actual < header then none
    else if header ≠ actual ∧ actual % 4 ≠ 0 ∧
        (mandatoryPadding = true ∨ header = 0 ∨ 3 < actual - header) then none
    else some (net16 buf 0, header + 4)

/-- The four message classes are told apart by bits 4 and 8 of the message type. -/
def stunIsClassStr (bits : UInt16) (buf : Memory) (len : Nat) : Bool :=
  !isChannelMsgStr buf len && (stunGetMsgTypeStr buf len &&& 0x0110 == bits)

def stunIsRequestStr (buf : Memory) (len : Nat) : Bool := stunIsClassStr 0x0000 buf len
def stunIsIndicationStr (buf : Memory) (len : Nat) : Bool := stunIsClassStr 0x0010 buf len
def stunIsSuccessResponseStr (buf : Memory) (len : Nat) : Bool := stunIsClassStr 0x0100 buf len
def stunIsErrorResponseStr (buf : Memory) (len : Nat) : Bool := stunIsClassStr 0x0110 buf len

/-- The transaction id is read at its place whatever the length of the message. -/
def stunTidFromMessageStr (buf : Memory) : List UInt8 := buf.slice 8 stunTidSize

variable {m m' buf : Memory} {len len' : Nat}

theorem stunIsClassStr_unique {a b : UInt16} (isA : stunIsClassStr a buf len = true)
    (isB : stunIsClassStr b buf len = true) : a = b := by
  simp only [stunIsClassStr, Bool.and_eq_true, beq_iff_eq] at isA isB
  exact isA.2.symm.trans isB.2

theorem not_isChannelMsgStr_of_class {a : UInt16} (isA : stunIsClassStr a buf len = true) :
    isChannelMsgStr buf len = false := by
  simp only [stunIsClassStr, Bool.and_eq_true, Bool.not_eq_true'] at isA
  exact isA.1

theorem isChannelMsgStr_congr (same : net16 m' 0 = net16 m 0) (long : 4 ≤ len) (long' : 4 ≤ len') :
    isChannelMsgStr m' len' = isChannelMsgStr m len := by
  simp only [isChannelMsgStr, same, long, long']

theorem stunIsClassStr_congr {bits : UInt16} (same : net16 m' 0 = net16 m 0) (long : 4 ≤ len) (long' : 4 ≤ len') :
    stunIsClassStr bits m' len' = stunIsClassStr bits m len := by
  have typed : stunGetMsgTypeStr m' len' = stunGetMsgTypeStr m len := by
    unfold stunGetMsgTypeStr
    rw [if_neg (by omega), if_neg (by omega), same]
  unfold stunIsClassStr
  rw [isChannelMsgStr_congr same long long', typed]

theorem stunGetMethodStr_congr (same : net16 m' 0 = net16 m 0) (long : 4 ≤ len) (long' : 4 ≤ len') :
    stunGetMethodStr m' len' = stunGetMethodStr m len := by
  unfold stunGetMethodStr
  rw [if_neg (by omega), if_neg (by omega), same]

end TurnCluster
