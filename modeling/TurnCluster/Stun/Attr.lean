import TurnCluster.Stun.Addr
import Mathlib.Data.List.Find

namespace TurnCluster

def stunAttributeUsername : UInt16 := 0x0006
def stunAttributeMessageIntegrity : UInt16 := 0x0008
def stunAttributeChannelNumber : UInt16 := 0x000C
def stunAttributeLifetime : UInt16 := 0x000D
def stunAttributeXorPeerAddress : UInt16 := 0x0012
def stunAttributeData : UInt16 := 0x0013
def stunAttributeRealm : UInt16 := 0x0014
def stunAttributeNonce : UInt16 := 0x0015
def stunAttributeXorRelayedAddress : UInt16 := 0x0016
def stunAttributeRequestedAddressFamily : UInt16 := 0x0017
def stunAttributeEvenPort : UInt16 := 0x0018
def stunAttributeRequestedTransport : UInt16 := 0x0019
def stunAttributeDontFragment : UInt16 := 0x001A
def stunAttributeOauthAccessToken : UInt16 := 0x001B
def stunAttributeXorMappedAddress : UInt16 := 0x0020
def stunAttributeReservationToken : UInt16 := 0x0022
def stunAttributePriority : UInt16 := 0x0024
def stunAttributeNewBandwidth : UInt16 := 0x8010
def stunAttributeSoftware : UInt16 := 0x8022
def stunAttributeFingerprint : UInt16 := 0x8028
def stunAttributeOrigin : UInt16 := 0x802F
def stunAttributeMobilityTicket : UInt16 := 0x8030
def stunAttributeAdditionalAddressFamily : UInt16 := 0x8032

/-- An attribute reference is the offset of the attribute in its message. -/
abbrev AttrRef := Nat

def stunAttrGetType (buf : Memory) (attr : AttrRef) : UInt16 := net16 buf attr

def stunAttrGetLen (buf : Memory) (attr : AttrRef) : Nat := (net16 buf (attr + 2)).toNat

/-- The value of an attribute, absent when the attribute is empty. -/
def stunAttrGetValue (buf : Memory) (attr : AttrRef) : Option Nat :=
  if stunAttrGetLen buf attr < 1 then none else some (attr + 4)

/-- Length rounded up to the next multiple of four. -/
def roundUp4 (len : Nat) : Nat := if len % 4 = 0 then len else len + 4 - len % 4

def stunAttrCheckValid (buf : Memory) (attr : AttrRef) (remaining : Nat) : Option AttrRef :=
  if 4 ≤ remaining ∧ roundUp4 (stunAttrGetLen buf attr) ≤ remaining - 4 then some attr else none

def stunAttrGetFirstStr (buf : Memory) (len : Nat) : Option AttrRef :=
  match stunGetCommandMessageLenStr buf len with
  | none => none
  | some bufLen =>
    if stunHeaderLength < bufLen then
      stunAttrCheckValid buf stunHeaderLength (bufLen - stunHeaderLength)
    else none

def stunAttrGetNextStr (buf : Memory) (len : Nat) (prev : AttrRef) : Option AttrRef :=
  match stunGetCommandMessageLenStr buf len with
  | none => none
  | some bufLen =>
    let attrEnd := prev + 4 + roundUp4 (stunAttrGetLen buf prev)
    if attrEnd < bufLen then stunAttrCheckValid buf attrEnd (bufLen - attrEnd) else none

/-- The loop every caller writes: from one reference to the next until there is none. -/
def stunAttrsFrom (buf : Memory) (len : Nat) : Nat → Option AttrRef → List AttrRef
  | 0, _ => []
  | _ + 1, none => []
  | fuel + 1, some attr => attr :: stunAttrsFrom buf len fuel (stunAttrGetNextStr buf len attr)

/-- All attribute references of a message in order. -/
def stunAttrs (buf : Memory) (len : Nat) : List AttrRef :=
  stunAttrsFrom buf len len (stunAttrGetFirstStr buf len)

def stunAttrGetFirstByTypeStr (buf : Memory) (len : Nat) (attrType : UInt16) : Option AttrRef :=
  (stunAttrs buf len).find? (fun attr => stunAttrGetType buf attr == attrType)

def stunXorEd (attrType : UInt16) : Bool :=
  attrType == stunAttributeXorMappedAddress || attrType == stunAttributeXorPeerAddress ||
    attrType == stunAttributeXorRelayedAddress

/-- The address an attribute carries, or nothing when it cannot be decoded; the
callers are then left with the zeroed address. -/
def stunAttrGetAddrStr (mapping : AddrMapping) (buf : Memory) (attr : AttrRef)
    (defaultAddr : Option IoaAddr) : Option IoaAddr :=
  match stunAttrGetValue buf attr with
  | none => none
  | some cfield =>
    match stunAddrDecode (buf.shift cfield) (stunAttrGetLen buf attr)
        (stunXorEd (stunAttrGetType buf attr)) (stunTidFromMessageStr buf) with
    | none => none
    | some publicAddr =>
      let ca := mapAddrFromPublicToPrivate mapping publicAddr
      match defaultAddr with
      | none => some ca
      | some d =>
        if addrAnyNoPort ca && !addrAnyNoPort d then some (addrSetPort d (addrGetPort ca))
        else some ca

theorem le_roundUp4 (len : Nat) : len ≤ roundUp4 len := by
  unfold roundUp4
  split <;> omega

theorem roundUp4_spec (len : Nat) : len ≤ roundUp4 len ∧ roundUp4 len < len + 4 ∧ roundUp4 len % 4 = 0 := by
  unfold roundUp4
  split <;> omega

theorem roundUp4_add (k len : Nat) (aligned : k % 4 = 0) : roundUp4 (k + len) = k + roundUp4 len := by
  unfold roundUp4
  split <;> split <;> omega

/-- The attribute ends within the first `len` bytes. -/
def AttrWithin (buf : Memory) (len : Nat) (attr : AttrRef) : Prop := attr + 4 + stunAttrGetLen buf attr ≤ len

variable {m buf m' : Memory} {len len' start bufLen fuel : Nat} {attr : AttrRef} {attrType : UInt16}

theorem stunGetCommandMessageLenStr_le (announced : stunGetCommandMessageLenStr buf len = some bufLen) :
    bufLen ≤ len := by
  unfold stunGetCommandMessageLenStr at announced
  split at announced
  · cases announced
  · split at announced
    · cases announced
    · cases announced
      omega

theorem AttrWithin.of_check (checked : stunAttrCheckValid buf start (bufLen - start) = some attr)
    (room : start < bufLen) (fits : bufLen ≤ len) : AttrWithin buf len attr := by
  unfold stunAttrCheckValid at checked
  split at checked
  · rename_i valid
    obtain ⟨head, value⟩ := valid
    cases checked
    have rounded := le_roundUp4 (stunAttrGetLen buf start)
    show start + 4 + stunAttrGetLen buf start ≤ len
    omega
  · cases checked

theorem AttrWithin.first (found : stunAttrGetFirstStr buf len = some attr) : AttrWithin buf len attr := by
  unfold stunAttrGetFirstStr at found
  split at found
  · cases found
  · rename_i bufLen announced
    split at found
    · rename_i room
      exact .of_check found room (stunGetCommandMessageLenStr_le announced)
    · cases found

theorem AttrWithin.next {buf : Memory} {len : Nat} {prev attr : AttrRef}
    (found : stunAttrGetNextStr buf len prev = some attr) : AttrWithin buf len attr := by
  unfold stunAttrGetNextStr at found
  split at found
  · cases found
  · rename_i bufLen announced
    dsimp only at found
    split at found
    · rename_i room
      exact .of_check found room (stunGetCommandMessageLenStr_le announced)
    · cases found

theorem stunAttrsFrom_within {start : Option AttrRef} (within : ∀ attr, start = some attr → AttrWithin buf len attr) :
    ∀ attr ∈ stunAttrsFrom buf len fuel start, AttrWithin buf len attr := by
  induction fuel generalizing start with
  | zero => simp [stunAttrsFrom]
  | succ fuel next =>
    cases start with
    | none => simp [stunAttrsFrom]
    | some first =>
      intro attr member
      rcases List.mem_cons.mp member with rfl | later
      · exact within _ rfl
      · exact next (fun _ found => .next found) attr later

/-- The loop over the attributes never leaves the message. -/
theorem stunAttrs_within (member : attr ∈ stunAttrs buf len) : AttrWithin buf len attr :=
  stunAttrsFrom_within (fun _ found => .first found) attr member

theorem stunAttrGetFirstStr_eq (found : stunAttrGetFirstStr buf len = some attr) : attr = stunHeaderLength := by
  unfold stunAttrGetFirstStr stunAttrCheckValid at found
  split at found
  · cases found
  · split at found
    · split at found
      · exact (Option.some.inj found).symm
      · cases found
    · cases found

theorem stunAttrGetNextStr_eq {prev : AttrRef} (found : stunAttrGetNextStr buf len prev = some attr) :
    attr = prev + 4 + roundUp4 (stunAttrGetLen buf prev) := by
  unfold stunAttrGetNextStr stunAttrCheckValid at found
  split at found
  · cases found
  · dsimp only at found
    split at found
    · split at found
      · exact (Option.some.inj found).symm
      · cases found
    · cases found

theorem le_of_mem_stunAttrsFrom {start : AttrRef} (member : attr ∈ stunAttrsFrom buf len fuel (some start)) :
    start ≤ attr := by
  induction fuel generalizing start with
  | zero => simp [stunAttrsFrom] at member
  | succ fuel later =>
    rcases List.mem_cons.mp member with rfl | behind
    · exact Nat.le_refl _
    · cases found : stunAttrGetNextStr buf len start with
      | none =>
        rw [found] at behind
        cases fuel <;> simp [stunAttrsFrom] at behind
      | some next =>
        rw [found] at behind
        have grows : start ≤ next := by
          rw [stunAttrGetNextStr_eq found]
          exact Nat.le_trans (Nat.le_add_right start 4) (Nat.le_add_right _ _)
        exact Nat.le_trans grows (later behind)

theorem stunAttrGetFirstByTypeStr_bounds {attr : Nat} (found : stunAttrGetFirstByTypeStr buf len attrType = some attr) :
    stunHeaderLength ≤ attr ∧ attr + 4 + stunAttrGetLen buf attr ≤ len := by
  have member := List.mem_of_find?_eq_some found
  refine ⟨?_, stunAttrs_within member⟩
  unfold stunAttrs at member
  cases start : stunAttrGetFirstStr buf len with
  | none =>
    rw [start] at member
    cases len <;> simp [stunAttrsFrom] at member
  | some first =>
    rw [start, stunAttrGetFirstStr_eq start] at member
    exact le_of_mem_stunAttrsFrom member

theorem stunAttrCheckValid_of_fits (fits : start + 4 + roundUp4 (stunAttrGetLen buf start) ≤ len) :
    stunAttrCheckValid buf start (len - start) = some start := by
  unfold stunAttrCheckValid
  rw [if_pos (by omega)]

theorem stunAttrGetFirstStr_of_fits (announced : stunGetCommandMessageLenStr buf len = some len)
    (fits : stunHeaderLength + 4 + roundUp4 (stunAttrGetLen buf stunHeaderLength) ≤ len) :
    stunAttrGetFirstStr buf len = some stunHeaderLength := by
  unfold stunAttrGetFirstStr
  rw [announced]
  dsimp only
  rw [if_pos (by omega), stunAttrCheckValid_of_fits fits]

theorem stunAttrGetNextStr_of_fits {prev next : Nat} (announced : stunGetCommandMessageLenStr buf len = some len)
    (place : prev + 4 + roundUp4 (stunAttrGetLen buf prev) = next)
    (fits : next + 4 + roundUp4 (stunAttrGetLen buf next) ≤ len) : stunAttrGetNextStr buf len prev = some next := by
  have inside : next < len := by omega
  unfold stunAttrGetNextStr
  rw [announced]
  dsimp only
  rw [place, if_pos inside, stunAttrCheckValid_of_fits fits]

theorem stunAttrs_first_two {next : Nat} (announced : stunGetCommandMessageLenStr buf len = some len)
    (place : stunHeaderLength + 4 + roundUp4 (stunAttrGetLen buf stunHeaderLength) = next)
    (fits : next + 4 + roundUp4 (stunAttrGetLen buf next) ≤ len) :
    ∃ rest, stunAttrs buf len = stunHeaderLength :: next :: rest := by
  have first := stunAttrGetFirstStr_of_fits announced (by omega)
  have second := stunAttrGetNextStr_of_fits announced place fits
  have walk : stunAttrsFrom buf len (len - 2 + 2) (some stunHeaderLength) =
      stunHeaderLength :: next :: stunAttrsFrom buf len (len - 2) (stunAttrGetNextStr buf len next) := by
    rw [stunAttrsFrom, second, stunAttrsFrom]
  have enough : len - 2 + 2 = len := by omega
  rw [enough] at walk
  unfold stunAttrs
  rw [first]
  exact ⟨_, walk⟩

theorem stunAttrGetType_congr {attr : Nat} (same : ∀ i, i < len → m' i = m i) (within : attr + 4 ≤ len) :
    stunAttrGetType m' attr = stunAttrGetType m attr :=
  net16_congr (same attr (by omega)) (same (attr + 1) (by omega))

theorem stunAttrGetLen_congr {attr : Nat} (same : ∀ i, i < len → m' i = m i) (within : attr + 4 ≤ len) :
    stunAttrGetLen m' attr = stunAttrGetLen m attr := by
  unfold stunAttrGetLen
  rw [net16_congr (same (attr + 2) (by omega)) (same (attr + 2 + 1) (by omega))]

theorem stunGetCommandMessageLenStr_congr (same : ∀ i, i < len → m' i = m i) (more : len ≤ len')
    (announced : stunGetCommandMessageLenStr m len = some bufLen) :
    stunGetCommandMessageLenStr m' len' = some bufLen := by
  unfold stunGetCommandMessageLenStr at announced ⊢
  split at announced
  · cases announced
  · rename_i long
    have header : stunHeaderLength = 20 := rfl
    have word : net16 m' 2 = net16 m 2 := net16_congr (same 2 (by omega)) (same 3 (by omega))
    split at announced
    · cases announced
    · rw [if_neg (by omega), word, if_neg (by omega)]
      exact announced

theorem stunAttrCheckValid_congr (same : ∀ i, i < len → m' i = m i) (fits : bufLen ≤ len) :
    stunAttrCheckValid m' start (bufLen - start) = stunAttrCheckValid m start (bufLen - start) := by
  unfold stunAttrCheckValid
  by_cases header : 4 ≤ bufLen - start
  · rw [stunAttrGetLen_congr same (show start + 4 ≤ len by omega)]
  · rw [if_neg (fun both => header both.1), if_neg (fun both => header both.1)]

theorem stunAttrGetNextStr_congr {prev : Nat} (same : ∀ i, i < len → m' i = m i) (more : len ≤ len')
    (announced : stunGetCommandMessageLenStr m len = some bufLen) (within : prev + 4 ≤ len) :
    stunAttrGetNextStr m' len' prev = stunAttrGetNextStr m len prev := by
  have fits := stunGetCommandMessageLenStr_le announced
  unfold stunAttrGetNextStr
  rw [announced, stunGetCommandMessageLenStr_congr same more announced]
  dsimp only
  rw [stunAttrGetLen_congr same within, stunAttrCheckValid_congr same fits]

theorem stunAttrGetFirstStr_congr (same : ∀ i, i < len → m' i = m i) (more : len ≤ len')
    (announced : stunGetCommandMessageLenStr m len = some bufLen) :
    stunAttrGetFirstStr m' len' = stunAttrGetFirstStr m len := by
  unfold stunAttrGetFirstStr
  rw [announced, stunGetCommandMessageLenStr_congr same more announced]
  dsimp only
  rw [stunAttrCheckValid_congr same (stunGetCommandMessageLenStr_le announced)]

theorem stunAttrGetNextStr_lt {prev next : Nat} (found : stunAttrGetNextStr m len prev = some next) :
    prev + 4 ≤ next ∧ next + 4 ≤ len := by
  have place : next = prev + 4 + roundUp4 (stunAttrGetLen m prev) := stunAttrGetNextStr_eq found
  have within : next + 4 + stunAttrGetLen m next ≤ len := AttrWithin.next found
  omega

/-- Induction on the fuel: every step goes on by four bytes at least, so fuel for the
rest of the message is enough, and more of it changes nothing. -/
theorem stunAttrsFrom_congr (same : ∀ i, i < len → m' i = m i) (more : len ≤ len')
    (announced : stunGetCommandMessageLenStr m len = some bufLen) (fuel fuel' : Nat) (within : start + 4 ≤ len)
    (enough : len ≤ start + fuel) (enough' : len ≤ start + fuel') :
    stunAttrsFrom m' len' fuel' (some start) = stunAttrsFrom m len fuel (some start) := by
  induction fuel generalizing fuel' start with
  | zero => omega
  | succ fuel later =>
    cases fuel' with
    | zero => omega
    | succ fuel' =>
      rw [stunAttrsFrom, stunAttrsFrom, stunAttrGetNextStr_congr same more announced within]
      cases found : stunAttrGetNextStr m len start with
      | none => cases fuel <;> cases fuel' <;> rfl
      | some next =>
        obtain ⟨behind, inside⟩ := stunAttrGetNextStr_lt found
        rw [later fuel' inside (by omega) (by omega)]

theorem stunAttrs_congr (same : ∀ i, i < len → m' i = m i) (more : len ≤ len')
    (announced : stunGetCommandMessageLenStr m len = some bufLen) : stunAttrs m' len' = stunAttrs m len := by
  unfold stunAttrs
  rw [stunAttrGetFirstStr_congr same more announced]
  cases found : stunAttrGetFirstStr m len with
  | none => cases len <;> cases len' <;> rfl
  | some first =>
    exact stunAttrsFrom_congr same more announced len len'
      (Nat.le_trans (Nat.le_add_right _ _) (AttrWithin.first found)) (Nat.le_add_left _ _)
      (Nat.le_trans more (Nat.le_add_left _ _))

theorem stunAttrGetFirstByTypeStr_congr (same : ∀ i, i < len → m' i = m i) (more : len ≤ len')
    (announced : stunGetCommandMessageLenStr m len = some bufLen) (attrType : UInt16) :
    stunAttrGetFirstByTypeStr m' len' attrType = stunAttrGetFirstByTypeStr m len attrType := by
  unfold stunAttrGetFirstByTypeStr
  rw [stunAttrs_congr same more announced]
  apply List.find?_congr
  intro attr member
  rw [stunAttrGetType_congr same (Nat.le_trans (Nat.le_add_right _ _) (stunAttrs_within member))]

theorem announced_of_attr (member : attr ∈ stunAttrs m len) :
    ∃ bufLen, stunGetCommandMessageLenStr m len = some bufLen := by
  cases announced : stunGetCommandMessageLenStr m len with
  | some bufLen => exact ⟨bufLen, rfl⟩
  | none =>
    have nothing : stunAttrGetFirstStr m len = none := by
      unfold stunAttrGetFirstStr
      rw [announced]
    unfold stunAttrs at member
    rw [nothing] at member
    cases len <;> simp [stunAttrsFrom] at member

theorem stunAddrDecode_congr {c c' : Memory} (same : ∀ i, i < len → c' i = c i) (xorEd : Bool) (tsxId : List UInt8) :
    stunAddrDecode c' len xorEd tsxId = stunAddrDecode c len xorEd tsxId := by
  unfold stunAddrDecode
  by_cases short : len < 8
  · rw [if_pos short, if_pos short]
  · have port : le16 c' 2 = le16 c 2 := le16_congr (same 2 (by omega)) (same 3 (by omega))
    have ip : le32 c' 4 = le32 c 4 := le32_congr (fun j inside => same (4 + j) (by omega))
    rw [if_neg short, if_neg short, same 0 (by omega), same 1 (by omega), port, ip]
    by_cases long : len = 20
    · have bytes : c'.slice 4 16 = c.slice 4 16 := Memory.slice_congr (fun i inside => same (4 + i) (by omega))
      rw [bytes]
    · simp only [if_pos long]

theorem stunAttrGetAddrStr_congr {attr : Nat} (same : ∀ i, i < len → m' i = m i) (within : AttrWithin m len attr)
    (long : stunHeaderLength ≤ len) (mapping : AddrMapping) (defaultAddr : Option IoaAddr) :
    stunAttrGetAddrStr mapping m' attr defaultAddr = stunAttrGetAddrStr mapping m attr defaultAddr := by
  have header : stunHeaderLength = 20 := rfl
  have inside : attr + 4 + stunAttrGetLen m attr ≤ len := within
  have length := stunAttrGetLen_congr same (show attr + 4 ≤ len by omega)
  have type := stunAttrGetType_congr same (show attr + 4 ≤ len by omega)
  have tid : stunTidFromMessageStr m' = stunTidFromMessageStr m :=
    Memory.slice_congr (fun i (before : i < 12) => same (8 + i) (by omega))
  have value : stunAddrDecode (m'.shift (attr + 4)) (stunAttrGetLen m attr) (stunXorEd (stunAttrGetType m attr))
      (stunTidFromMessageStr m) = stunAddrDecode (m.shift (attr + 4)) (stunAttrGetLen m attr)
        (stunXorEd (stunAttrGetType m attr)) (stunTidFromMessageStr m) :=
    stunAddrDecode_congr (fun i before => same (attr + 4 + i) (by omega)) _ _
  unfold stunAttrGetAddrStr stunAttrGetValue
  rw [length, type, tid]
  by_cases empty : stunAttrGetLen m attr < 1
  · rw [if_pos empty]
  · rw [if_neg empty]
    dsimp only
    rw [value]

/-- The first attribute of a type reads as the address. -/
def NamesFirst (attrType : UInt16) (message : Memory) (len : Nat) (addr : IoaAddr) : Prop :=
  ∃ attr found, stunAttrGetFirstByTypeStr message len attrType = some attr ∧
    stunAttrGetAddrStr [] message attr none = some found ∧ addrEq found addr = true

theorem NamesFirst.congr {addr : IoaAddr} (names : NamesFirst attrType m len addr) (same : ∀ i, i < len → m' i = m i) :
    NamesFirst attrType m' len addr := by
  obtain ⟨attr, found, first, decoded, equal⟩ := names
  have member := List.mem_of_find?_eq_some first
  obtain ⟨bufLen, announced⟩ := announced_of_attr member
  have long : stunHeaderLength ≤ len := by
    unfold stunGetCommandMessageLenStr at announced
    split_ifs at announced
    omega
  refine ⟨attr, found, ?_, ?_, equal⟩
  · rw [stunAttrGetFirstByTypeStr_congr same (Nat.le_refl len) announced]
    exact first
  · rw [stunAttrGetAddrStr_congr same (stunAttrs_within member) long]
    exact decoded

end TurnCluster
