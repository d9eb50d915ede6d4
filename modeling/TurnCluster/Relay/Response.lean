import TurnCluster.Relay.Reading
import TurnCluster.Stun.Attribute

namespace TurnCluster

def stunAttributeMappedAddress : UInt16 := 0x0001

def stunMakeSuccessResponse (method : UInt16) : UInt16 := (stunMakeType method &&& 0xFEEF) ||| 0x0100

def stunInitSuccessResponseStr (method : UInt16) (b : StunBuffer) (pos : Nat) (tid : List UInt8) : StunBuffer × Nat :=
  stunInitCommandStr (stunMakeSuccessResponse method) b pos tid

/-- `stun_set_binding_response_str` without an error, for a message with the cookie. A new
buffer has room for both addresses. -/
def stunSetBindingResponseStr (mapping : AddrMapping) (b : StunBuffer) (pos : Nat) (tid : List UInt8)
    (reflexiveAddr : IoaAddr) : StunBuffer × Nat :=
  let (b, len) := stunInitSuccessResponseStr stunMethodBinding b pos tid
  let (b, len) := stunAttrAddAddrStr mapping b pos len stunAttributeXorMappedAddress reflexiveAddr
  stunAttrAddAddrStr mapping b pos len stunAttributeMappedAddress reflexiveAddr

/-- An address that may be missing. -/
def stunAttrAddAddrOption (mapping : AddrMapping) (b : StunBuffer) (pos len : Nat) (attr : UInt16) (ca : Option IoaAddr) :
    StunBuffer × Nat :=
  match ca with
  | none => (b, len)
  | some ca => stunAttrAddAddrStr mapping b pos len attr ca

/-- Some attributes with given values, one after the other. -/
def stunAttrAddAll (b : StunBuffer) (pos len : Nat) (attrs : List Attribute) : StunBuffer × Nat :=
  attrs.foldl (fun (b, len) a => stunAttrAddBytes b pos len a.attrType a.value) (b, len)

/-- What `stun_set_allocate_response_str` adds behind the addresses. -/
def allocateFields (lifetime maxLifetime reservationToken : Nat) (mobileId : List UInt8) : List Attribute :=
  let token := (List.range 8).map (fun i => UInt8.ofNat (reservationToken / 256 ^ (7 - i)))
  let lifetime := if lifetime < 1 then stunDefaultAllocateLifetime else min lifetime maxLifetime
  (if reservationToken = 0 then [] else [⟨stunAttributeReservationToken, token⟩]) ++
    [⟨stunAttributeLifetime, bytes32 (nswap32 (UInt32.ofNat lifetime))⟩] ++
    (if mobileId = [] then [] else [⟨stunAttributeMobilityTicket, mobileId⟩])

/-- `stun_set_allocate_response_str` without an error. -/
def stunSetAllocateResponseStr (mapping : AddrMapping) (b : StunBuffer) (pos : Nat) (tid : List UInt8)
    (relayedAddr1 relayedAddr2 : Option IoaAddr) (reflexiveAddr : IoaAddr) (fields : List Attribute) :
    StunBuffer × Nat :=
  let (b, len) := stunInitSuccessResponseStr stunMethodAllocate b pos tid
  let (b, len) := stunAttrAddAddrOption mapping b pos len stunAttributeXorRelayedAddress relayedAddr1
  let (b, len) := stunAttrAddAddrOption mapping b pos len stunAttributeXorRelayedAddress relayedAddr2
  let (b, len) := stunAttrAddAddrStr mapping b pos len stunAttributeXorMappedAddress reflexiveAddr
  stunAttrAddAll b pos len fields

/-- Attributes that stand one behind the other, from `start` to `stop`, in the message at `pos`. -/
def Laid (b : StunBuffer) (pos : Nat) : Nat → List Attribute → Nat → Prop
  | start, [], stop => start = stop
  | start, a :: rest, stop =>
    AttrAt b pos start a.attrType a.value ∧ Laid b pos (start + 4 + roundUp4 a.value.length) rest stop

variable {b : StunBuffer} {pos len stop : Nat} {a : Attribute} {pre : List Attribute} {start : Nat} {addr : IoaAddr}
  {attrs post : List Attribute} (mapping : AddrMapping) {b' : StunBuffer} {fuel : Nat}

theorem Laid.le (laid : Laid b pos start attrs stop) : start ≤ stop := by
  induction attrs generalizing start with
  | nil => exact Nat.le_of_eq laid
  | cons a rest later =>
    obtain ⟨_, behind⟩ := laid
    have further := later behind
    omega

theorem Laid.concat {b : StunBuffer} {pos start stop : Nat} {attrs : List Attribute} {a : Attribute}
    (laid : Laid b pos start attrs stop) (last : AttrAt b pos stop a.attrType a.value) :
    Laid b pos start (attrs ++ [a]) (stop + 4 + roundUp4 a.value.length) := by
  induction attrs generalizing start with
  | nil =>
    cases (show start = stop from laid)
    exact ⟨last, rfl⟩
  | cons first rest later =>
    obtain ⟨there, behind⟩ := laid
    exact ⟨there, later behind⟩

theorem Laid.of_same {lo : Nat} (laid : Laid b pos start attrs stop) (same : SameBetween b b' lo (pos + stop))
    (above : lo ≤ pos + start) : Laid b' pos start attrs stop := by
  induction attrs generalizing start with
  | nil => exact laid
  | cons a rest later =>
    obtain ⟨there, behind⟩ := laid
    have further := behind.le
    have rounded := le_roundUp4 a.value.length
    exact ⟨there.of_same same above (by omega), later behind (by omega)⟩

theorem Laid.head_fits (laid : Laid b pos start attrs stop) (some' : attrs ≠ []) :
    start + 4 + roundUp4 (stunAttrGetLen (b.view pos) start) ≤ stop := by
  cases attrs with
  | nil => exact absurd rfl some'
  | cons a rest =>
    obtain ⟨there, behind⟩ := laid
    rw [there.length]
    exact behind.le

/-- The bytes that attributes take up. -/
def laidSize (attrs : List Attribute) : Nat := (attrs.map (fun a => 4 + roundUp4 a.value.length)).sum

/-- The walk over the message comes to the first attribute of a type. Induction on those before it. -/
theorem Laid.find (message : MessageAt b pos len) (within : stop ≤ len) (others : ∀ x ∈ pre, x.attrType ≠ a.attrType)
    (laid : Laid b pos start (pre ++ a :: post) stop) (enough : len ≤ start + fuel) :
    (stunAttrsFrom (b.view pos) len fuel (some start)).find?
        (fun attr => stunAttrGetType (b.view pos) attr == a.attrType) = some (start + laidSize pre) ∧
      AttrAt b pos (start + laidSize pre) a.attrType a.value := by
  have inside := laid.head_fits (by simp)
  obtain ⟨less, rfl⟩ : ∃ less, fuel = less + 1 := ⟨fuel - 1, by omega⟩
  induction pre generalizing start less with
  | nil =>
    obtain ⟨there, _⟩ := laid
    refine ⟨?_, there⟩
    rw [stunAttrsFrom, List.find?_cons_of_pos (by simp [there.attrType])]
    rfl
  | cons x pre later =>
    obtain ⟨there, behind⟩ := laid
    have fits := behind.head_fits (by simp)
    rw [there.length] at inside
    obtain ⟨fewer, rfl⟩ : ∃ fewer, less = fewer + 1 := ⟨less - 1, by omega⟩
    obtain ⟨found, standing⟩ := later (fun y member => others y (.tail _ member)) behind fits fewer (by omega)
    have place : start + laidSize (x :: pre) = start + 4 + roundUp4 x.value.length + laidSize pre := by
      simp only [laidSize, List.map_cons, List.sum_cons]
      omega
    rw [place]
    refine ⟨?_, standing⟩
    rw [stunAttrsFrom, List.find?_cons_of_neg (by simp [there.attrType, others x (.head _)]),
      stunAttrGetNextStr_of_fits message.commandMessageLen (by rw [there.length]) (Nat.le_trans fits within)]
    exact found

theorem Laid.first (laid : Laid b pos stunHeaderLength (pre ++ a :: post) stop) (message : MessageAt b pos len)
    (within : stop ≤ len) (others : ∀ x ∈ pre, x.attrType ≠ a.attrType) :
    stunAttrGetFirstByTypeStr (b.view pos) len a.attrType = some (stunHeaderLength + laidSize pre) ∧
      AttrAt b pos (stunHeaderLength + laidSize pre) a.attrType a.value := by
  have fits := Nat.le_trans (laid.head_fits (by simp)) within
  obtain ⟨found, standing⟩ := laid.find message within others (Nat.le_add_left len stunHeaderLength)
  refine ⟨?_, standing⟩
  unfold stunAttrGetFirstByTypeStr stunAttrs
  rw [stunAttrGetFirstStr_of_fits message.commandMessageLen fits]
  exact found

theorem Laid.stop_eq (laid : Laid b pos start attrs stop) : stop = start + laidSize attrs := by
  induction attrs generalizing start with
  | nil => exact (show start = stop from laid).symm
  | cons a rest later =>
    have ends := later laid.2
    simp only [laidSize, List.map_cons, List.sum_cons] at ends ⊢
    omega

/-- A message with exactly these attributes. -/
structure Composed (b : StunBuffer) (pos len : Nat) (attrs : List Attribute) : Prop where
  message : MessageAt b pos len
  laid : Laid b pos stunHeaderLength attrs len
  aligned : len % 4 = 0

/-- The places of attributes that stand one behind the other from `start` on. -/
def placesFrom : Nat → List Attribute → List Nat
  | _, [] => []
  | start, a :: rest => start :: placesFrom (start + 4 + roundUp4 a.value.length) rest

theorem stunAttrsFrom_none (buf : Memory) (len fuel : Nat) : stunAttrsFrom buf len fuel none = [] := by
  cases fuel <;> rfl

theorem stunAttrGetNextStr_of_end {buf : Memory} {prev : Nat}
    (announced : stunGetCommandMessageLenStr buf len = some len)
    (place : prev + 4 + roundUp4 (stunAttrGetLen buf prev) = len) : stunAttrGetNextStr buf len prev = none := by
  unfold stunAttrGetNextStr
  rw [announced]
  dsimp only
  rw [place, if_neg (lt_irrefl len)]

/-- The walk from one attribute of a message to its end. Induction on the attributes that are left. -/
theorem Laid.walk (message : MessageAt b pos len) {rest : List Attribute} (laid : Laid b pos start (a :: rest) len)
    (enough : len ≤ start + fuel) :
    stunAttrsFrom (b.view pos) len fuel (some start) = placesFrom start (a :: rest) := by
  have inside := laid.head_fits (by simp)
  obtain ⟨less, rfl⟩ : ∃ less, fuel = less + 1 := ⟨fuel - 1, by omega⟩
  induction rest generalizing start a less with
  | nil =>
    obtain ⟨there, ends⟩ := laid
    have place : start + 4 + roundUp4 (stunAttrGetLen (b.view pos) start) = len := by
      rw [there.length]
      exact ends
    rw [stunAttrsFrom, stunAttrGetNextStr_of_end message.commandMessageLen place, stunAttrsFrom_none]
    rfl
  | cons next rest later =>
    obtain ⟨there, behind⟩ := laid
    have fits := behind.head_fits (by simp)
    rw [there.length] at inside
    obtain ⟨fewer, rfl⟩ : ∃ fewer, less = fewer + 1 := ⟨less - 1, by omega⟩
    have walked := later behind fits fewer (by omega)
    rw [stunAttrsFrom, stunAttrGetNextStr_of_fits message.commandMessageLen (by rw [there.length]) fits, walked]
    rfl

theorem Composed.stunAttrs_eq (composed : Composed b pos len attrs) :
    stunAttrs (b.view pos) len = placesFrom stunHeaderLength attrs := by
  have announced := composed.message.commandMessageLen
  unfold stunAttrs
  cases attrs with
  | nil =>
    have header : stunHeaderLength = len := composed.laid
    have none : stunAttrGetFirstStr (b.view pos) len = none := by
      unfold stunAttrGetFirstStr
      rw [announced]
      dsimp only
      rw [if_neg (by omega)]
    rw [none, stunAttrsFrom_none]
    rfl
  | cons a rest =>
    rw [stunAttrGetFirstStr_of_fits announced (composed.laid.head_fits (by simp))]
    exact composed.laid.walk composed.message (Nat.le_add_left len stunHeaderLength)

theorem stunInitSuccessResponseStr_composed (method : UInt16) (b : StunBuffer) (pos : Nat) (tid : List UInt8) :
    Composed (stunInitSuccessResponseStr method b pos tid).1 pos (stunInitSuccessResponseStr method b pos tid).2 [] where
  message := stunInitCommandStr_message (stunMakeSuccessResponse method) b pos tid
  laid := rfl
  aligned := by
    show 20 % 4 = 0
    rfl

theorem Composed.grow (composed : Composed b pos len attrs) (attr : UInt16) (value : List UInt8)
    (fits : grownLength len value.length < maxStunMessageSize) :
    Composed (stunAttrAddBytes b pos len attr value).1 pos (stunAttrAddBytes b pos len attr value).2
      (attrs ++ [⟨attr, value⟩]) := by
  have long := composed.message.1
  have extended := stunAttrAddBytes_extended composed.message attr value
  have there := stunAttrAddBytes_attrAt composed.message attr fits
  have length := stunAttrAddBytes_length composed.message attr value fits
  have aligned := composed.aligned
  have grown : grownLength len value.length = len + 4 + roundUp4 value.length := by
    unfold grownLength
    exact roundUp4_add (len + 4) value.length (by omega)
  obtain ⟨_, _, rounded⟩ := roundUp4_spec value.length
  have header : stunHeaderLength = 20 := rfl
  have before : Laid (stunAttrAddBytes b pos len attr value).1 pos stunHeaderLength attrs len :=
    composed.laid.of_same extended.same (by omega)
  refine ⟨extended.message, ?_, by omega⟩
  rw [length, grown]
  exact @Laid.concat _ pos stunHeaderLength len attrs ⟨attr, value⟩ before there

theorem Composed.addBytes {b : StunBuffer} {pos len : Nat} {attrs : List Attribute} (composed : Composed b pos len attrs)
    (attr : UInt16) (value : List UInt8) (room : len + value.length + 7 < maxStunMessageSize) :
    Composed (stunAttrAddBytes b pos len attr value).1 pos (stunAttrAddBytes b pos len attr value).2
      (attrs ++ [⟨attr, value⟩]) := by
  have upper := grownLength_le len value.length
  exact composed.grow attr value (by omega)

theorem Composed.addAddr (composed : Composed b pos len attrs) {attr : UInt16} (xored : stunXorEd attr = true)
    (mapping : AddrMapping) (ca : IoaAddr) (room : len + 27 < maxStunMessageSize) :
    ∃ cfield, stunAddrEncode (mapAddrFromPrivateToPublic mapping ca) true (stunTidFromMessageStr (b.view pos)) =
        some cfield ∧ (stunAttrAddAddrStr mapping b pos len attr ca).2 ≤ len + 27 ∧
      Composed (stunAttrAddAddrStr mapping b pos len attr ca).1 pos (stunAttrAddAddrStr mapping b pos len attr ca).2
        (attrs ++ [⟨attr, cfield⟩]) := by
  obtain ⟨cfield, encoded, _, short, added⟩ := stunAttrAddAddrStr_xored xored mapping b pos len ca
  have upper := grownLength_le len cfield.length
  refine ⟨cfield, encoded, ?_, ?_⟩
  · rw [added, stunAttrAddBytes_length composed.message attr cfield (by omega)]
    omega
  · rw [added]
    exact composed.addBytes attr cfield (by omega)

/-- The first XOR-MAPPED-ADDRESS of the message reads as the address. -/
def ReportsMapped (message : Memory) (len : Nat) (addr : IoaAddr) : Prop :=
  ∃ attr found, stunAttrGetFirstByTypeStr message len stunAttributeXorMappedAddress = some attr ∧
    stunAttrGetAddrStr [] message attr none = some found ∧ addrEq found addr = true

theorem ReportsMapped.unique {message : Memory} {addr₁ addr₂ : IoaAddr} (reports₁ : ReportsMapped message len addr₁)
    (reports₂ : ReportsMapped message len addr₂) : addrEq addr₁ addr₂ = true := by
  obtain ⟨attr₁, found₁, first₁, decoded₁, same₁⟩ := reports₁
  obtain ⟨attr₂, found₂, first₂, decoded₂, same₂⟩ := reports₂
  cases first₁.symm.trans first₂
  cases decoded₁.symm.trans decoded₂
  exact addrEq_trans (addrEq_symm same₁) same₂

/-- The same for every message that keeps what is written so far, whatever is added behind. -/
structure Reporting (b : StunBuffer) (pos len : Nat) (addr : IoaAddr) : Prop where
  message : MessageAt b pos len
  kept : ∃ kept, kept ≤ 128 ∧ kept ≤ len ∧
    ∀ b' len', Extended b pos kept b' len' → ReportsMapped (b'.view pos) len' addr

theorem Reporting.reports (reporting : Reporting b pos len addr) : ReportsMapped (b.view pos) len addr := by
  obtain ⟨kept, _, within, reports⟩ := reporting.kept
  exact reports b len ((Extended.refl reporting.message).mono within)

theorem Reporting.extend {len' kept' : Nat} (reporting : Reporting b pos len addr)
    (extended : Extended b pos kept' b' len') (enough : len ≤ kept' ∨ 128 ≤ kept') : Reporting b' pos len' addr := by
  obtain ⟨kept, small, within, reports⟩ := reporting.kept
  have covered : kept ≤ kept' := by omega
  have grown := extended.grown
  refine ⟨extended.message, kept, small, by omega, ?_⟩
  intro b'' len'' further
  exact reports b'' len'' ((extended.mono covered).trans further (le_refl _))

theorem Reporting.addBytes {b : StunBuffer} {pos len : Nat} {addr : IoaAddr} (reporting : Reporting b pos len addr)
    (attr : UInt16) (value : List UInt8) :
    Reporting (stunAttrAddBytes b pos len attr value).1 pos (stunAttrAddBytes b pos len attr value).2 addr :=
  reporting.extend (stunAttrAddBytes_extended reporting.message attr value) (Or.inl (le_refl _))

theorem Reporting.addAddr (reporting : Reporting b pos len addr) (mapping : AddrMapping) (attr : UInt16)
    (ca : IoaAddr) :
    Reporting (stunAttrAddAddrStr mapping b pos len attr ca).1 pos (stunAttrAddAddrStr mapping b pos len attr ca).2 addr :=
  reporting.extend (stunAttrAddAddrStr_extended mapping reporting.message attr ca) (Or.inl (le_refl _))

theorem Reporting.addAll (reporting : Reporting b pos len addr) (attrs : List Attribute) :
    Reporting (stunAttrAddAll b pos len attrs).1 pos (stunAttrAddAll b pos len attrs).2 addr := by
  induction attrs generalizing b len with
  | nil => exact reporting
  | cons a rest later => exact later (reporting.addBytes a.attrType a.value)

theorem stunAttrAddFingerprintStr_kept (nsCrc32 : List UInt8 → UInt32) (message : MessageAt b pos len) :
    Extended b pos (min len 128) (stunAttrAddFingerprintStr nsCrc32 b pos len).1
      (stunAttrAddFingerprintStr nsCrc32 b pos len).2 := by
  have limit : maxStunMessageSize = 65507 := rfl
  have long : 20 ≤ len := message.1
  by_cases room : grownLength len 4 < maxStunMessageSize
  · exact (stunAttrAddFingerprintStr_room nsCrc32 message room).mono (Nat.min_le_left _ _)
  · have full := grownLength_le len 4
    exact stunAttrAddFingerprintStr_extended nsCrc32 message (by omega) (by omega)

/-- An address attribute that is the first of its type names its address, whatever is added behind. -/
theorem Composed.namesFirst {attr : UInt16} (composed : Composed b pos len pre) (xored : stunXorEd attr = true)
    (others : ∀ x ∈ pre, x.attrType ≠ attr) (room : len + 27 < maxStunMessageSize) {mapping : AddrMapping}
    (unmapped : mapAddrFromPrivateToPublic mapping addr = addr) (known : addr.family ≠ .unspec)
    (six : addr.ip6.length = 16) {len' : Nat}
    (extended : Extended (stunAttrAddAddrStr mapping b pos len attr addr).1 pos
      (stunAttrAddAddrStr mapping b pos len attr addr).2 b' len') : NamesFirst attr (b'.view pos) len' addr := by
  have long : 20 ≤ len := composed.message.1
  obtain ⟨cfield, encoded, bound, added⟩ := composed.addAddr xored mapping addr room
  have grown := stunAttrAddAddrStr_extended mapping composed.message attr addr
  have further := grown.grown
  have laid : Laid b' pos stunHeaderLength (pre ++ [⟨attr, cfield⟩]) (stunAttrAddAddrStr mapping b pos len attr addr).2 :=
    added.laid.of_same extended.same (show pos + 4 ≤ pos + 20 by omega)
  obtain ⟨found, there⟩ := laid.first extended.message extended.grown others
  have tid : stunTidFromMessageStr (b'.view pos) = stunTidFromMessageStr (b.view pos) := by
    rw [extended.same.tid (by omega), grown.same.tid (by omega)]
  rw [unmapped, ← tid] at encoded
  obtain ⟨reported, decoded, same⟩ := there.addr xored encoded known six
  exact ⟨_, reported, found, decoded, same⟩

theorem Composed.reporting (composed : Composed b pos len pre)
    (others : ∀ x ∈ pre, x.attrType ≠ stunAttributeXorMappedAddress) (small : len ≤ 100) {mapping : AddrMapping}
    (unmapped : mapAddrFromPrivateToPublic mapping addr = addr) (known : addr.family ≠ .unspec)
    (six : addr.ip6.length = 16) :
    Reporting (stunAttrAddAddrStr mapping b pos len stunAttributeXorMappedAddress addr).1 pos
      (stunAttrAddAddrStr mapping b pos len stunAttributeXorMappedAddress addr).2 addr := by
  have limit : maxStunMessageSize = 65507 := rfl
  have xored : stunXorEd stunAttributeXorMappedAddress = true := by decide
  obtain ⟨cfield, _, bound, added⟩ := composed.addAddr xored mapping addr (by omega)
  refine ⟨added.message, _, show _ ≤ 128 by omega, le_refl _, ?_⟩
  intro b' len' extended
  exact composed.namesFirst xored others (by omega) unmapped known six extended

theorem Composed.addRelayed (composed : Composed b pos len attrs)
    (relayed : ∀ x ∈ attrs, x.attrType = stunAttributeXorRelayedAddress) (mapping : AddrMapping) (ca : Option IoaAddr)
    (room : len + 27 < maxStunMessageSize) :
    ∃ attrs', (∀ x ∈ attrs', x.attrType = stunAttributeXorRelayedAddress) ∧
      (stunAttrAddAddrOption mapping b pos len stunAttributeXorRelayedAddress ca).2 ≤ len + 27 ∧
      Composed (stunAttrAddAddrOption mapping b pos len stunAttributeXorRelayedAddress ca).1 pos
        (stunAttrAddAddrOption mapping b pos len stunAttributeXorRelayedAddress ca).2 attrs' := by
  cases ca with
  | none => exact ⟨attrs, relayed, Nat.le_add_right _ _, composed⟩
  | some ca =>
    obtain ⟨cfield, _, bound, added⟩ :=
      composed.addAddr (show stunXorEd stunAttributeXorRelayedAddress = true by decide) mapping ca room
    refine ⟨attrs ++ [Attribute.mk stunAttributeXorRelayedAddress cfield], ?_, bound, added⟩
    intro x member
    rcases List.mem_append.mp member with earlier | last
    · exact relayed x earlier
    · rw [List.mem_singleton.mp last]

theorem stunSetBindingResponseStr_reporting (b : StunBuffer) (pos : Nat) (tid : List UInt8) {mapping : AddrMapping}
    (unmapped : mapAddrFromPrivateToPublic mapping addr = addr) (known : addr.family ≠ .unspec)
    (six : addr.ip6.length = 16) :
    Reporting (stunSetBindingResponseStr mapping b pos tid addr).1 pos
      (stunSetBindingResponseStr mapping b pos tid addr).2 addr := by
  have start := stunInitSuccessResponseStr_composed stunMethodBinding b pos tid
  have mapped := start.reporting (by simp) (show 20 ≤ 100 by omega) unmapped known six
  exact mapped.addAddr mapping stunAttributeMappedAddress addr

theorem stunSetAllocateResponseStr_reporting (b : StunBuffer) (pos : Nat) (tid : List UInt8)
    (relayedAddr1 relayedAddr2 : Option IoaAddr) (fields : List Attribute) {mapping : AddrMapping}
    (unmapped : mapAddrFromPrivateToPublic mapping addr = addr) (known : addr.family ≠ .unspec)
    (six : addr.ip6.length = 16) :
    Reporting (stunSetAllocateResponseStr mapping b pos tid relayedAddr1 relayedAddr2 addr fields).1 pos
      (stunSetAllocateResponseStr mapping b pos tid relayedAddr1 relayedAddr2 addr fields).2 addr := by
  have limit : maxStunMessageSize = 65507 := rfl
  have start := stunInitSuccessResponseStr_composed stunMethodAllocate b pos tid
  have twenty : (stunInitSuccessResponseStr stunMethodAllocate b pos tid).2 = 20 := rfl
  obtain ⟨attrs₁, relayed₁, bound₁, first⟩ := start.addRelayed (by simp) mapping relayedAddr1 (by omega)
  obtain ⟨attrs₂, relayed₂, bound₂, second⟩ := first.addRelayed relayed₁ mapping relayedAddr2 (by omega)
  have others : ∀ x ∈ attrs₂, x.attrType ≠ stunAttributeXorMappedAddress := by
    intro x member
    rw [relayed₂ x member]
    decide
  exact (second.reporting others (by omega) unmapped known six).addAll fields

theorem stunAttrAddAddrOption_extended (message : MessageAt b pos len) (attr : UInt16) (ca : Option IoaAddr) :
    Extended b pos len (stunAttrAddAddrOption mapping b pos len attr ca).1
      (stunAttrAddAddrOption mapping b pos len attr ca).2 := by
  cases ca with
  | none => exact .refl message
  | some ca => exact stunAttrAddAddrStr_extended mapping message attr ca

theorem stunAttrAddAll_extended (message : MessageAt b pos len) (attrs : List Attribute) :
    Extended b pos len (stunAttrAddAll b pos len attrs).1 (stunAttrAddAll b pos len attrs).2 := by
  induction attrs generalizing b len with
  | nil => exact .refl message
  | cons a rest later =>
    have added := stunAttrAddBytes_extended message a.attrType a.value
    exact added.trans (later added.message) added.grown

theorem stunSetAllocateResponseStr_message (b : StunBuffer) (pos : Nat) (tid : List UInt8)
    (relayedAddr1 relayedAddr2 : Option IoaAddr) (reflexiveAddr : IoaAddr) (fields : List Attribute) :
    MessageAt (stunSetAllocateResponseStr mapping b pos tid relayedAddr1 relayedAddr2 reflexiveAddr fields).1 pos
      (stunSetAllocateResponseStr mapping b pos tid relayedAddr1 relayedAddr2 reflexiveAddr fields).2 := by
  have start := stunInitSuccessResponseStr_composed stunMethodAllocate b pos tid
  have first := stunAttrAddAddrOption_extended mapping start.message stunAttributeXorRelayedAddress relayedAddr1
  have second := stunAttrAddAddrOption_extended mapping first.message stunAttributeXorRelayedAddress relayedAddr2
  have third := stunAttrAddAddrStr_extended mapping second.message stunAttributeXorMappedAddress reflexiveAddr
  exact (stunAttrAddAll_extended third.message fields).message

/-- An Allocate response names the first relayed address that it is built with, whatever is added behind. -/
theorem stunSetAllocateResponseStr_namesFirst {mapping : AddrMapping} (b : StunBuffer) (pos : Nat) (tid : List UInt8)
    {relayed : IoaAddr} (relayedAddr2 : Option IoaAddr) (reflexiveAddr : IoaAddr) (fields : List Attribute)
    (unmapped : mapAddrFromPrivateToPublic mapping relayed = relayed) (known : relayed.family ≠ .unspec)
    (six : relayed.ip6.length = 16) {built : StunBuffer × Nat}
    (made : stunSetAllocateResponseStr mapping b pos tid (some relayed) relayedAddr2 reflexiveAddr fields = built)
    {len' : Nat} (extended : Extended built.1 pos (min built.2 128) b' len') :
    NamesFirst stunAttributeXorRelayedAddress (b'.view pos) len' relayed := by
  have limit : maxStunMessageSize = 65507 := rfl
  have xored : stunXorEd stunAttributeXorRelayedAddress = true := by decide
  have start := stunInitSuccessResponseStr_composed stunMethodAllocate b pos tid
  have twenty : (stunInitSuccessResponseStr stunMethodAllocate b pos tid).2 = 20 := rfl
  obtain ⟨_, _, bound, added⟩ := start.addAddr xored mapping relayed (by omega)
  have second := stunAttrAddAddrOption_extended mapping added.message stunAttributeXorRelayedAddress relayedAddr2
  have third := stunAttrAddAddrStr_extended mapping second.message stunAttributeXorMappedAddress reflexiveAddr
  have fourth := stunAttrAddAll_extended third.message fields
  have behind := second.trans third second.grown
  have whole := behind.trans fourth behind.grown
  have kept := whole.grown
  subst made
  refine start.namesFirst xored (by simp) (by omega) unmapped known six (whole.trans extended ?_)
  exact Nat.le_min.mpr ⟨kept, by omega⟩

end TurnCluster
