import TurnCluster.Stun.Attr

namespace TurnCluster

def stunMaxUsernameSize : Nat := 512
def stunMaxRealmSize : Nat := 127
def stunMaxOriginSize : Nat := 127
def stunDefaultAllocateLifetime : Nat := 600
def stunMinAllocateLifetime : Nat := stunDefaultAllocateLifetime

/-- An attribute of a message as the handlers use it: its type and its value. -/
structure Attribute where
  attrType : UInt16
  value : List UInt8
  deriving DecidableEq, Repr

/-- The attribute that a reference points to. -/
def attributeAt (buf : Memory) (attr : AttrRef) : Attribute :=
  ⟨stunAttrGetType buf attr, buf.slice (attr + 4) (stunAttrGetLen buf attr)⟩

/-- The attributes that the loop over a message visits. -/
def attributes (buf : Memory) (len : Nat) : List Attribute := (stunAttrs buf len).map (attributeAt buf)

/-- The first attribute of a type. -/
def firstOfType (attrs : List Attribute) (attrType : UInt16) : Option Attribute :=
  attrs.find? (fun a => a.attrType == attrType)

/-- The bytes before the first zero. -/
def cString (bytes : List UInt8) : List UInt8 := bytes.takeWhile (· ≠ 0)

/-- A value copied into a buffer with room for `size` bytes and a terminating zero. -/
def boundedString (size : Nat) (value : List UInt8) : List UInt8 := cString (value.take size)

namespace Attribute

def channelNumber (a : Attribute) : UInt16 :=
  if 2 ≤ a.value.length then
    let cn := net16 (.ofList a.value) 0
    if stunValidChannel cn then cn else 0
  else 0

def bandwidth (a : Attribute) : Nat :=
  if 4 ≤ a.value.length then (net32 (.ofList a.value) 0 <<< 7).toNat else 0

/-- The token of a RESERVATION-TOKEN, its first byte the most significant. -/
def reservationToken (a : Attribute) : Nat :=
  if a.value.length = 8 then a.value.foldl (fun token byte => 256 * token + byte.toNat) 0 else 0

def evenPort (a : Attribute) : Nat :=
  match a.value with
  | [] => 0
  | first :: _ => if 0x7F < first then 1 else 0

/-- `stun_get_requested_address_family`; `none` is the value `INVALID`. -/
def requestedAddressFamily (a : Attribute) : Option Family :=
  if a.value.length ≠ 4 then none
  else
    match a.value.head? with
    | some 1 => some .inet
    | some 2 => some .inet6
    | _ => none

/-- The number a LIFETIME of four bytes holds. -/
def lifetime (a : Attribute) : Nat := (net32 (.ofList a.value) 0).toNat

/-- `stun_attr_get_addr_str` without a default; a caller is left with the zeroed address if it fails. -/
def addr (mapping : AddrMapping) (tid : List UInt8) (a : Attribute) : IoaAddr :=
  if a.value.length < 1 then .any
  else
    match stunAddrDecode (.ofList a.value) a.value.length (stunXorEd a.attrType) tid with
    | none => .any
    | some publicAddr => mapAddrFromPublicToPrivate mapping publicAddr

/-- `stun_attr_get_addr_str` returns 0. -/
def decodes (tid : List UInt8) (a : Attribute) : Bool :=
  decide (1 ≤ a.value.length) &&
    (stunAddrDecode (.ofList a.value) a.value.length (stunXorEd a.attrType) tid).isSome

theorem addr_of_undecodable {tid : List UInt8} {a : Attribute} (fails : a.decodes tid = false)
    (mapping : AddrMapping) : a.addr mapping tid = .any := by
  unfold decodes at fails
  unfold addr
  split
  · rfl
  · rename_i filled
    have failed : stunAddrDecode (.ofList a.value) a.value.length (stunXorEd a.attrType) tid = none := by
      simpa [Nat.not_lt.mp filled] using fails
    rw [failed]

end Attribute

def stunAdjustAllocateLifetime (lifetime maxAllowedLifetime maxLifetime : Nat) : Nat :=
  let lifetime :=
    if lifetime = 0 then stunDefaultAllocateLifetime
    else if lifetime < stunMinAllocateLifetime then stunMinAllocateLifetime
    else if maxAllowedLifetime < lifetime then maxAllowedLifetime
    else lifetime
  if maxLifetime ≠ 0 ∧ maxLifetime < lifetime then maxLifetime else lifetime

/-- `tolower` in the C locale. -/
def toLower (byte : UInt8) : UInt8 := if 65 ≤ byte ∧ byte ≤ 90 then byte + 32 else byte

/-- `strstr`: one string occurs in the other. -/
def contains (needle text : List UInt8) : Bool := text.tails.any (fun rest => needle.isPrefixOf rest)

/-- `is_secure_string`: no blank, quote or backslash, and no SQL union. -/
def isSecureString (string : List UInt8) (sanitizeSql : Bool) : Bool :=
  let s := string.map toLower
  if [32, 9, 39, 34, 10, 13, 92].any (fun byte => s.contains byte) then false
  else
    !(sanitizeSql && contains [117, 110, 105, 111, 110] s && contains [115, 101, 108, 101, 99, 116] s)

variable {b₁ b₂ : Memory} {len₁ len₂ sar : Nat} {attrType : UInt16}

theorem attributeAt_congr {attr : Nat} (head : ∀ i, attr ≤ i → i < attr + 4 → b₁ i = b₂ i)
    (same : ∀ i, attr ≤ i → i < attr + 4 + stunAttrGetLen b₁ attr → b₁ i = b₂ i) :
    attributeAt b₁ attr = attributeAt b₂ attr ∧ stunAttrGetLen b₁ attr = stunAttrGetLen b₂ attr := by
  have attrType : stunAttrGetType b₁ attr = stunAttrGetType b₂ attr :=
    net16_congr (head attr (by omega) (by omega)) (head (attr + 1) (by omega) (by omega))
  have value : b₁.slice (attr + 4) (stunAttrGetLen b₁ attr) = b₂.slice (attr + 4) (stunAttrGetLen b₁ attr) := by
    apply Memory.slice_congr
    intro i within
    exact same (attr + 4 + i) (by omega) (by omega)
  have length : stunAttrGetLen b₁ attr = stunAttrGetLen b₂ attr := by
    unfold stunAttrGetLen
    rw [net16_congr (head (attr + 2) (by omega) (by omega)) (head (attr + 3) (by omega) (by omega))]
  unfold attributeAt
  rw [attrType, value, length]
  exact ⟨rfl, rfl⟩

/-- What two lists of attributes share: everything up to the first one of a type. -/
def SharesUpTo (attrType : UInt16) (attrs₁ attrs₂ : List Attribute) : Prop :=
  ∃ pre a post₁ post₂, attrs₁ = pre ++ a :: post₁ ∧ attrs₂ = pre ++ a :: post₂ ∧ a.attrType = attrType ∧
    ∀ b ∈ pre, b.attrType ≠ attrType

theorem SharesUpTo.cons {attrs₁ attrs₂ : List Attribute} {first : Attribute}
    (shares : SharesUpTo attrType attrs₁ attrs₂) (other : first.attrType ≠ attrType) :
    SharesUpTo attrType (first :: attrs₁) (first :: attrs₂) := by
  obtain ⟨pre, a, post₁, post₂, rfl, rfl, isType, others⟩ := shares
  refine ⟨first :: pre, a, post₁, post₂, rfl, rfl, isType, ?_⟩
  intro b member
  rcases List.mem_cons.mp member with rfl | later
  · exact other
  · exact others b later

theorem exists_start_of_find {buf : Memory} {len fuel : Nat} {p : AttrRef → Bool} {start : Option AttrRef}
    (found : (stunAttrsFrom buf len fuel start).find? p = some sar) : ∃ attr : Nat, start = some attr := by
  cases start with
  | some attr => exact ⟨attr, rfl⟩
  | none => cases fuel <;> simp [stunAttrsFrom] at found

/-- Induction over the walk through both messages: as long as the type has not
come up, the bytes that decide on the next reference are the same. -/
theorem stunAttrsFrom_shares (same : ∀ i, stunHeaderLength ≤ i → i < sar + 4 + stunAttrGetLen b₁ sar → b₁ i = b₂ i)
    (fuel₁ fuel₂ : Nat) {start : Nat} (behind : stunHeaderLength ≤ start)
    (first₁ : (stunAttrsFrom b₁ len₁ fuel₁ (some start)).find? (fun attr => stunAttrGetType b₁ attr == attrType) = some sar)
    (first₂ : (stunAttrsFrom b₂ len₂ fuel₂ (some start)).find? (fun attr => stunAttrGetType b₂ attr == attrType) = some sar) :
    SharesUpTo attrType ((stunAttrsFrom b₁ len₁ fuel₁ (some start)).map (attributeAt b₁))
      ((stunAttrsFrom b₂ len₂ fuel₂ (some start)).map (attributeAt b₂)) := by
  induction fuel₁ generalizing fuel₂ start with
  | zero => simp [stunAttrsFrom] at first₁
  | succ fuel₁ later =>
    cases fuel₂ with
    | zero => simp [stunAttrsFrom] at first₂
    | succ fuel₂ =>
      rw [stunAttrsFrom, List.find?_cons] at first₁ first₂
      rw [stunAttrsFrom, stunAttrsFrom, List.map_cons, List.map_cons]
      cases isType : stunAttrGetType b₁ start == attrType with
      | true =>
        rw [isType] at first₁
        obtain rfl : start = sar := Option.some.inj first₁
        obtain ⟨equal, -⟩ := attributeAt_congr (fun i above below => same i (by omega) (by omega))
          (fun i above below => same i (by omega) below)
        rw [← equal]
        exact ⟨[], _, _, _, rfl, rfl, beq_iff_eq.mp isType, fun _ member => absurd member List.not_mem_nil⟩
      | false =>
        rw [isType] at first₁
        dsimp only at first₁
        obtain ⟨next, next₁⟩ := exists_start_of_find first₁
        rw [next₁] at first₁
        have place : next = start + 4 + roundUp4 (stunAttrGetLen b₁ start) := stunAttrGetNextStr_eq next₁
        have reached : next ≤ sar := le_of_mem_stunAttrsFrom (List.mem_of_find?_eq_some first₁)
        have rounded := le_roundUp4 (stunAttrGetLen b₁ start)
        have ends : start + 4 + stunAttrGetLen b₁ start ≤ sar := by omega
        obtain ⟨equal, length⟩ : attributeAt b₁ start = attributeAt b₂ start ∧
            stunAttrGetLen b₁ start = stunAttrGetLen b₂ start :=
          attributeAt_congr (fun i above below => same i (by omega) (by omega))
            (fun i above below => same i (by omega) (by omega))
        have sameType : stunAttrGetType b₂ start = stunAttrGetType b₁ start := congrArg Attribute.attrType equal.symm
        rw [sameType, isType] at first₂
        dsimp only at first₂
        obtain ⟨next', next₂⟩ := exists_start_of_find first₂
        have place' : next' = next := by
          rw [stunAttrGetNextStr_eq next₂, ← length]
          exact place.symm
        rw [next₂, place'] at first₂
        rw [next₁, next₂, place', ← equal]
        refine (later fuel₂ (by omega) first₁ first₂).cons ?_
        exact fun isSame => by simp [attributeAt] at isSame; simp [isSame] at isType

theorem attributes_share (same : ∀ i, stunHeaderLength ≤ i → i < sar + 4 + stunAttrGetLen b₁ sar → b₁ i = b₂ i)
    (first₁ : stunAttrGetFirstByTypeStr b₁ len₁ attrType = some sar)
    (first₂ : stunAttrGetFirstByTypeStr b₂ len₂ attrType = some sar) :
    SharesUpTo attrType (attributes b₁ len₁) (attributes b₂ len₂) := by
  unfold stunAttrGetFirstByTypeStr stunAttrs at first₁ first₂
  unfold attributes stunAttrs
  obtain ⟨start, start₁⟩ := exists_start_of_find first₁
  obtain ⟨start', start₂⟩ := exists_start_of_find first₂
  rw [start₁, stunAttrGetFirstStr_eq start₁] at first₁ ⊢
  rw [start₂, stunAttrGetFirstStr_eq start₂] at first₂ ⊢
  exact stunAttrsFrom_shares same len₁ len₂ (Nat.le_refl _) first₁ first₂

end TurnCluster
