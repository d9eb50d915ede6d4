import TurnCluster.Stun.Message

namespace TurnCluster

/-- The values of `sa_family` that occur: a zeroed address, `AF_INET` and `AF_INET6`. -/
inductive Family where
  | unspec
  | inet
  | inet6
  deriving DecidableEq, Repr

/-- The union `ioa_addr`. `port` and `ip4` are kept as they lie in memory, in
network order read by a little-endian host; for an IPv6 address `ip4` is the
flow information, which no comparison reads. -/
structure IoaAddr where
  family : Family
  port : UInt16
  ip4 : UInt32
  ip6 : List UInt8
  deriving DecidableEq, Repr

namespace IoaAddr

/-- `addr_set_any`: all bytes zero. -/
def any : IoaAddr := ⟨.unspec, 0, 0, List.replicate 16 0⟩

/-- An IPv4 address from its raw words. -/
def inet (ip : UInt32) (port : UInt16) : IoaAddr := ⟨.inet, port, ip, List.replicate 16 0⟩

end IoaAddr

def addrAny (addr : IoaAddr) : Bool :=
  match addr.family with
  | .inet => addr.ip4 == 0 && addr.port == 0
  | .inet6 => addr.port == 0 && addr.ip6.all (· == 0)
  | .unspec => true

def addrAnyNoPort (addr : IoaAddr) : Bool :=
  match addr.family with
  | .inet => addr.ip4 == 0
  | .inet6 => addr.ip6.all (· == 0)
  | .unspec => true

/-- Two addresses of no known family are never equal, not even to themselves. -/
def addrEq (a b : IoaAddr) : Bool :=
  a.family == b.family &&
    match a.family with
    | .inet => a.port == b.port && a.ip4 == b.ip4
    | .inet6 => a.port == b.port && a.ip6 == b.ip6
    | .unspec => false

def addrEqNoPort (a b : IoaAddr) : Bool :=
  a.family == b.family &&
    match a.family with
    | .inet => a.ip4 == b.ip4
    | .inet6 => a.ip6 == b.ip6
    | .unspec => false

def addrGetPort (addr : IoaAddr) : UInt16 :=
  match addr.family with
  | .unspec => 0
  | _ => nswap16 addr.port

def addrSetPort (addr : IoaAddr) (port : UInt16) : IoaAddr :=
  match addr.family with
  | .unspec => addr
  | _ => { addr with port := nswap16 port }

/-- The configured pairs of a public and a private address. -/
abbrev AddrMapping := List (IoaAddr × IoaAddr)

def mapAddrFromPublicToPrivate (mapping : AddrMapping) (publicAddr : IoaAddr) : IoaAddr :=
  match mapping.find? (fun pair => addrEqNoPort publicAddr pair.1) with
  | some pair => addrSetPort pair.2 (addrGetPort publicAddr)
  | none => publicAddr

def mapAddrFromPrivateToPublic (mapping : AddrMapping) (privateAddr : IoaAddr) : IoaAddr :=
  match mapping.find? (fun pair => addrEqNoPort privateAddr pair.2) with
  | some pair => addrSetPort pair.1 (addrGetPort privateAddr)
  | none => privateAddr

/-- The bytes an IPv6 address is xor-ed with: the cookie as sent, then the transaction id. -/
def xorPad (tsxId : List UInt8) : List UInt8 := [0x21, 0x12, 0xA4, 0x42] ++ tsxId

def stunAddrDecode (cfield : Memory) (len : Nat) (xorEd : Bool) (tsxId : List UInt8) :
    Option IoaAddr :=
  if len < 8 then none
  else if cfield 0 ≠ 0 then none
  else if cfield 1 = 1 then
    if len ≠ 8 then none
    else if xorEd then
      some (.inet (le32 cfield 4 ^^^ nswap32 stunMagicCookie) (le16 cfield 2 ^^^ nswap16 0x2112))
    else some (.inet (le32 cfield 4) (le16 cfield 2))
  else if cfield 1 = 2 then
    if len ≠ 20 then none
    else if xorEd then
      some ⟨.inet6, le16 cfield 2 ^^^ nswap16 0x2112, 0,
        List.zipWith (· ^^^ ·) (cfield.slice 4 16) (xorPad tsxId)⟩
    else some ⟨.inet6, le16 cfield 2, 0, cfield.slice 4 16⟩
  else none

def stunAddrEncode (ca : IoaAddr) (xorEd : Bool) (tsxId : List UInt8) : Option (List UInt8) :=
  match ca.family with
  | .inet6 =>
    if xorEd then
      some ([0, 2] ++ bytes16 (ca.port ^^^ nswap16 0x2112) ++
        List.zipWith (· ^^^ ·) ca.ip6 (xorPad tsxId))
    else some ([0, 2] ++ bytes16 ca.port ++ ca.ip6)
  | _ =>
    if xorEd then
      some ([0, 1] ++ bytes16 (ca.port ^^^ nswap16 0x2112) ++
        bytes32 (ca.ip4 ^^^ nswap32 stunMagicCookie))
    else some ([0, 1] ++ bytes16 ca.port ++ bytes32 ca.ip4)

def hashInt32 (a : UInt32) : UInt32 :=
  let a : UInt32 := a ^^^ a >>> 4
  let mixed : UInt32 := a ^^^ 0xdeadbeef
  let a := mixed + a <<< 5
  a ^^^ a >>> 11

def hashInt64 (a : UInt64) : UInt64 :=
  let a : UInt64 := a ^^^ a >>> 4
  let mixed : UInt64 := a ^^^ 0xdeadbeefdeadbeef
  let a := mixed + a <<< 5
  a ^^^ a >>> 11

/-- A 64-bit word of an IPv6 address as a little-endian host reads it. -/
def ip6Word (bytes : List UInt8) : UInt64 :=
  UInt64.ofNat (bytes.foldr (fun byte value => byte.toNat + 256 * value) 0)

def addrHash (addr : IoaAddr) : UInt32 :=
  match addr.family with
  | .inet => hashInt32 (addr.ip4 + addr.port.toUInt32)
  | _ => ((hashInt64 (ip6Word (addr.ip6.take 8)) <<< 3) +
      hashInt64 (ip6Word ((addr.ip6.drop 8).take 8) + addr.port.toUInt64)).toUInt32

def addrHashNoPort (addr : IoaAddr) : UInt32 :=
  match addr.family with
  | .inet => hashInt32 addr.ip4
  | _ => ((hashInt64 (ip6Word (addr.ip6.take 8)) <<< 3) +
      hashInt64 (ip6Word ((addr.ip6.drop 8).take 8))).toUInt32

variable {a b ca c : IoaAddr} {m : Memory}

/-- `addr_eq` compares, within one known family, the port and that family's address. -/
theorem addrEq_iff :
    addrEq a b = true ↔ a.family ≠ .unspec ∧ a.family = b.family ∧ a.port = b.port ∧
      (a.family = .inet → a.ip4 = b.ip4) ∧ (a.family = .inet6 → a.ip6 = b.ip6) := by
  unfold addrEq
  cases known : a.family <;> simp

theorem addrEq_symm (same : addrEq a b = true) : addrEq b a = true := by
  rw [addrEq_iff] at same ⊢
  obtain ⟨known, family, port, four, six⟩ := same
  rw [family] at known four six
  exact ⟨known, family.symm, port.symm, fun is4 => (four is4).symm, fun is6 => (six is6).symm⟩

theorem addrEq_trans (ab : addrEq a b = true) (bc : addrEq b c = true) : addrEq a c = true := by
  rw [addrEq_iff] at ab bc ⊢
  obtain ⟨known, family, port, four, six⟩ := ab
  obtain ⟨_, family', port', four', six'⟩ := bc
  rw [← family] at four' six'
  exact ⟨known, family.trans family', port.trans port', fun is4 => (four is4).trans (four' is4),
    fun is6 => (six is6).trans (six' is6)⟩

theorem addrHash_congr (same : addrEq a b = true) : addrHash a = addrHash b := by
  obtain ⟨known, family, port, four, six⟩ := addrEq_iff.mp same
  unfold addrHash
  rw [← family]
  cases a4 : a.family with
  | unspec => exact absurd a4 known
  | inet => simp only [four a4, port]
  | inet6 => simp only [six a4, port]

theorem addrEqNoPort_iff :
    addrEqNoPort a b = true ↔ a.family ≠ .unspec ∧ a.family = b.family ∧
      (a.family = .inet → a.ip4 = b.ip4) ∧ (a.family = .inet6 → a.ip6 = b.ip6) := by
  unfold addrEqNoPort
  cases known : a.family <;> simp

theorem addrEqNoPort_symm (same : addrEqNoPort a b = true) : addrEqNoPort b a = true := by
  rw [addrEqNoPort_iff] at same ⊢
  obtain ⟨known, family, four, six⟩ := same
  rw [family] at known four six
  exact ⟨known, family.symm, fun is4 => (four is4).symm, fun is6 => (six is6).symm⟩

theorem addrEqNoPort_trans (ab : addrEqNoPort a b = true) (bc : addrEqNoPort b c = true) : addrEqNoPort a c = true := by
  rw [addrEqNoPort_iff] at ab bc ⊢
  obtain ⟨known, family, four, six⟩ := ab
  obtain ⟨_, family', four', six'⟩ := bc
  rw [← family] at four' six'
  exact ⟨known, family.trans family', fun is4 => (four is4).trans (four' is4), fun is6 => (six is6).trans (six' is6)⟩

theorem addrEqNoPort_self (known : a.family ≠ .unspec) : addrEqNoPort a a = true :=
  addrEqNoPort_iff.mpr ⟨known, rfl, fun _ => rfl, fun _ => rfl⟩

/-- What `addr_eq_no_port` compares. -/
def ipKey (addr : IoaAddr) : Family × UInt32 × List UInt8 :=
  match addr.family with
  | .unspec => (.unspec, 0, [])
  | .inet => (.inet, addr.ip4, [])
  | .inet6 => (.inet6, 0, addr.ip6)

theorem addrEqNoPort_iff_ipKey : addrEqNoPort a b = true ↔ a.family ≠ .unspec ∧ ipKey a = ipKey b := by
  unfold addrEqNoPort ipKey
  cases familyA : a.family <;> cases familyB : b.family <;> simp

theorem addrHashNoPort_congr (same : addrEqNoPort a b = true) : addrHashNoPort a = addrHashNoPort b := by
  obtain ⟨known, family, four, six⟩ := addrEqNoPort_iff.mp same
  unfold addrHashNoPort
  rw [← family]
  cases a4 : a.family with
  | unspec => exact absurd a4 known
  | inet => simp only [four a4]
  | inet6 => simp only [six a4]

theorem addrEqNoPort_of_addrEq (same : addrEq a b = true) :
    addrEqNoPort a b = true ∧ addrGetPort a = addrGetPort b := by
  obtain ⟨known, family, port, four, six⟩ := addrEq_iff.mp same
  refine ⟨addrEqNoPort_iff.mpr ⟨known, family, four, six⟩, ?_⟩
  unfold addrGetPort
  rw [family, port]

theorem addrEqNoPort_setPort (a b : IoaAddr) (port : UInt16) :
    addrEqNoPort a (addrSetPort b port) = addrEqNoPort a b := by
  unfold addrSetPort
  split
  · rfl
  · rfl

theorem addrSetPort_family (addr : IoaAddr) (port : UInt16) : (addrSetPort addr port).family = addr.family := by
  unfold addrSetPort
  split
  · rfl
  · rfl

theorem addrGetPort_setPort_zero (addr : IoaAddr) : addrGetPort (addrSetPort addr 0) = 0 := by
  cases known : addr.family with
  | unspec => simp [addrSetPort, addrGetPort, known]
  | inet => simp [addrSetPort, addrGetPort, known]
  | inet6 => simp [addrSetPort, addrGetPort, known]

theorem zipWith_xor_cancel {bytes pad : List UInt8} (covered : bytes.length ≤ pad.length) :
    List.zipWith (· ^^^ ·) (List.zipWith (· ^^^ ·) bytes pad) pad = bytes := by
  induction bytes generalizing pad with
  | nil => rfl
  | cons byte bytes later =>
    cases pad with
    | nil => simp at covered
    | cons first pad =>
      simp only [List.length_cons, Nat.add_le_add_iff_right] at covered
      rw [List.zipWith_cons_cons, List.zipWith_cons_cons, later covered, UInt8.xor_assoc, UInt8.xor_self,
        UInt8.xor_zero]

theorem zipWith_xor_zeros (bytes : List UInt8) : List.zipWith (· ^^^ ·) bytes (List.replicate bytes.length 0) = bytes := by
  induction bytes with
  | nil => rfl
  | cons byte bytes later => rw [List.length_cons, List.replicate_succ, List.zipWith_cons_cons, later, UInt8.xor_zero]

/-- What the port and the address are xor-ed with: nothing in a plain attribute. -/
def portPad (xorEd : Bool) : UInt16 := if xorEd = true then nswap16 0x2112 else 0
def ip4Pad (xorEd : Bool) : UInt32 := if xorEd = true then nswap32 stunMagicCookie else 0
def ip6Pad (xorEd : Bool) (tsxId : List UInt8) : List UInt8 :=
  if xorEd = true then xorPad tsxId else List.replicate 16 0

theorem stunAddrEncode_inet (family : ca.family = .inet) (xorEd : Bool) (tsxId : List UInt8) :
    stunAddrEncode ca xorEd tsxId =
      some ([0, 1] ++ bytes16 (ca.port ^^^ portPad xorEd) ++ bytes32 (ca.ip4 ^^^ ip4Pad xorEd)) := by
  cases xorEd <;> simp [stunAddrEncode, family, portPad, ip4Pad]

theorem stunAddrEncode_inet6 (family : ca.family = .inet6) (six : ca.ip6.length = 16) (xorEd : Bool)
    (tsxId : List UInt8) :
    stunAddrEncode ca xorEd tsxId =
      some ([0, 2] ++ bytes16 (ca.port ^^^ portPad xorEd) ++ List.zipWith (· ^^^ ·) ca.ip6 (ip6Pad xorEd tsxId)) := by
  have zeros := zipWith_xor_zeros ca.ip6
  rw [six] at zeros
  cases xorEd with
  | false =>
    have plain : List.zipWith (· ^^^ ·) ca.ip6 (ip6Pad false tsxId) = ca.ip6 := zeros
    simp [stunAddrEncode, family, portPad, plain]
  | true => simp [stunAddrEncode, family, portPad, ip6Pad]

theorem stunAddrDecode_inet (zero : m 0 = 0) (one : m 1 = 1) (xorEd : Bool) (tsxId : List UInt8) :
    stunAddrDecode m 8 xorEd tsxId = some (.inet (le32 m 4 ^^^ ip4Pad xorEd) (le16 m 2 ^^^ portPad xorEd)) := by
  cases xorEd <;> simp [stunAddrDecode, zero, one, portPad, ip4Pad]

theorem stunAddrDecode_inet6 (zero : m 0 = 0) (two : m 1 = 2) (xorEd : Bool) (tsxId : List UInt8) :
    stunAddrDecode m 20 xorEd tsxId =
      some ⟨.inet6, le16 m 2 ^^^ portPad xorEd, 0, List.zipWith (· ^^^ ·) (m.slice 4 16) (ip6Pad xorEd tsxId)⟩ := by
  have zeros := zipWith_xor_zeros (m.slice 4 16)
  rw [Memory.length_slice] at zeros
  cases xorEd with
  | false =>
    have plain : List.zipWith (· ^^^ ·) (m.slice 4 16) (ip6Pad false tsxId) = m.slice 4 16 := zeros
    simp [stunAddrDecode, zero, two, portPad, plain]
  | true => simp [stunAddrDecode, zero, two, portPad, ip6Pad]

theorem stunAddrDecode_encode {xorEd : Bool} {tsxId cfield : List UInt8} (known : ca.family ≠ .unspec)
    (six : ca.ip6.length = 16) (tid : tsxId.length = 12) (encoded : stunAddrEncode ca xorEd tsxId = some cfield)
    (bytes : m.slice 0 cfield.length = cfield) :
    ∃ addr, stunAddrDecode m cfield.length xorEd tsxId = some addr ∧ addrEq addr ca = true := by
  cases family : ca.family with
  | unspec => exact absurd family known
  | inet =>
    rw [stunAddrEncode_inet family, Option.some.injEq] at encoded
    subst encoded
    obtain ⟨front, ip⟩ := Memory.slice_parts bytes
    obtain ⟨head, port⟩ := Memory.slice_parts front
    have zero : m 0 = 0 := Memory.apply_of_slice head (show 0 < 2 by omega)
    have one : m 1 = 1 := Memory.apply_of_slice head (show 1 < 2 by omega)
    have port : le16 m 2 = ca.port ^^^ portPad xorEd := le16_of_slice port
    have ip : le32 m 4 = ca.ip4 ^^^ ip4Pad xorEd := le32_of_slice ip
    refine ⟨.inet ca.ip4 ca.port, ?_, ?_⟩
    · refine (stunAddrDecode_inet zero one xorEd tsxId).trans ?_
      rw [port, ip, UInt32.xor_assoc, UInt32.xor_self, UInt32.xor_zero, UInt16.xor_assoc, UInt16.xor_self,
        UInt16.xor_zero]
    · rw [addrEq_iff]
      simp [IoaAddr.inet, family]
  | inet6 =>
    rw [stunAddrEncode_inet6 family six, Option.some.injEq] at encoded
    subst encoded
    have padded : (ip6Pad xorEd tsxId).length = 16 := by
      cases xorEd <;> simp [ip6Pad, xorPad, tid]
    have mixed : (List.zipWith (· ^^^ ·) ca.ip6 (ip6Pad xorEd tsxId)).length = 16 := by
      rw [List.length_zipWith, six, padded]
      rfl
    obtain ⟨front, ip⟩ := Memory.slice_parts bytes
    obtain ⟨head, port⟩ := Memory.slice_parts front
    rw [mixed] at ip
    rw [List.length_append, mixed]
    have zero : m 0 = 0 := Memory.apply_of_slice head (show 0 < 2 by omega)
    have two : m 1 = 2 := Memory.apply_of_slice head (show 1 < 2 by omega)
    have port : le16 m 2 = ca.port ^^^ portPad xorEd := le16_of_slice port
    have ip : m.slice 4 16 = List.zipWith (· ^^^ ·) ca.ip6 (ip6Pad xorEd tsxId) := ip
    refine ⟨⟨.inet6, ca.port, 0, ca.ip6⟩, ?_, ?_⟩
    · refine (stunAddrDecode_inet6 zero two xorEd tsxId).trans ?_
      rw [port, ip, zipWith_xor_cancel (by omega), UInt16.xor_assoc, UInt16.xor_self, UInt16.xor_zero]
    · rw [addrEq_iff]
      simp [family]

theorem addrEq_of_noPort (same : addrEqNoPort a b = true) (port : addrGetPort a = addrGetPort b) :
    addrEq a b = true := by
  obtain ⟨known, family, four, six⟩ := addrEqNoPort_iff.mp same
  refine addrEq_iff.mpr ⟨known, family, ?_, four, six⟩
  have swapped : nswap16 a.port = nswap16 b.port := by
    unfold addrGetPort at port
    rw [← family] at port
    cases kind : a.family with
    | unspec => exact absurd kind known
    | inet => simpa only [kind] using port
    | inet6 => simpa only [kind] using port
  rw [← nswap16_nswap16 a.port, swapped, nswap16_nswap16]

theorem addrGetPort_setPort {addr : IoaAddr} (known : addr.family ≠ .unspec) (port : UInt16) :
    addrGetPort (addrSetPort addr port) = port := by
  cases kind : addr.family with
  | unspec => exact absurd kind known
  | inet => simp [addrSetPort, addrGetPort, kind]
  | inet6 => simp [addrSetPort, addrGetPort, kind]

end TurnCluster
