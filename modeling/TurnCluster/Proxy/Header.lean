import TurnCluster.Stun.Attr

namespace TurnCluster

/-- `STUN_COSTOM_HEADER_LEN`: the bytes of the header that travels between
proxy and coturn in front of every message. -/
def stunCustomHeaderLen : Nat := 14

/-- The union `stun_custom_header`, each field as it lies in memory. -/
structure StunCustomHeader where
  identifier : UInt16
  srcIp : UInt32
  srcPort : UInt16
  dstIp : UInt32
  dstPort : UInt16
  deriving DecidableEq, Repr

namespace StunCustomHeader

def customIdentifier : UInt16 := nswap16 0x8000
def customDataIdentifier : UInt16 := nswap16 0x8001
def customReleaseIdentifier : UInt16 := nswap16 0x8002

/-- The cast of a buffer to a header. -/
def read (buf : Memory) : StunCustomHeader :=
  ⟨le16 buf 0, le32 buf 2, le16 buf 6, le32 buf 8, le16 buf 12⟩

/-- `GetData`: the fourteen bytes of the header. -/
def bytes (h : StunCustomHeader) : List UInt8 :=
  bytes16 h.identifier ++ bytes32 h.srcIp ++ bytes16 h.srcPort ++ bytes32 h.dstIp ++
    bytes16 h.dstPort

def isStunExtensionHeader (h : StunCustomHeader) : Bool := h.identifier == customIdentifier

def isStunExtensionRelayHeader (h : StunCustomHeader) : Bool := h.identifier == customDataIdentifier

def isStunExtensionReleaseHeader (h : StunCustomHeader) : Bool :=
  h.identifier == customReleaseIdentifier

/-- Decimal digits, as `std::to_string` writes them. -/
def decimal (n : Nat) : List Char := Nat.toDigits 10 n

/-- `inet_ntoa` of a raw address: the first byte in memory comes first. -/
def ip2string (ip : UInt32) : List Char :=
  decimal (ip.toNat % 256) ++ '.' :: decimal (ip.toNat / 256 % 256) ++
    '.' :: decimal (ip.toNat / 65536 % 256) ++ '.' :: decimal (ip.toNat / 16777216)

def getSrcIntIp (h : StunCustomHeader) : UInt32 := nswap32 h.srcIp
def getSrcPort (h : StunCustomHeader) : UInt16 := nswap16 h.srcPort

/-- The destination as text, empty for the address 0. -/
def getDstIp (h : StunCustomHeader) : List Char :=
  if h.dstIp = 0 then [] else ip2string (nswap32 h.dstIp)

def getDstIntIp (h : StunCustomHeader) : UInt32 := nswap32 h.dstIp
def getDstPort (h : StunCustomHeader) : UInt16 := nswap16 h.dstPort

theorem isStunExtensionHeader_iff {h : StunCustomHeader} :
    h.isStunExtensionHeader = true ↔ h.identifier = customIdentifier := by
  simp [isStunExtensionHeader]

theorem isStunExtensionRelayHeader_iff {h : StunCustomHeader} :
    h.isStunExtensionRelayHeader = true ↔ h.identifier = customDataIdentifier := by
  simp [isStunExtensionRelayHeader]

theorem read_of_bytes {buf : Memory} {h : StunCustomHeader} (starts : buf.slice 0 stunCustomHeaderLen = h.bytes) :
    read buf = h := by
  have byte (i : Nat) (inside : i < 14) : buf i = h.bytes.getD i 0 := by
    have value := Memory.apply_of_slice starts inside
    rwa [Nat.zero_add] at value
  have identifier : le16 buf 0 = h.identifier := le16_of_bytes (byte 0 (by omega)) (byte 1 (by omega))
  have srcIp : le32 buf 2 = h.srcIp :=
    le32_of_bytes (byte 2 (by omega)) (byte 3 (by omega)) (byte 4 (by omega)) (byte 5 (by omega))
  have srcPort : le16 buf 6 = h.srcPort := le16_of_bytes (byte 6 (by omega)) (byte 7 (by omega))
  have dstIp : le32 buf 8 = h.dstIp :=
    le32_of_bytes (byte 8 (by omega)) (byte 9 (by omega)) (byte 10 (by omega)) (byte 11 (by omega))
  have dstPort : le16 buf 12 = h.dstPort := le16_of_bytes (byte 12 (by omega)) (byte 13 (by omega))
  unfold read
  rw [identifier, srcIp, srcPort, dstIp, dstPort]

end StunCustomHeader

/-- Key of the proxy's address maps: dotted address and decimal port, with nothing in between. -/
def addrKey (ip : UInt32) (port : UInt16) : List Char :=
  StunCustomHeader.ip2string ip ++ StunCustomHeader.decimal port.toNat

end TurnCluster
