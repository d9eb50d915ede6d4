import TurnCluster.Lib.Traced
import TurnCluster.Proxy.Header

namespace TurnCluster

def stunBufferSize : Nat := 65507
def udpStunBufferSize : Nat := 16384

/-- `stun_buffer`: the bytes of `channel` and `buf` lie one behind the other, so
`buf` starts at place 4. `len` is a `size_t`, `offset` 16 and `coffset` 8 bits wide. -/
structure StunBuffer where
  mem : Traced
  len : Nat
  offset : Nat
  coffset : Nat

namespace StunBuffer

def ioaNetworkBufferAllocate : StunBuffer := ⟨.zero, 0, 0, 0⟩

/-- A buffer after a read of `len` bytes; what lies behind them is old. -/
def received (bytes : Memory) (len : Nat) : StunBuffer :=
  ⟨.input bytes stunChannelHeaderLength, len, 0, 0⟩

def dataOrigin (b : StunBuffer) : Nat := stunChannelHeaderLength + b.offset - b.coffset

def data (b : StunBuffer) : Nat := b.dataOrigin + stunCustomHeaderLen

def getSizeOrigin (b : StunBuffer) : Nat := b.len

def getSize (b : StunBuffer) : Nat := sizeSub b.len stunCustomHeaderLen

def setSize (b : StunBuffer) (len : Nat) : StunBuffer := { b with len := len % 2 ^ 64 }

/-- The offsets move and the length is set; a buffer that would end beyond its
space, or start before it, is reset. -/
def addOffsetSize (b : StunBuffer) (offset coffset len : Nat) : StunBuffer :=
  let offset := (b.offset + offset) % 2 ^ 16
  let coffset := (b.coffset + coffset) % 2 ^ 8
  let len := len % 2 ^ 64
  if stunBufferSize ≤ sizeSub ((offset + len) % 2 ^ 64) coffset ∨
      offset + stunChannelHeaderLength < coffset then
    { b with len := 0, offset := 0, coffset := 0 }
  else { b with len := len, offset := offset, coffset := coffset }

/-- The memory behind a pointer into the buffer. -/
def view (b : StunBuffer) (pos : Nat) : Memory := b.mem.byte.shift pos

/-- `memcpy` within the buffer. -/
def move (b : StunBuffer) (dpos spos len : Nat) : StunBuffer :=
  { b with mem := b.mem.copy dpos b.mem spos len }

def write (b : StunBuffer) (pos : Nat) (bytes : List UInt8) : StunBuffer :=
  { b with mem := b.mem.write pos bytes }

/-- An assignment to the header at the start of the buffer. -/
def writeHeader (b : StunBuffer) (header : StunCustomHeader) : StunBuffer :=
  b.write b.dataOrigin header.bytes

end StunBuffer

/-- `stun_init_channel_message_str` on a buffer: the four bytes at `pos`, and the new length. -/
def stunInitChannelMessageStr (chnumber : UInt16) (b : StunBuffer) (pos len : Nat) (length : Int)
    (doPadding : Bool) : StunBuffer × Nat :=
  if length < 0 ∨ (maxStunMessageSize : Int) < 4 + length then (b, len)
  else
    let rlen := length.toNat % 2 ^ 16
    let rlen := if doPadding && rlen % 4 != 0 then (rlen / 4 + 1) * 4 % 2 ^ 16 else rlen
    (b.write pos (bytes16 (nswap16 chnumber) ++ bytes16 (nswap16 (UInt16.ofNat length.toNat))), 4 + rlen)

/-- `stun_init_command_str`, with the transaction id that is drawn at random. -/
def stunInitCommandStr (messageType : UInt16) (b : StunBuffer) (pos : Nat) (tid : List UInt8) :
    StunBuffer × Nat :=
  (b.write pos (bytes16 (nswap16 (messageType &&& 0x3FFF)) ++ [0, 0] ++ bytes32 (nswap32 stunMagicCookie) ++
    tid), stunHeaderLength)

/-- `old_stun_init_command_str`: the cookie of the request takes the place of the magic one. -/
def oldStunInitCommandStr (messageType : UInt16) (b : StunBuffer) (pos : Nat) (tid : List UInt8) (cookie : UInt32) :
    StunBuffer × Nat :=
  (b.write pos (bytes16 (nswap16 (messageType &&& 0x3FFF)) ++ [0, 0] ++ bytes32 (nswap32 cookie) ++ tid),
    stunHeaderLength)

def stunMakeIndication (method : UInt16) : UInt16 := (stunMakeType method &&& 0xFEEF) ||| 0x0010

/-- Place at which the next attribute of the message at `pos` goes, and the
length of the message with it; nothing where `stun_attr_add_str` returns -1. -/
def stunAttrRoom (b : StunBuffer) (pos len : Nat) (alen : Int) : Option (Nat × Nat) :=
  let clen : Int := match stunGetCommandMessageLenStr (b.view pos) len with
    | none => -1
    | some n => n
  let newlen := clen + 4 + max alen 0
  let newlen := if newlen % 4 = 0 then newlen else newlen + (4 - newlen % 4)
  if (maxStunMessageSize : Int) ≤ newlen then none
  else some (((pos : Int) + clen).toNat, newlen.toNat)

/-- The header of a new attribute and of the message around it. -/
def stunAttrHead (b : StunBuffer) (pos : Nat) (attr : UInt16) (alen : Int) (start newlen : Nat) :
    StunBuffer :=
  let b := if newlen < stunHeaderLength then b
    else b.write (pos + 2) (bytes16 (nswap16 (UInt16.ofNat (newlen - stunHeaderLength))))
  b.write start (bytes16 (nswap16 attr) ++ bytes16 (nswap16 (UInt16.ofNat (max alen 0).toNat)))

/-- `stun_attr_add_str` with a value that is copied from another buffer. -/
def stunAttrAddStr (b : StunBuffer) (pos len : Nat) (attr : UInt16) (src : StunBuffer) (spos : Nat)
    (alen : Int) : StunBuffer × Nat :=
  match stunAttrRoom b pos len alen with
  | none => (b, len)
  | some (start, newlen) =>
    let b := stunAttrHead b pos attr alen start newlen
    ({ b with mem := b.mem.copy (start + 4) src.mem spos (max alen 0).toNat }, newlen)

/-- `stun_attr_add_str` with given bytes. -/
def stunAttrAddBytes (b : StunBuffer) (pos len : Nat) (attr : UInt16) (value : List UInt8) :
    StunBuffer × Nat :=
  match stunAttrRoom b pos len value.length with
  | none => (b, len)
  | some (start, newlen) =>
    ((stunAttrHead b pos attr value.length start newlen).write (start + 4) value, newlen)

def stunAttrAddAddrStr (mapping : AddrMapping) (b : StunBuffer) (pos len : Nat) (attr : UInt16)
    (ca : IoaAddr) : StunBuffer × Nat :=
  match stunAddrEncode (mapAddrFromPrivateToPublic mapping ca) (stunXorEd attr)
      (stunTidFromMessageStr (b.view pos)) with
  | none => (b, len)
  | some cfield => stunAttrAddBytes b pos len attr cfield

/-- `stun_attr_add_fingerprint_str` with the CRC-32 of the message before the attribute. -/
def stunAttrAddFingerprintStr (nsCrc32 : List UInt8 → UInt32) (b : StunBuffer) (pos len : Nat) :
    StunBuffer × Nat :=
  let (b, len) := stunAttrAddBytes b pos len stunAttributeFingerprint [0, 0, 0, 0]
  let crc32 := nsCrc32 ((b.view pos).slice 0 (len - 8))
  (b.write (pos + len - 4) (bytes32 (nswap32 (crc32 ^^^ 0x5354554e))), len)

end TurnCluster
