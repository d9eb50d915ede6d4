import TurnCluster.Relay.Building
import TurnCluster.Server.PeerPermission

namespace TurnCluster
namespace Server

open StunCustomHeader

/-- A datagram ready to be framed: `len` bytes of application data at the front of its buffer. -/
structure Prepared (received : Memory) (a : Adjusted) (len : Nat) : Prop where
  ilen : a.ilen = len
  covered : len ≤ a.nbh.len
  small : a.nbh.len ≤ udpStunBufferSize
  offset : a.nbh.offset = 0
  coffset : a.nbh.coffset = 0
  sound : a.nbh.mem.Sound received

/-- The application data of a frame is the front of the datagram's buffer, byte for byte. -/
structure Carries (received : Memory) (a : Adjusted) (nbh : StunBuffer) (appPos len : Nat) : Prop where
  sound : nbh.mem.Sound received
  origin : ∀ j < len, nbh.mem.origin (appPos + j) = a.nbh.mem.origin (a.nbh.dataOrigin + j)

variable (ctx : PeerContext) {received : Memory} {a : Adjusted} {len : Nat}

theorem Prepared.dataOrigin (prepared : Prepared received a len) : a.nbh.dataOrigin = 4 := by
  unfold StunBuffer.dataOrigin
  rw [prepared.offset, prepared.coffset]
  rfl

theorem Prepared.sizes (prepared : Prepared received a len) : sizeOfInt a.ilen = len ∧ intOfSize len = len := by
  have limit : udpStunBufferSize = 16384 := rfl
  have covered := prepared.covered
  have small := prepared.small
  refine ⟨?_, intOfSize_of_small (by omega)⟩
  unfold sizeOfInt
  rw [prepared.ilen]
  omega

theorem stunAttrAddAddrStr_grows (mapping : AddrMapping) {b : StunBuffer} {pos : Nat} (message : MessageAt b pos len)
    (small : len ≤ 20000) (ca : IoaAddr) :
    len + 8 ≤ (stunAttrAddAddrStr mapping b pos len stunAttributeXorPeerAddress ca).2 := by
  have xored : stunXorEd stunAttributeXorPeerAddress = true := by decide
  obtain ⟨cfield, _, long, short, added⟩ := stunAttrAddAddrStr_xored xored mapping b pos len ca
  have upper := grownLength_le len cfield.length
  have lower := le_grownLength len cfield.length
  have limit : maxStunMessageSize = 65507 := rfl
  rw [added, stunAttrAddBytes_length message _ _ (by omega)]
  omega

theorem writeHeader_same (b : StunBuffer) (header : StunCustomHeader) (hi : Nat) :
    SameBetween b (b.writeHeader header) b.data hi :=
  StunBuffer.write_same (Or.inr (le_refl _))

theorem indicationTail_extended {data : StunBuffer} (message : MessageAt data 18 len) (short : len ≤ 20000)
    (srcAddr : IoaAddr) :
    let addressed := stunAttrAddAddrStr ctx.mapping data 18 len stunAttributeXorPeerAddress srcAddr
    let named := stunAttrAddBytes addressed.1 18 addressed.2 stunAttributeSoftware ctx.software
    let frame := if ctx.fingerprint = true then stunAttrAddFingerprintStr ctx.nsCrc32 named.1 18 named.2 else named
    Extended data 18 len frame.1 frame.2 := by
  have long : 20 ≤ len := message.1
  have address := stunAttrAddAddrStr_extended ctx.mapping message stunAttributeXorPeerAddress srcAddr
  have grows := stunAttrAddAddrStr_grows ctx.mapping message short srcAddr
  have software := stunAttrAddBytes_extended address.message stunAttributeSoftware ctx.software
  have namedGrown := software.grown
  have before := address.trans software address.grown
  dsimp only
  split
  · exact before.trans
      (stunAttrAddFingerprintStr_extended ctx.nsCrc32 software.message (by omega) (by omega)) (le_refl _)
  · exact before

theorem indicationFrame_carries (prepared : Prepared received a len) :
    (indicationFrame ctx a).2.2 = len ∧
      Carries received a (indicationFrame ctx a).1 (indicationFrame ctx a).2.1 len := by
  have limit : maxStunMessageSize = 65507 := rfl
  have capacity : udpStunBufferSize = 16384 := rfl
  have headed : stunHeaderLength = 20 := rfl
  have covered := prepared.covered
  have small := prepared.small
  have upper := grownLength_le stunHeaderLength len
  have lower := le_grownLength stunHeaderLength len
  have room : grownLength stunHeaderLength len < maxStunMessageSize := by omega
  have short : grownLength stunHeaderLength len ≤ 20000 := by omega
  have message := stunInitCommandStr_message (stunMakeIndication stunMethodData)
    StunBuffer.ioaNetworkBufferAllocate StunBuffer.ioaNetworkBufferAllocate.data ctx.tid
  have soundInit : (stunInitCommandStr (stunMakeIndication stunMethodData) StunBuffer.ioaNetworkBufferAllocate
      StunBuffer.ioaNetworkBufferAllocate.data ctx.tid).1.mem.Sound received := (Traced.Sound.zero received).write _ _
  have front : StunBuffer.ioaNetworkBufferAllocate.data = 18 := rfl
  unfold indicationFrame
  dsimp only
  rw [prepared.sizes.1, prepared.sizes.2]
  generalize initial : stunInitCommandStr (stunMakeIndication stunMethodData) StunBuffer.ioaNetworkBufferAllocate
      StunBuffer.ioaNetworkBufferAllocate.data ctx.tid = made at message soundInit
  obtain ⟨b, blen⟩ := made
  obtain ⟨offset, coffset, rfl⟩ : b.offset = 0 ∧ b.coffset = 0 ∧ stunHeaderLength = blen := by
    have parts := Prod.mk.inj initial
    rw [← parts.1, ← parts.2]
    exact ⟨rfl, rfl, rfl⟩
  rw [front] at message ⊢
  dsimp only at message soundInit ⊢
  rw [message.room, if_neg (not_le.mpr room)]
  obtain ⟨added, dataMessage, origins, soundData, offsetData, coffsetData⟩ :=
    stunAttrAddStr_extended message stunAttributeData a.nbh a.nbh.dataOrigin len room
  generalize stunAttrAddStr b 18 stunHeaderLength stunAttributeData a.nbh a.nbh.dataOrigin len = data at *
  obtain ⟨data, dataLen⟩ := data
  dsimp only at added
  subst added
  have extended := indicationTail_extended ctx dataMessage short a.srcAddr
  dsimp only at extended offsetData coffsetData soundData origins ⊢
  generalize stunAttrAddAddrStr ctx.mapping data 18 (grownLength stunHeaderLength len)
    stunAttributeXorPeerAddress a.srcAddr = addressed at extended ⊢
  obtain ⟨addressed, addressedLen⟩ := addressed
  dsimp only at extended ⊢
  generalize stunAttrAddBytes addressed 18 addressedLen stunAttributeSoftware ctx.software = named at extended ⊢
  obtain ⟨named, namedLen⟩ := named
  dsimp only at extended ⊢
  generalize (if ctx.fingerprint = true then stunAttrAddFingerprintStr ctx.nsCrc32 named 18 namedLen
    else (named, namedLen)) = framed at extended ⊢
  obtain ⟨frame, frameLen⟩ := framed
  have place : (frame.setSize frameLen).data = 18 := by
    show 4 + frame.offset - frame.coffset + 14 = 18
    rw [extended.offset, extended.coffset, offsetData, coffsetData, offset, coffset]
  refine ⟨by simp, (extended.sound (soundData soundInit prepared.sound)).write _ _, ?_⟩
  intro j inside
  have untouched := (writeHeader_same (frame.setSize frameLen) (peerHeader a.srcAddr) (18 + 24 + len)
    (18 + stunHeaderLength + 4 + j) (by omega) (by omega)).2
  have kept := (extended.same (18 + stunHeaderLength + 4 + j) (by omega) (by omega)).2
  exact (untouched.trans kept).trans (origins j inside)

/-- A buffer that starts `coffset` bytes earlier, if it is not too long. -/
theorem addOffsetSize_fits {b : StunBuffer} (offset : b.offset = 0) (coffset : b.coffset = 0) {earlier len : Nat}
    (room : earlier ≤ 4) (long : earlier ≤ len) (small : len < stunBufferSize) :
    b.addOffsetSize 0 earlier len = { b with len := len, offset := 0, coffset := earlier } := by
  have limit : stunBufferSize = 65507 := rfl
  have head : stunChannelHeaderLength = 4 := rfl
  have size : len % 2 ^ 64 = len := Nat.mod_eq_of_lt (by omega)
  have moved : (0 + earlier) % 2 ^ 8 = earlier := by omega
  unfold StunBuffer.addOffsetSize
  dsimp only
  rw [offset, coffset, head, size, moved, Nat.add_zero, Nat.zero_mod, Nat.zero_add, size,
    sizeSub_of_le long (by omega), if_neg (by omega)]

theorem channelFrame_carries (prepared : Prepared received a len) (chnum : UInt16) :
    (channelFrame ctx a chnum).2.2 = a.nbh.len + 4 ∧
      Carries received a (channelFrame ctx a chnum).1 (channelFrame ctx a chnum).2.1 len := by
  have limit : maxStunMessageSize = 65507 := rfl
  have space : stunBufferSize = 65507 := rfl
  have capacity : udpStunBufferSize = 16384 := rfl
  have covered := prepared.covered
  have small := prepared.small
  have copied : (a.nbh.getSizeOrigin + stunChannelHeaderLength) % 2 ^ 64 = a.nbh.len + 4 := by
    show (a.nbh.len + 4) % 2 ^ 64 = _
    omega
  have front : a.nbh.data = 18 := by
    unfold StunBuffer.data
    rw [prepared.dataOrigin]
    rfl
  generalize movedAt : a.nbh.move 18 4 (a.nbh.len + 4) = moved
  have movedOffset : moved.offset = 0 := by rw [← movedAt]; exact prepared.offset
  have movedCoffset : moved.coffset = 0 := by rw [← movedAt]; exact prepared.coffset
  have size : (moved.setSize (len + stunCustomHeaderLen)).getSizeOrigin + stunChannelHeaderLength = len + 18 := by
    show (len + 14) % 2 ^ 64 + 4 = _
    omega
  have shifted := addOffsetSize_fits (b := moved.setSize (len + stunCustomHeaderLen)) movedOffset movedCoffset
    (le_refl 4) (show 4 ≤ len + 18 by omega) (by omega)
  have head : stunChannelHeaderLength = 4 := rfl
  unfold channelFrame
  dsimp only
  rw [prepared.sizes.1, prepared.sizes.2, copied, front, prepared.dataOrigin, movedAt, size, head, shifted]
  unfold stunInitChannelMessageStr
  rw [if_neg (by omega)]
  refine ⟨rfl, ?_, ?_⟩
  · have soundMoved : moved.mem.Sound received := by
      rw [← movedAt]
      exact prepared.sound.copy prepared.sound _ _ _
    exact (soundMoved.write _ _).write _ _
  · intro j inside
    refine (Traced.write_origin_outside (Or.inr ?_)).trans ((Traced.write_origin_outside (Or.inr ?_)).trans ?_)
    · show 0 + 14 ≤ 14 + 4 + j
      omega
    · show 14 + 4 ≤ 14 + 4 + j
      omega
    · rw [← movedAt, prepared.dataOrigin]
      have data : (a.nbh.mem.copy 18 a.nbh.mem 4 (a.nbh.len + 4)).origin (18 + j) = a.nbh.mem.origin (4 + j) :=
        Traced.copy_origin_inside (by omega)
      exact data

end Server
end TurnCluster
