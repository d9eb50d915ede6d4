import TurnCluster.Relay.Reading
import TurnCluster.Server.PeerBytes
import TurnCluster.Server.SendTransparency

namespace TurnCluster
namespace Server

open StunCustomHeader

/-- A datagram `d` as a relay socket receives it, without a custom header. -/
structure PeerDatagram (input : NetData) (d : List UInt8) : Prop where
  offset : input.nbh.offset = 0
  coffset : input.nbh.coffset = 0
  length : input.nbh.len = d.length
  bytes : input.nbh.mem.byte.slice 4 d.length = d

/-- What the client socket sends of a frame. -/
def PeerFrame.sent (frame : PeerFrame) (client : IoaAddr) : List UInt8 :=
  (sendDataFromIoaSocketNbh client frame.nbh frame.ttl frame.tos).data

/-- ChannelData behind the header that names the peer. -/
def channelBytes (peer : IoaAddr) (chnum : UInt16) (d : List UInt8) : List UInt8 :=
  (peerHeader peer).bytes ++ bytes16 (nswap16 chnum) ++ bytes16 (nswap16 (UInt16.ofNat d.length)) ++ d

/-- A DATA indication that is well formed and carries `d` and the address of its peer. -/
structure DataIndication (message : Memory) (len : Nat) (peer : IoaAddr) (d : List UInt8) : Prop where
  announced : stunGetCommandMessageLenStr message len = some len
  cookie : net32 message 4 = stunMagicCookie
  indication : stunIsIndicationStr message len = true
  method : stunGetMethodStr message len = stunMethodData
  data : ∃ attr, stunAttrGetFirstByTypeStr message len stunAttributeData = some attr ∧
    message.slice (attr + 4) (stunAttrGetLen message attr) = d
  peerAddr : ∃ attr addr, stunAttrGetFirstByTypeStr message len stunAttributeXorPeerAddress = some attr ∧
    stunAttrGetAddrStr [] message attr none = some addr ∧ addrEq addr peer = true

/-- The bytes are a custom header that names the peer, and a DATA indication. -/
def IndicationBytes (peer : IoaAddr) (d bytes : List UInt8) : Prop :=
  ∃ message len, bytes = (peerHeader peer).bytes ++ Memory.slice message 0 len ∧ DataIndication message len peer d

theorem header_length (header : StunCustomHeader) : header.bytes.length = 14 := rfl

variable {a : Allocation} {b : StunBuffer} {ctx : PeerContext} {input : NetData} {peer : IoaAddr} {len : Nat}
  {chnum : UInt16} {d cfield d' : List UInt8} {tinfo : SlotRef}

theorem frame_sent (header : StunCustomHeader) {n : Nat} (length : b.len = n) (small : n ≤ 70000) (ttl : Int)
    (tos : Nat) (client : IoaAddr) :
    (sendDataFromIoaSocketNbh client (b.writeHeader header) ttl tos).data =
      header.bytes ++ (b.writeHeader header).mem.byte.slice (b.dataOrigin + 14) n := by
  have size : ((b.writeHeader header).len + 14) % 2 ^ 64 = 14 + n := by
    show (b.len + 14) % 2 ^ 64 = 14 + n
    omega
  rw [sendDataFromIoaSocketNbh_data size (by omega), view_slice, Memory.slice_append]
  congr 1
  exact StunBuffer.write_slice b b.dataOrigin header.bytes

/-- The datagram as the handler takes it over: it is not unwrapped. -/
def PeerDatagram.adjusted (input : NetData) (d : List UInt8) : Adjusted := ⟨input.nbh, input.srcAddr, 0, d.length, []⟩

theorem PeerDatagram.dataOrigin (datagram : PeerDatagram input d) : input.nbh.dataOrigin = 4 := by
  unfold StunBuffer.dataOrigin
  rw [datagram.offset, datagram.coffset]
  rfl

/-- Only a datagram that starts with the bytes 0x80 0x01 is taken for a relayed one. -/
theorem PeerDatagram.plain (datagram : PeerDatagram input d) (long : 2 ≤ d.length)
    (unmarked : d.take 2 ≠ [0x80, 0x01]) :
    (read (input.nbh.view input.nbh.dataOrigin)).identifier ≠ customDataIdentifier := by
  rw [datagram.dataOrigin]
  intro marked
  have word : (le16 (input.nbh.view 4) 0).toNat = 0x0180 := by
    have same : le16 (input.nbh.view 4) 0 = customDataIdentifier := marked
    rw [same]
    decide
  rw [le16_toNat] at word
  have first : (input.nbh.view 4) 0 = d.getD 0 0 := Memory.apply_of_slice datagram.bytes (by omega)
  have second : (input.nbh.view 4) (0 + 1) = d.getD 1 0 := Memory.apply_of_slice datagram.bytes (by omega)
  rw [first, second] at word
  have low := (d.getD 0 0).toNat_lt
  have high := (d.getD 1 0).toNat_lt
  have isFirst : d.getD 0 0 = 0x80 := UInt8.toNat_inj.mp (show (d.getD 0 0).toNat = 128 by omega)
  have isSecond : d.getD 1 0 = 0x01 := UInt8.toNat_inj.mp (show (d.getD 1 0).toNat = 1 by omega)
  apply unmarked
  match d, long with
  | a :: b :: rest, _ =>
    have one : a = 0x80 := isFirst
    have two : b = 0x01 := isSecond
    rw [one, two]
    rfl

theorem PeerDatagram.adjust (datagram : PeerDatagram input d) (long : 2 ≤ d.length)
    (unmarked : d.take 2 ≠ [0x80, 0x01]) : adjust input.nbh input.srcAddr d.length = PeerDatagram.adjusted input d := by
  unfold Server.adjust
  rw [if_neg (datagram.plain long unmarked)]
  rfl

theorem sizes_of_small (small : len ≤ 16380) : sizeOfInt len = len ∧ intOfSize len = len := by
  refine ⟨?_, intOfSize_of_small (by omega)⟩
  unfold sizeOfInt
  omega

theorem channelFrame_eq (datagram : PeerDatagram input d) (small : d.length ≤ 16380)
    (udp : ctx.clientSocketStream = false) (chnum : UInt16) :
    (channelFrame ctx (PeerDatagram.adjusted input d) chnum).1 =
      ((({ input.nbh.move 18 4 (d.length + 4) with len := d.length + 18, offset := 0, coffset := 4 } :
        StunBuffer).write 14 (bytes16 (nswap16 chnum) ++ bytes16 (nswap16 (UInt16.ofNat d.length)))).setSize
          (4 + d.length)).writeHeader (peerHeader input.srcAddr) := by
  obtain ⟨unsigned, signed⟩ := sizes_of_small small
  have limit : maxStunMessageSize = 65507 := rfl
  have space : stunBufferSize = 65507 := rfl
  have head : stunChannelHeaderLength = 4 := rfl
  have copied : (input.nbh.getSizeOrigin + stunChannelHeaderLength) % 2 ^ 64 = d.length + 4 := by
    show (input.nbh.len + 4) % 2 ^ 64 = d.length + 4
    rw [datagram.length]
    omega
  have front : input.nbh.data = 18 := by
    unfold StunBuffer.data
    rw [datagram.dataOrigin]
    rfl
  generalize movedAt : input.nbh.move 18 4 (d.length + 4) = moved
  have movedOffset : moved.offset = 0 := by rw [← movedAt]; exact datagram.offset
  have movedCoffset : moved.coffset = 0 := by rw [← movedAt]; exact datagram.coffset
  have size : (moved.setSize (d.length + stunCustomHeaderLen)).getSizeOrigin + stunChannelHeaderLength =
      d.length + 18 := by
    show (d.length + 14) % 2 ^ 64 + 4 = _
    omega
  have shifted := @addOffsetSize_fits (moved.setSize (d.length + stunCustomHeaderLen)) movedOffset movedCoffset 4
    (d.length + 18) (le_refl 4) (by omega) (by omega)
  have length : (d.length : Int).toNat % 2 ^ 16 = d.length := by omega
  unfold channelFrame PeerDatagram.adjusted
  dsimp only
  rw [unsigned, signed, copied, front, datagram.dataOrigin, movedAt, size, head, shifted, udp]
  unfold stunInitChannelMessageStr
  rw [if_neg (by omega)]
  dsimp only
  rw [length, Bool.false_and, if_neg (by simp), Int.toNat_natCast]
  rfl

theorem channelFrame_sent (datagram : PeerDatagram input d) (small : d.length ≤ 16380)
    (udp : ctx.clientSocketStream = false) (chnum : UInt16) (ttl : Int) (tos : Nat) (client : IoaAddr) :
    (sendDataFromIoaSocketNbh client (channelFrame ctx (PeerDatagram.adjusted input d) chnum).1 ttl tos).data =
      channelBytes input.srcAddr chnum d := by
  rw [channelFrame_eq datagram small udp]
  generalize movedAt : ({ input.nbh.move 18 4 (d.length + 4) with len := d.length + 18, offset := 0, coffset := 4 } :
    StunBuffer) = moved
  generalize header : bytes16 (nswap16 chnum) ++ bytes16 (nswap16 (UInt16.ofNat d.length)) = channelHeader
  have four : channelHeader.length = 4 := by rw [← header]; rfl
  have start : ((moved.write 14 channelHeader).setSize (4 + d.length)).dataOrigin = 0 := by
    rw [← movedAt]
    rfl
  have length : ((moved.write 14 channelHeader).setSize (4 + d.length)).len = 4 + d.length := by
    show (4 + d.length) % 2 ^ 64 = 4 + d.length
    omega
  have behind : SameBetween (moved.write 14 channelHeader)
      (((moved.write 14 channelHeader).setSize (4 + d.length)).writeHeader (peerHeader input.srcAddr)) 14
      (18 + d.length) := by
    unfold StunBuffer.writeHeader
    rw [start]
    exact StunBuffer.write_same (Or.inr (le_refl _))
  have kept : SameBetween moved (moved.write 14 channelHeader) 18 (18 + d.length) :=
    StunBuffer.write_same (Or.inr (by omega))
  have data : moved.mem.byte.slice 18 d.length = d := by
    have copied : moved.mem.byte.slice 18 d.length = input.nbh.mem.byte.slice 4 d.length := by
      rw [← movedAt]
      apply Memory.slice_congr
      intro i inside
      have within : i < d.length + 4 := by omega
      simp [StunBuffer.move, Traced.copy, within]
    rw [copied]
    exact datagram.bytes
  have headed : (moved.write 14 channelHeader).mem.byte.slice 14 4 = channelHeader := by
    have read := StunBuffer.write_slice moved 14 channelHeader
    rwa [four] at read
  rw [frame_sent (peerHeader input.srcAddr) length (by omega) ttl tos client, start, Memory.slice_append,
    behind.slice (le_refl _) (by omega), behind.slice (by omega) (by omega), headed,
    kept.slice (by omega) (by omega), data, ← header]
  unfold channelBytes
  simp only [List.append_assoc]

/-- What the indication branch has built when the address is in: both attributes, one behind the other. -/
structure Built (b : StunBuffer) (len : Nat) (peer : IoaAddr) (d cfield : List UInt8) : Prop where
  message : MessageAt b 18 len
  offset : b.offset = 0
  coffset : b.coffset = 0
  data : AttrAt b 18 20 stunAttributeData d
  peerAddr : AttrAt b 18 (24 + roundUp4 d.length) stunAttributeXorPeerAddress cfield
  room : 28 + roundUp4 d.length + roundUp4 cfield.length ≤ len
  encoded : stunAddrEncode peer true (stunTidFromMessageStr (b.view 18)) = some cfield
  attrType : net16 (b.view 18) 0 = stunMakeIndication stunMethodData &&& 0x3FFF
  cookie : net32 (b.view 18) 4 = stunMagicCookie

theorem Built.extend {b' : StunBuffer} {len' kept : Nat} (built : Built b len peer d cfield)
    (extended : Extended b 18 kept b' len') (covers : 28 + roundUp4 d.length + roundUp4 cfield.length ≤ kept)
    (typed : SameBetween b b' 18 (18 + 2)) : Built b' len' peer d cfield := by
  have roundedData := le_roundUp4 d.length
  have roundedField := le_roundUp4 cfield.length
  have grown := extended.grown
  constructor
  · exact extended.message
  · rw [extended.offset, built.offset]
  · rw [extended.coffset, built.coffset]
  · exact built.data.of_same extended.same (by omega) (by omega)
  · exact built.peerAddr.of_same extended.same (by omega) (by omega)
  · omega
  · rw [extended.same.tid (by omega)]
    exact built.encoded
  · rw [typed.net16 (le_refl _) (le_refl _)]
    exact built.attrType
  · rw [extended.same.cookie (by omega)]
    exact built.cookie

theorem Built.indication (built : Built b len peer d cfield) (known : peer.family ≠ .unspec)
    (six : peer.ip6.length = 16) : DataIndication (b.view 18) len peer d := by
  have long : 20 ≤ len := built.message.1
  have announced := built.message.commandMessageLen
  have headed : stunHeaderLength = 20 := rfl
  have room := built.room
  have place : stunHeaderLength + 4 + roundUp4 (stunAttrGetLen (b.view 18) stunHeaderLength) =
      24 + roundUp4 d.length := by
    rw [headed, built.data.length]
  have fits : 24 + roundUp4 d.length + 4 + roundUp4 (stunAttrGetLen (b.view 18) (24 + roundUp4 d.length)) ≤ len := by
    rw [built.peerAddr.length]
    omega
  obtain ⟨rest, attrs⟩ := stunAttrs_first_two announced place fits
  have firstData : stunAttrGetFirstByTypeStr (b.view 18) len stunAttributeData = some 20 := by
    unfold stunAttrGetFirstByTypeStr
    rw [attrs, headed, List.find?_cons_of_pos (by simp [built.data.attrType])]
  have firstPeer : stunAttrGetFirstByTypeStr (b.view 18) len stunAttributeXorPeerAddress =
      some (24 + roundUp4 d.length) := by
    have differ : (stunAttrGetType (b.view 18) 20 == stunAttributeXorPeerAddress) = false := by
      rw [built.data.attrType]
      decide
    unfold stunAttrGetFirstByTypeStr
    rw [attrs, headed, List.find?_cons_of_neg (by simp [differ]),
      List.find?_cons_of_pos (by simp [built.peerAddr.attrType])]
  have invalid : stunValidChannel (stunMakeIndication stunMethodData &&& 0x3FFF) = false := by decide
  have notChannel : isChannelMsgStr (b.view 18) len = false := by
    unfold isChannelMsgStr
    rw [built.attrType, invalid, Bool.and_false]
  have typed : stunGetMsgTypeStr (b.view 18) len = stunMakeIndication stunMethodData &&& 0x3FFF := by
    unfold stunGetMsgTypeStr
    rw [if_neg (by omega), built.attrType]
    decide
  constructor
  · exact announced
  · exact built.cookie
  · unfold stunIsIndicationStr stunIsClassStr
    rw [notChannel, typed]
    decide
  · unfold stunGetMethodStr
    rw [if_neg (by omega), built.attrType]
    decide
  · refine ⟨20, firstData, ?_⟩
    rw [built.data.length, view_slice]
    exact built.data.value
  · obtain ⟨addr, decoded, same⟩ := built.peerAddr.addr (by decide) built.encoded known six
    exact ⟨24 + roundUp4 d.length, addr, firstPeer, decoded, same⟩

theorem stunInitCommandStr_reads (messageType : UInt16) (b : StunBuffer) (pos : Nat) (tid : List UInt8) :
    net16 ((stunInitCommandStr messageType b pos tid).1.view pos) 0 = messageType &&& 0x3FFF ∧
      net32 ((stunInitCommandStr messageType b pos tid).1.view pos) 4 = stunMagicCookie := by
  unfold stunInitCommandStr
  generalize header : bytes16 (nswap16 (messageType &&& 0x3FFF)) ++ [0, 0] ++ bytes32 (nswap32 stunMagicCookie) ++
    tid = bytes
  have long : 8 ≤ bytes.length := by
    rw [← header]
    simp [bytes16, bytes32]
  have byte (i : Nat) (inside : i < 8) : (b.write pos bytes).mem.byte (pos + i) = bytes.getD i 0 :=
    StunBuffer.write_byte (by omega)
  constructor
  · apply net16_of_bytes
    · refine (byte 0 (by omega)).trans ?_
      rw [← header]
      rfl
    · refine (byte 1 (by omega)).trans ?_
      rw [← header]
      rfl
  · have word : le32 ((b.write pos bytes).view pos) 4 = nswap32 stunMagicCookie := by
      apply le32_of_bytes
      · refine (byte 4 (by omega)).trans ?_
        rw [← header]
        rfl
      · refine (byte 5 (by omega)).trans ?_
        rw [← header]
        rfl
      · refine (byte 6 (by omega)).trans ?_
        rw [← header]
        rfl
      · refine (byte 7 (by omega)).trans ?_
        rw [← header]
        rfl
    unfold net32
    dsimp only
    rw [word, nswap32_nswap32]

/-- The indication up to the peer address. -/
def builtIndication (input : NetData) (d tid : List UInt8) : StunBuffer × Nat :=
  let made := stunInitCommandStr (stunMakeIndication stunMethodData) StunBuffer.ioaNetworkBufferAllocate 18 tid
  let data := stunAttrAddStr made.1 18 made.2 stunAttributeData input.nbh 4 d.length
  stunAttrAddAddrStr [] data.1 18 data.2 stunAttributeXorPeerAddress input.srcAddr

theorem builtIndication_built (datagram : PeerDatagram input d) (small : d.length ≤ 16380) (tid : List UInt8) :
    ∃ cfield, cfield.length ≤ 20 ∧
      Built (builtIndication input d tid).1 (builtIndication input d tid).2 input.srcAddr d cfield := by
  have limit : maxStunMessageSize = 65507 := rfl
  have headed : stunHeaderLength = 20 := rfl
  have xored : stunXorEd stunAttributeXorPeerAddress = true := by decide
  obtain ⟨lower, upper, aligned⟩ := roundUp4_spec d.length
  have message := stunInitCommandStr_message (stunMakeIndication stunMethodData) StunBuffer.ioaNetworkBufferAllocate 18 tid
  obtain ⟨typed, cookie⟩ := stunInitCommandStr_reads (stunMakeIndication stunMethodData)
    StunBuffer.ioaNetworkBufferAllocate 18 tid
  have offset : (stunInitCommandStr (stunMakeIndication stunMethodData) StunBuffer.ioaNetworkBufferAllocate 18
      tid).1.offset = 0 := rfl
  have coffset : (stunInitCommandStr (stunMakeIndication stunMethodData) StunBuffer.ioaNetworkBufferAllocate 18
      tid).1.coffset = 0 := rfl
  unfold builtIndication
  dsimp only
  have size : (stunInitCommandStr (stunMakeIndication stunMethodData) StunBuffer.ioaNetworkBufferAllocate 18
      tid).2 = 20 := rfl
  rw [size]
  rw [headed] at message
  generalize (stunInitCommandStr (stunMakeIndication stunMethodData) StunBuffer.ioaNetworkBufferAllocate 18 tid).1 =
    made at *
  -- The DATA attribute.
  have dataLength : grownLength 20 d.length = 24 + roundUp4 d.length := roundUp4_add 24 d.length (by omega)
  have dataRoom : grownLength 20 d.length < maxStunMessageSize := by omega
  obtain ⟨dataSize, dataMessage, _, _, dataOffset, dataCoffset⟩ :=
    stunAttrAddStr_extended message stunAttributeData input.nbh 4 d.length dataRoom
  have dataAt := stunAttrAddStr_attrAt message stunAttributeData input.nbh 4 datagram.bytes dataRoom
  have dataTyped := @stunAttrAddStr_same made 18 20 d.length message stunAttributeData input.nbh 4 dataRoom 18 20
    (Or.inl (by omega)) (by omega)
  have dataKept := @stunAttrAddStr_same made 18 20 d.length message stunAttributeData input.nbh 4 dataRoom 22 38
    (Or.inr (by omega)) (by omega)
  rw [dataSize]
  rw [dataLength] at dataMessage ⊢
  generalize (stunAttrAddStr made 18 20 stunAttributeData input.nbh 4 d.length).1 = data at *
  -- The XOR-PEER-ADDRESS attribute.
  obtain ⟨cfield, encoded, _, short, added⟩ :=
    stunAttrAddAddrStr_xored xored [] data 18 (24 + roundUp4 d.length) input.srcAddr
  obtain ⟨_, fieldUpper, _⟩ := roundUp4_spec cfield.length
  have fieldLength : grownLength (24 + roundUp4 d.length) cfield.length =
      28 + roundUp4 d.length + roundUp4 cfield.length := by
    unfold grownLength
    rw [roundUp4_add (24 + roundUp4 d.length + 4) cfield.length (by omega)]
    omega
  have fieldRoom : grownLength (24 + roundUp4 d.length) cfield.length < maxStunMessageSize := by omega
  have extended := stunAttrAddBytes_extended dataMessage stunAttributeXorPeerAddress cfield
  have fieldAt := stunAttrAddBytes_attrAt dataMessage stunAttributeXorPeerAddress fieldRoom
  have fieldTyped := stunAttrAddBytes_same_type dataMessage stunAttributeXorPeerAddress cfield
  have fieldSize := stunAttrAddBytes_length dataMessage stunAttributeXorPeerAddress cfield fieldRoom
  rw [added]
  refine ⟨cfield, short, extended.message, ?_, ?_, ?_, fieldAt, ?_, ?_, ?_, ?_⟩
  · rw [extended.offset, dataOffset, offset]
  · rw [extended.coffset, dataCoffset, coffset]
  · exact dataAt.of_same extended.same (by omega) (by omega)
  · rw [fieldSize, fieldLength]
  · rw [extended.same.tid (by omega)]
    exact encoded
  · rw [fieldTyped.net16 (le_refl _) (by omega), dataTyped.net16 (le_refl _) (by omega)]
    exact typed
  · rw [extended.same.cookie (by omega), dataKept.cookie (by omega)]
    exact cookie

/-- The indication with the name of the software and, if configured, the checksum. -/
def finishedIndication (ctx : PeerContext) (input : NetData) (d : List UInt8) : StunBuffer × Nat :=
  let built := builtIndication input d ctx.tid
  let named := stunAttrAddBytes built.1 18 built.2 stunAttributeSoftware ctx.software
  if ctx.fingerprint then stunAttrAddFingerprintStr ctx.nsCrc32 named.1 18 named.2 else named

theorem indicationFrame_eq (datagram : PeerDatagram input d) (small : d.length ≤ 16380) (unmapped : ctx.mapping = []) :
    (indicationFrame ctx (PeerDatagram.adjusted input d)).1 =
      ((finishedIndication ctx input d).1.setSize (finishedIndication ctx input d).2).writeHeader
        (peerHeader input.srcAddr) := by
  obtain ⟨unsigned, signed⟩ := sizes_of_small small
  unfold indicationFrame PeerDatagram.adjusted finishedIndication builtIndication
  dsimp only
  rw [unsigned, signed, datagram.dataOrigin, unmapped]
  rfl

theorem finishedIndication_built {ctx : PeerContext} {input : NetData} {d : List UInt8}
    (datagram : PeerDatagram input d) (small : d.length ≤ 16380) :
    ∃ cfield, Built (finishedIndication ctx input d).1 (finishedIndication ctx input d).2 input.srcAddr d cfield := by
  have limit : maxStunMessageSize = 65507 := rfl
  obtain ⟨cfield, short, built⟩ := builtIndication_built datagram small ctx.tid
  obtain ⟨_, dataUpper, _⟩ := roundUp4_spec d.length
  obtain ⟨_, fieldUpper, _⟩ := roundUp4_spec cfield.length
  refine ⟨cfield, ?_⟩
  unfold finishedIndication
  dsimp only
  generalize builtIndication input d ctx.tid = start at *
  have software := stunAttrAddBytes_extended built.message stunAttributeSoftware ctx.software
  have named := built.extend software built.room
    (stunAttrAddBytes_same_type built.message stunAttributeSoftware ctx.software)
  generalize stunAttrAddBytes start.1 18 start.2 stunAttributeSoftware ctx.software = namedAt at *
  have typed := stunAttrAddFingerprintStr_same_type ctx.nsCrc32 named.message
  cases ctx.fingerprint with
  | false => exact named
  | true =>
    show Built (stunAttrAddFingerprintStr ctx.nsCrc32 namedAt.1 18 namedAt.2).1
      (stunAttrAddFingerprintStr ctx.nsCrc32 namedAt.1 18 namedAt.2).2 input.srcAddr d cfield
    -- Without room the checksum lands on the last bytes, which are far behind the two attributes.
    by_cases room : grownLength namedAt.2 4 < maxStunMessageSize
    · exact named.extend (stunAttrAddFingerprintStr_room ctx.nsCrc32 named.message room) named.room typed
    · have full := grownLength_le namedAt.2 4
      have behind : 28 + roundUp4 d.length + roundUp4 cfield.length + 4 ≤ namedAt.2 := by omega
      exact named.extend (stunAttrAddFingerprintStr_extended ctx.nsCrc32 named.message behind (by omega)) (le_refl _)
        typed

theorem writeHeader_view (offset : b.offset = 0) (coffset : b.coffset = 0) (header : StunCustomHeader) :
    (b.writeHeader header).view 18 = b.view 18 := by
  have start : b.dataOrigin = 4 := by
    unfold StunBuffer.dataOrigin
    rw [offset, coffset]
    rfl
  funext i
  unfold StunBuffer.writeHeader
  rw [start]
  exact (@StunBuffer.write_same b 4 18 (18 + i + 1) header.bytes (Or.inr (le_refl _)) (18 + i) (by omega) (by omega)).1

theorem indicationFrame_sent (datagram : PeerDatagram input d) (small : d.length ≤ 16380)
    (unmapped : ctx.mapping = []) (known : input.srcAddr.family ≠ .unspec) (six : input.srcAddr.ip6.length = 16)
    (ttl : Int) (tos : Nat) (client : IoaAddr) :
    IndicationBytes input.srcAddr d
      (sendDataFromIoaSocketNbh client (indicationFrame ctx (PeerDatagram.adjusted input d)).1 ttl tos).data := by
  obtain ⟨cfield, built⟩ := @finishedIndication_built ctx input d datagram small
  rw [indicationFrame_eq datagram small unmapped]
  generalize finishedIndication ctx input d = finished at *
  have bound : finished.2 < 65556 := by
    have word := (net16 (finished.1.view 18) 2).toNat_lt
    have announced : (net16 (finished.1.view 18) 2).toNat + 20 = finished.2 := built.message.2
    omega
  have length : (finished.1.setSize finished.2).len = finished.2 := by
    show finished.2 % 2 ^ 64 = finished.2
    omega
  have start : (finished.1.setSize finished.2).dataOrigin + 14 = 18 := by
    show 4 + finished.1.offset - finished.1.coffset + 14 = 18
    rw [built.offset, built.coffset]
  have same : ((finished.1.setSize finished.2).writeHeader (peerHeader input.srcAddr)).view 18 = finished.1.view 18 :=
    writeHeader_view built.offset built.coffset _
  refine ⟨finished.1.view 18, finished.2, ?_, built.indication known six⟩
  rw [frame_sent (peerHeader input.srcAddr) length (by omega), start, ← same, view_slice]

/-- The channel that a peer address is bound to. -/
def ChannelOf (a : Allocation) (peer : IoaAddr) (chnum : UInt16) : Prop :=
  ∃ tinfo ref chn, allocationGetPermission a peer = some tinfo ∧ getTurnChannel a tinfo peer = some ref ∧
    a.chns.get ref = some chn ∧ chn.chnum = chnum

/-- The session, its sockets and its allocation are in use, and the client is reached over UDP. -/
structure PeerReady (ctx : PeerContext) (input : NetData) : Prop where
  ttl : input.recvTtl ≠ 0
  relaySocket : ctx.relaySocketToBeClosed = false
  session : ctx.sessionToBeClosed = false
  client : ctx.clientSocketOpen = true
  relaySession : ctx.relaySessionOpen = true
  valid : ctx.allocation.isValid = true
  udp : ctx.clientSocketStream = false

theorem getTurnChannel_live {ref : SlotRef} (found : getTurnChannel a tinfo peer = some ref) :
    ∃ chn, a.chns.get ref = some chn ∧ stunValidChannel chn.chnum = true := by
  unfold getTurnChannel at found
  split at found
  · cases found
  · split at found
    · cases found
    · split at found
      · cases found
      · rename_i chn live
        split at found
        · rename_i valid
          cases Option.some.inj found
          exact ⟨chn, live, valid⟩
        · cases found

theorem getTurnChannelNumber_of_live {ref : SlotRef} {chn : ChInfo} (found : getTurnChannel a tinfo peer = some ref)
    (live : a.chns.get ref = some chn) : getTurnChannelNumber a tinfo peer = chn.chnum := by
  unfold getTurnChannelNumber
  rw [found]
  dsimp only
  rw [live]

theorem ne_zero_of_valid (valid : stunValidChannel chnum = true) : chnum ≠ 0 := by
  intro zero
  rw [zero] at valid
  revert valid
  decide

theorem getTurnChannelNumber_eq_zero (permitted : allocationGetPermission a peer = some tinfo)
    (unbound : ∀ chnum, ¬ ChannelOf a peer chnum) : getTurnChannelNumber a tinfo peer = 0 := by
  cases found : getTurnChannel a tinfo peer with
  | none =>
    unfold getTurnChannelNumber
    rw [found]
  | some ref =>
    obtain ⟨chn, live, _⟩ := getTurnChannel_live found
    exact absurd ⟨tinfo, ref, chn, permitted, found, live, rfl⟩ (unbound chn.chnum)

theorem family_of_permission (permitted : allocationGetPermission a peer = some tinfo) : peer.family ≠ .unspec := by
  obtain ⟨_, info, _, _, same⟩ := hasPermission_of_found permitted
  obtain ⟨known, family, _⟩ := addrEqNoPort_iff.mp same
  rw [← family]
  exact known

/-- A datagram becomes a frame for the client, by the number of the channel of
the permitted address it is taken to come from. -/
theorem peerInputHandler_adjusted {ctx : PeerContext} {input : NetData} {a : Adjusted} {len : Nat} {tinfo : SlotRef}
    (ready : PeerReady ctx input) (size : input.nbh.len = len) (small : len ≤ 16380)
    (adjusted : adjust input.nbh input.srcAddr len = a)
    (permitted : allocationGetPermission ctx.allocation a.srcAddr = some tinfo) :
    peerInputHandler ctx input = peerFrame ctx input a (getTurnChannelNumber ctx.allocation tinfo a.srcAddr) := by
  have ilen : min (intOfSize input.nbh.getSizeOrigin) ((udpStunBufferSize - stunChannelHeaderLength : Nat) : Int) =
      len := by
    have origin : input.nbh.getSizeOrigin = len := size
    have capacity : udpStunBufferSize - stunChannelHeaderLength = 16380 := rfl
    rw [origin, (sizes_of_small small).2, capacity]
    omega
  unfold peerInputHandler
  rw [if_neg (by simp [ready.ttl, ready.relaySocket, ready.session, ready.client, ready.relaySession])]
  dsimp only
  rw [ilen, if_neg (by simp [ready.valid]), adjusted, permitted]

/-- What the handler has taken over from a permitted address reaches the client
by the number of its channel, or without one in an indication. -/
theorem peerFrame_sent {ctx : PeerContext} {input : NetData} {a : Adjusted} {d : List UInt8} {tinfo : SlotRef}
    (datagram : PeerDatagram { input with nbh := a.nbh, srcAddr := a.srcAddr } d) (length : a.ilen = d.length)
    (small : d.length ≤ 16380) (udp : ctx.clientSocketStream = false) (unmapped : ctx.mapping = [])
    (permitted : allocationGetPermission ctx.allocation a.srcAddr = some tinfo) (six : a.srcAddr.ip6.length = 16)
    (client : IoaAddr) :
    ∃ frame, (peerFrame ctx input a (getTurnChannelNumber ctx.allocation tinfo a.srcAddr)).frame = some frame ∧
      (∀ chnum, ChannelOf ctx.allocation a.srcAddr chnum → frame.sent client = channelBytes a.srcAddr chnum d) ∧
      ((∀ chnum, ¬ ChannelOf ctx.allocation a.srcAddr chnum) → IndicationBytes a.srcAddr d (frame.sent client)) := by
  have asChannel (chnum : UInt16) : channelFrame ctx a chnum =
      channelFrame ctx (PeerDatagram.adjusted { input with nbh := a.nbh, srcAddr := a.srcAddr } d) chnum := by
    unfold channelFrame PeerDatagram.adjusted
    rw [length]
  have asIndication : indicationFrame ctx a =
      indicationFrame ctx (PeerDatagram.adjusted { input with nbh := a.nbh, srcAddr := a.srcAddr } d) := by
    unfold indicationFrame PeerDatagram.adjusted
    rw [length]
  unfold peerFrame
  by_cases bound : getTurnChannelNumber ctx.allocation tinfo a.srcAddr = 0
  · rw [if_neg (not_not.mpr bound), asIndication]
    refine ⟨_, rfl, ?_, ?_⟩
    · rintro chnum ⟨other, ref, chn, same, channel, live, _⟩
      cases Option.some.inj (permitted.symm.trans same)
      obtain ⟨_, again, valid⟩ := getTurnChannel_live channel
      cases Option.some.inj (live.symm.trans again)
      rw [getTurnChannelNumber_of_live channel live] at bound
      exact absurd bound (ne_zero_of_valid valid)
    · intro _
      exact indicationFrame_sent datagram small unmapped (family_of_permission permitted) six _ _ client
  · rw [if_pos bound, asChannel]
    refine ⟨_, rfl, ?_, ?_⟩
    · rintro chnum ⟨other, ref, chn, same, channel, live, number⟩
      cases Option.some.inj (permitted.symm.trans same)
      rw [← number, ← getTurnChannelNumber_of_live channel live]
      exact channelFrame_sent datagram small udp _ _ _ client
    · intro unbound
      exact absurd (getTurnChannelNumber_eq_zero permitted unbound) bound

/-- A datagram from a permitted address reaches the client unchanged: as
ChannelData if the address has a channel, else in a DATA indication that names it. -/
theorem peer_data_transparent {ctx : PeerContext} {input : NetData} {d : List UInt8}
    (ready : PeerReady ctx input) (datagram : PeerDatagram input d) (long : 2 ≤ d.length)
    (small : d.length ≤ 16380) (unmarked : d.take 2 ≠ [0x80, 0x01]) (unmapped : ctx.mapping = [])
    (permitted : (allocationGetPermission ctx.allocation input.srcAddr).isSome = true)
    (six : input.srcAddr.ip6.length = 16) (client : IoaAddr) :
    ∃ frame, (peerInputHandler ctx input).frame = some frame ∧
      (∀ chnum, ChannelOf ctx.allocation input.srcAddr chnum →
        frame.sent client = channelBytes input.srcAddr chnum d) ∧
      ((∀ chnum, ¬ ChannelOf ctx.allocation input.srcAddr chnum) →
        IndicationBytes input.srcAddr d (frame.sent client)) := by
  obtain ⟨tinfo, found⟩ := Option.isSome_iff_exists.mp permitted
  rw [@peerInputHandler_adjusted ctx input (PeerDatagram.adjusted input d) d.length tinfo ready datagram.length small
    (datagram.adjust long unmarked) found]
  exact @peerFrame_sent ctx input (PeerDatagram.adjusted input d) d tinfo datagram rfl small ready.udp unmapped found
    six client

theorem ChannelOf.unique {first second : UInt16} (one : ChannelOf a peer first) (two : ChannelOf a peer second) :
    first = second := by
  obtain ⟨_, _, _, permitted, channel, live, rfl⟩ := one
  obtain ⟨_, _, _, permitted', channel', live', rfl⟩ := two
  cases Option.some.inj (permitted.symm.trans permitted')
  cases Option.some.inj (channel.symm.trans channel')
  cases Option.some.inj (live.symm.trans live')
  rfl

theorem ChannelOf.valid (bound : ChannelOf a peer chnum) : stunValidChannel chnum = true := by
  obtain ⟨_, _, _, _, channel, live, rfl⟩ := bound
  obtain ⟨_, again, valid⟩ := getTurnChannel_live channel
  cases Option.some.inj (live.symm.trans again)
  exact valid

theorem channelBytes_injective (same : channelBytes peer chnum d = channelBytes peer chnum d') : d = d' := by
  unfold channelBytes at same
  exact List.append_inj_right same (by simp [bytes16])

theorem IndicationBytes.unique {bytes : List UInt8} (one : IndicationBytes peer d bytes)
    (two : IndicationBytes peer d' bytes) : d = d' := by
  obtain ⟨message, len, bytes₁, first⟩ := one
  obtain ⟨message', len', bytes₂, second⟩ := two
  have slices := List.append_cancel_left (bytes₁.symm.trans bytes₂)
  have length : len = len' := by
    have lengths := congrArg List.length slices
    rwa [Memory.length_slice, Memory.length_slice] at lengths
  subst length
  have same (i : Nat) (inside : i < len) : message' i = message i := by
    have byte := Memory.apply_of_slice_eq slices.symm inside
    rwa [Nat.zero_add] at byte
  obtain ⟨attr, found, value⟩ := first.data
  obtain ⟨attr', found', value'⟩ := second.data
  rw [stunAttrGetFirstByTypeStr_congr same (le_refl _) first.announced, found] at found'
  cases Option.some.inj found'
  obtain ⟨_, within⟩ := stunAttrGetFirstByTypeStr_bounds found
  rw [stunAttrGetLen_congr same (by omega)] at value'
  rw [← value, ← value']
  apply Memory.slice_congr
  intro i inside
  exact (same _ (by omega)).symm

theorem IndicationBytes.not_channel {w : List UInt8} (valid : stunValidChannel chnum = true) :
    ¬ IndicationBytes peer d (channelBytes peer chnum w) := by
  rintro ⟨message, len, bytes, indication⟩
  unfold channelBytes at bytes
  rw [List.append_assoc, List.append_assoc] at bytes
  have slice := (List.append_cancel_left bytes).symm
  have length := congrArg List.length slice
  rw [Memory.length_slice] at length
  have long : 4 ≤ len := by
    simp [bytes16] at length
    omega
  have word : net16 message 0 = chnum := by
    apply net16_of_bytes
    · exact @Memory.apply_of_slice message 0 len _ slice 0 (by omega)
    · exact @Memory.apply_of_slice message 0 len _ slice 1 (by omega)
  have channel : isChannelMsgStr message len = true := by
    simp [isChannelMsgStr, word, valid, long]
  have notChannel := not_isChannelMsgStr_of_class indication.indication
  exact absurd (channel.symm.trans notChannel) (by decide)

/-- Four bytes from port 4000 of the permitted peer. -/
def peerArrives : NetData := ⟨.received (.ofList [1, 2, 3, 4]) 4, .inet 0x0900000A (nswap16 4000), 64, 0⟩

theorem peer_data_transparent_unbound :
    ∃ frame, (peerInputHandler exampleContext peerArrives).frame = some frame ∧
      (∀ chnum, ChannelOf onePermission peerArrives.srcAddr chnum →
        frame.sent .any = channelBytes peerArrives.srcAddr chnum [1, 2, 3, 4]) ∧
      ((∀ chnum, ¬ ChannelOf onePermission peerArrives.srcAddr chnum) →
        IndicationBytes peerArrives.srcAddr [1, 2, 3, 4] (frame.sent .any)) :=
  peer_data_transparent ⟨by decide, rfl, rfl, rfl, rfl, rfl, rfl⟩ ⟨rfl, rfl, rfl, by decide⟩ (by decide) (by decide)
    (by decide) rfl (by decide) (by decide) .any

end Server
end TurnCluster
