import TurnCluster.Relay.Reading
import TurnCluster.Server.Send

namespace TurnCluster
namespace Server

open StunCustomHeader

/-- A buffer as the listener fills it: a datagram with its custom header. -/
structure Received (nbh : StunBuffer) : Prop where
  offset : nbh.offset = 0
  coffset : nbh.coffset = 0
  headed : stunCustomHeaderLen ≤ nbh.len
  small : nbh.len ≤ stunBufferSize

/-- Attributes that `handle_turn_send` reads or may pass over. -/
def SendAttribute (ctx : SendContext) (buf : Memory) (attr : AttrRef) : Prop :=
  isSkipped (stunAttrGetType buf attr) = true ∨ stunAttrGetType buf attr = stunAttributeXorPeerAddress ∨
    stunAttrGetType buf attr = stunAttributeData ∨ 0x7FFF < stunAttrGetType buf attr ∨
    (stunAttrGetType buf attr = stunAttributeDontFragment ∧ ctx.dontFragment = true)

instance (ctx : SendContext) (buf : Memory) (attr : AttrRef) : Decidable (SendAttribute ctx buf attr) :=
  inferInstanceAs (Decidable (_ ∨ _ ∨ _ ∨ _ ∨ (_ ∧ _)))

def refsOfType (buf : Memory) (attrType : UInt16) (refs : List AttrRef) : List AttrRef :=
  refs.filter (fun attr => stunAttrGetType buf attr == attrType)

/-- A Send indication with one peer address and one DATA attribute. -/
structure SendMessage (ctx : SendContext) (buf : Memory) (n : Nat) (peer : IoaAddr) (d : List UInt8) : Prop where
  peer : ∃ attr, refsOfType buf stunAttributeXorPeerAddress (stunAttrs buf n) = [attr] ∧
    stunAttrGetAddrStr ctx.mapping buf attr none = some peer
  data : ∃ attr, refsOfType buf stunAttributeData (stunAttrs buf n) = [attr] ∧
    buf.slice (attr + 4) (stunAttrGetLen buf attr) = d
  readable : ∀ attr ∈ stunAttrs buf n, SendAttribute ctx buf attr

/-- The data that the first of some references points to. -/
def dataOf (buf : Memory) : List AttrRef → Int × Option Nat
  | [] => (-1, none)
  | attr :: _ => (stunAttrGetLen buf attr, stunAttrGetValue buf attr)

/-- What the loop has found so far, when nothing was wrong. -/
structure Collected (ctx : SendContext) (buf : Memory) (refs : List AttrRef) (s : SendScan) : Prop where
  scan : s.scan = .empty
  addrFound : s.addrFound = false
  peerAddr : s.peerAddr = match (refsOfType buf stunAttributeXorPeerAddress refs).getLast? with
    | none => .any
    | some attr => (stunAttrGetAddrStr ctx.mapping buf attr none).getD .any
  data : (s.len, s.value) = dataOf buf (refsOfType buf stunAttributeData refs)

variable {ctx : SendContext} {buf : Memory} {refs : List AttrRef} {s : SendScan} {attrType : UInt16} {nbh : StunBuffer}
  {attr : AttrRef} {d : List UInt8}

theorem refsOfType_append_same (same : stunAttrGetType buf attr = attrType) (refs : List AttrRef) :
    refsOfType buf attrType (refs ++ [attr]) = refsOfType buf attrType refs ++ [attr] := by
  simp [refsOfType, same]

theorem refsOfType_append_other (other : stunAttrGetType buf attr ≠ attrType) (refs : List AttrRef) :
    refsOfType buf attrType (refs ++ [attr]) = refsOfType buf attrType refs := by
  simp [refsOfType, other]

theorem Collected.start (ctx : SendContext) (buf : Memory) : Collected ctx buf [] .start :=
  ⟨rfl, rfl, rfl, rfl⟩

theorem Collected.pass {s' : SendScan} (collected : Collected ctx buf refs s)
    (notPeer : stunAttrGetType buf attr ≠ stunAttributeXorPeerAddress)
    (notData : stunAttrGetType buf attr ≠ stunAttributeData) (scan : s'.scan = .empty)
    (addrFound : s'.addrFound = s.addrFound) (peerAddr : s'.peerAddr = s.peerAddr) (len : s'.len = s.len)
    (value : s'.value = s.value) : Collected ctx buf (refs ++ [attr]) s' where
  scan := scan
  addrFound := addrFound.trans collected.addrFound
  peerAddr := by
    rw [refsOfType_append_other notPeer, peerAddr]
    exact collected.peerAddr
  data := by
    rw [refsOfType_append_other notData, len, value]
    exact collected.data

theorem Collected.peer (collected : Collected ctx buf refs s)
    (isPeer : stunAttrGetType buf attr = stunAttributeXorPeerAddress) :
    Collected ctx buf (refs ++ [attr]) (s.onPeerAddress ctx buf attr) := by
  have notData : stunAttrGetType buf attr ≠ stunAttributeData := by
    rw [isPeer]
    decide
  unfold SendScan.onPeerAddress
  rw [if_neg (by simp [collected.addrFound])]
  constructor
  · exact collected.scan
  · exact collected.addrFound
  · rw [refsOfType_append_same isPeer, List.getLast?_concat]
  · rw [refsOfType_append_other notData]
    exact collected.data

theorem Collected.addData (collected : Collected ctx buf refs s)
    (isData : stunAttrGetType buf attr = stunAttributeData) (first : refsOfType buf stunAttributeData refs = []) :
    Collected ctx buf (refs ++ [attr]) (s.onData buf attr) := by
  have notPeer : stunAttrGetType buf attr ≠ stunAttributeXorPeerAddress := by
    rw [isData]
    decide
  have nothing := collected.data
  rw [first] at nothing
  have len : s.len = -1 := (Prod.mk.inj nothing).1
  unfold SendScan.onData
  rw [if_neg (by rw [len]; decide)]
  constructor
  · exact collected.scan
  · exact collected.addrFound
  · rw [refsOfType_append_other notPeer]
    exact collected.peerAddr
  · rw [refsOfType_append_same isData, first]
    rfl

/-- One turn of the loop, unless it meets a second DATA attribute. -/
theorem Collected.step (collected : Collected ctx buf refs s) (readable : SendAttribute ctx buf attr)
    (single : stunAttrGetType buf attr = stunAttributeData → refsOfType buf stunAttributeData refs = []) :
    Collected ctx buf (refs ++ [attr]) (s.step ctx buf attr) := by
  have running : s.running = true := by
    unfold SendScan.running
    rw [collected.scan]
    rfl
  unfold SendScan.step
  rw [if_pos running]
  unfold SendScan.body
  dsimp only
  by_cases skipped : isSkipped (stunAttrGetType buf attr) = true
  · rw [if_pos skipped]
    have notPeer : stunAttrGetType buf attr ≠ stunAttributeXorPeerAddress := by
      intro same
      rw [same] at skipped
      revert skipped
      decide
    have notData : stunAttrGetType buf attr ≠ stunAttributeData := by
      intro same
      rw [same] at skipped
      revert skipped
      decide
    exact collected.pass notPeer notData collected.scan rfl rfl rfl rfl
  · rw [if_neg skipped]
    by_cases dontFragment : stunAttrGetType buf attr = stunAttributeDontFragment
    · rw [if_pos dontFragment]
      have enabled : ctx.dontFragment = true := by
        rcases readable with isSkip | isPeer | isData | optional | ⟨_, enabled⟩
        · exact absurd isSkip skipped
        · exact absurd (dontFragment.symm.trans isPeer) (by decide)
        · exact absurd (dontFragment.symm.trans isData) (by decide)
        · rw [dontFragment] at optional
          exact absurd optional (by decide)
        · exact enabled
      unfold SendScan.onDontFragment
      rw [if_neg (by simp [enabled])]
      refine collected.pass ?_ ?_ collected.scan rfl rfl rfl rfl
      · rw [dontFragment]
        decide
      · rw [dontFragment]
        decide
    · rw [if_neg dontFragment]
      by_cases isPeer : stunAttrGetType buf attr = stunAttributeXorPeerAddress
      · rw [if_pos isPeer]
        exact collected.peer isPeer
      · rw [if_neg isPeer]
        by_cases isData : stunAttrGetType buf attr = stunAttributeData
        · rw [if_pos isData]
          exact collected.addData isData (single isData)
        · rw [if_neg isData]
          have optional : 0x7FFF < stunAttrGetType buf attr := by
            rcases readable with isSkip | known | known | optional | ⟨known, _⟩
            · exact absurd isSkip skipped
            · exact absurd known isPeer
            · exact absurd known isData
            · exact optional
            · exact absurd known dontFragment
          have passed : s.scan.other (stunAttrGetType buf attr) = .empty := by
            have beyond : ¬ stunAttrGetType buf attr ≤ 0x7FFF := UInt16.not_le.mpr optional
            simp only [Scan.other, beyond, if_false, collected.scan]
          exact collected.pass isPeer isData passed rfl rfl rfl rfl

/-- The whole loop, by induction over the attributes that are still to come. -/
theorem Collected.foldl {rest : List AttrRef} (collected : Collected ctx buf refs s)
    (readable : ∀ attr ∈ rest, SendAttribute ctx buf attr)
    (single : (refsOfType buf stunAttributeData (refs ++ rest)).length ≤ 1) :
    Collected ctx buf (refs ++ rest) (rest.foldl (SendScan.step ctx buf) s) := by
  induction rest generalizing refs s with
  | nil =>
    rw [List.append_nil]
    exact collected
  | cons attr rest later =>
    have split : refs ++ attr :: rest = refs ++ [attr] ++ rest := by simp
    rw [split] at single ⊢
    refine later (collected.step (readable attr (.head _)) ?_) (fun a member => readable a (.tail _ member)) single
    intro isData
    unfold refsOfType at single ⊢
    rw [List.filter_append, List.filter_append] at single
    simp only [isData, List.filter_cons, List.filter_nil, beq_self_eq_true, if_true, List.length_append,
      List.length_cons, List.length_nil] at single
    apply List.eq_nil_of_length_eq_zero
    omega

theorem sendScan_collected {peer : IoaAddr} (message : SendMessage ctx (nbh.view nbh.data) nbh.getSize peer d) :
    Collected ctx (nbh.view nbh.data) (stunAttrs (nbh.view nbh.data) nbh.getSize) (sendScan ctx nbh) := by
  obtain ⟨attr, only, _⟩ := message.data
  have single : (refsOfType (nbh.view nbh.data) stunAttributeData
      ([] ++ stunAttrs (nbh.view nbh.data) nbh.getSize)).length ≤ 1 := by
    rw [List.nil_append, only]
    exact Nat.le_refl _
  have whole := (Collected.start ctx (nbh.view nbh.data)).foldl message.readable single
  rw [List.nil_append] at whole
  exact whole

theorem Collected.found {n : Nat} {peer : IoaAddr} (collected : Collected ctx buf (stunAttrs buf n) s)
    (message : SendMessage ctx buf n peer d) :
    s.peerAddr = peer ∧ ∃ attr : Nat, s.len = stunAttrGetLen buf attr ∧ s.value = stunAttrGetValue buf attr ∧
      buf.slice (attr + 4) (stunAttrGetLen buf attr) = d ∧ attr + 4 + stunAttrGetLen buf attr ≤ n := by
  obtain ⟨peerAttr, onlyPeer, decoded⟩ := message.peer
  obtain ⟨attr, onlyData, value⟩ := message.data
  have address : s.peerAddr = peer := by
    rw [collected.peerAddr, onlyPeer]
    simp [decoded]
  have data := collected.data
  rw [onlyData] at data
  obtain ⟨len, place⟩ := Prod.mk.inj data
  have member : attr ∈ refsOfType buf stunAttributeData (stunAttrs buf n) := by
    rw [onlyData]
    exact .head _
  exact ⟨address, attr, len, place, value, stunAttrs_within (List.mem_filter.mp member).1⟩

theorem Received.data (received : Received nbh) : nbh.dataOrigin = 4 ∧ nbh.data = 18 := by
  have origin : nbh.dataOrigin = 4 := by
    unfold StunBuffer.dataOrigin
    rw [received.offset, received.coffset]
    rfl
  refine ⟨origin, ?_⟩
  unfold StunBuffer.data
  rw [origin]
  rfl

theorem Received.getSize (received : Received nbh) : nbh.getSize = nbh.len - 14 ∧ 14 ≤ nbh.len ∧ nbh.len ≤ 65507 := by
  have headed : 14 ≤ nbh.len := received.headed
  have small : nbh.len ≤ 65507 := received.small
  have size : nbh.getSize = nbh.len - 14 := sizeSub_of_le headed (by omega)
  exact ⟨size, headed, small⟩

/-- What a UDP socket sends of a buffer: fourteen bytes more than its length, modulo 2^64. -/
theorem sendDataFromIoaSocketNbh_data {nbh : StunBuffer} {n : Nat} (size : (nbh.len + 14) % 2 ^ 64 = n)
    (small : n < 2 ^ 31) (dest : IoaAddr) (ttl : Int) (tos : Nat) :
    (sendDataFromIoaSocketNbh dest nbh ttl tos).data = (nbh.view nbh.dataOrigin).slice 0 n := by
  have total : (nbh.getSizeOrigin + stunCustomHeaderLen) % 2 ^ 64 = n := size
  have length : intOfSize n = n := intOfSize_of_small small
  unfold sendDataFromIoaSocketNbh
  dsimp only
  rw [total, length, Int.toNat_natCast]

theorem sendDataFromIoaSocketNbh_moved {b : StunBuffer} {forward len n : Nat} (size : (len + 14) % 2 ^ 64 = n)
    (small : n < 2 ^ 31) (dest : IoaAddr) (ttl : Int) (tos : Nat) :
    (sendDataFromIoaSocketNbh dest { b with len := len, offset := forward, coffset := 0 } ttl tos).data =
      b.mem.byte.slice (4 + forward) n := by
  have sent := @sendDataFromIoaSocketNbh_data { b with len := len, offset := forward, coffset := 0 } n size small
    dest ttl tos
  rw [sent]
  apply Memory.slice_congr
  intro i _
  have place : 4 + forward - 0 + (0 + i) = 4 + forward + i := by omega
  show b.mem.byte (4 + forward - 0 + (0 + i)) = b.mem.byte (4 + forward + i)
  rw [place]

/-- A buffer that starts `forward` bytes later, or is reset if it would end beyond its space. The
end is computed modulo 2^64. -/
theorem addOffsetSize_forward {b : StunBuffer} (offset : b.offset = 0) (coffset : b.coffset = 0) {forward : Nat}
    (small : forward < 2 ^ 16) (len : Nat) :
    b.addOffsetSize forward 0 len =
      if stunBufferSize ≤ (forward + len % 2 ^ 64) % 2 ^ 64 then { b with len := 0, offset := 0, coffset := 0 }
      else { b with len := len % 2 ^ 64, offset := forward, coffset := 0 } := by
  have moved : (0 + forward) % 2 ^ 16 = forward := by omega
  have still : (0 + 0) % 2 ^ 8 = 0 := rfl
  have whole : sizeSub ((forward + len % 2 ^ 64) % 2 ^ 64) 0 = (forward + len % 2 ^ 64) % 2 ^ 64 := by
    unfold sizeSub
    omega
  unfold StunBuffer.addOffsetSize
  dsimp only
  rw [offset, coffset, moved, still, whole]
  simp only [Nat.not_lt_zero, or_false]

variable {ctx : SendContext} {nbh : StunBuffer} (input : NetData) {attr n : Nat} {chnum : UInt16} {d : List UInt8}
  {len : Nat}

theorem cutToData_some {len : Int} (positive : 0 < len) (place : Nat) :
    cutToData nbh len (some place) =
      nbh.addOffsetSize ((14 + place) % 2 ^ 16) 0 ((len - 14) % 2 ^ 32).toNat := by
  unfold cutToData
  dsimp only
  rw [if_pos positive]
  rfl

/-- Data of at least fourteen bytes is cut out exactly: the constant that was
subtracted is the one that the socket adds again. -/
theorem cutToData_long (received : Received nbh) (within : attr + 4 + len ≤ nbh.getSize) (long : 14 ≤ len) :
    cutToData nbh len (some (attr + 4)) = { nbh with len := len - 14, offset := 18 + attr, coffset := 0 } := by
  obtain ⟨size, headed, small⟩ := received.getSize
  have limit : stunBufferSize = 65507 := rfl
  have place : (14 + (attr + 4)) % 2 ^ 16 = 18 + attr := by omega
  have rest : (((len : Int) - 14) % 2 ^ 32).toNat = len - 14 := by omega
  have word : (len - 14) % 2 ^ 64 = len - 14 := by omega
  rw [cutToData_some (by omega), place, rest,
    addOffsetSize_forward received.offset received.coffset (by omega), word, if_neg (by omega)]

/-- Shorter data wraps the length around, and the buffer is reset to its start. -/
theorem cutToData_short (received : Received nbh) (within : attr + 4 + len ≤ nbh.getSize) (positive : 0 < len)
    (short : len < 14) : cutToData nbh len (some (attr + 4)) = { nbh with len := 0, offset := 0, coffset := 0 } := by
  obtain ⟨size, headed, small⟩ := received.getSize
  have limit : stunBufferSize = 65507 := rfl
  have place : (14 + (attr + 4)) % 2 ^ 16 = 18 + attr := by omega
  have wrapped : (((len : Int) - 14) % 2 ^ 32).toNat = 2 ^ 32 + len - 14 := by omega
  have word : (2 ^ 32 + len - 14) % 2 ^ 64 = 2 ^ 32 + len - 14 := by omega
  rw [cutToData_some (by omega), place, wrapped,
    addOffsetSize_forward received.offset received.coffset (by omega), word, if_pos (by omega)]

theorem cutToData_sends_iff (received : Received nbh)
    (within : attr + 4 + stunAttrGetLen (nbh.view nbh.data) attr ≤ nbh.getSize) (dest : IoaAddr) (ttl : Int)
    (tos : Nat) :
    (sendDataFromIoaSocketNbh dest (cutToData nbh (stunAttrGetLen (nbh.view nbh.data) attr)
        (stunAttrGetValue (nbh.view nbh.data) attr)) ttl tos).data =
        (nbh.view nbh.data).slice (attr + 4) (stunAttrGetLen (nbh.view nbh.data) attr) ↔
      14 ≤ stunAttrGetLen (nbh.view nbh.data) attr := by
  obtain ⟨size, headed, small⟩ := received.getSize
  obtain ⟨-, front⟩ := received.data
  generalize length : stunAttrGetLen (nbh.view nbh.data) attr = len at within ⊢
  -- A reset or emptied buffer sends the fourteen bytes at its start, whatever the data is.
  have tooMany (b : StunBuffer) (empty : b.len = 0) (short : len < 14) :
      (sendDataFromIoaSocketNbh dest b ttl tos).data ≠ (nbh.view nbh.data).slice (attr + 4) len := by
    have header : (b.len + 14) % 2 ^ 64 = 14 := by omega
    rw [sendDataFromIoaSocketNbh_data header (by omega) dest ttl tos]
    intro same
    have lengths := congrArg List.length same
    rw [Memory.length_slice, Memory.length_slice] at lengths
    omega
  unfold stunAttrGetValue
  rw [length]
  by_cases long : 14 ≤ len
  · simp only [long, iff_true]
    rw [if_neg (by omega), cutToData_long received within long]
    have all : (len - 14 + 14) % 2 ^ 64 = len := by omega
    have place : 4 + (18 + attr) = 18 + (attr + 4) := by omega
    rw [sendDataFromIoaSocketNbh_moved all (by omega), view_slice, front, place]
  · simp only [long, iff_false]
    by_cases empty : len < 1
    · rw [if_pos empty]
      exact tooMany _ rfl (by omega)
    · rw [if_neg empty, cutToData_short received within (by omega) (by omega)]
      exact tooMany _ rfl (by omega)

/-- A message of a client with a valid UDP allocation and an open relay socket, for an IPv4 peer
whose address is that of the client socket. -/
structure LocalPeer (ctx : SendContext) (input : NetData) (peer : IoaAddr) : Prop where
  valid : ctx.allocation.isValid = true
  udp : ctx.isTcpRelay = false
  ttl : input.recvTtl ≠ 0
  received : Received input.nbh
  inet : peer.family = .inet
  here : peer.ip4 = ctx.clientLocalIp
  relay : (ctx.relaySocket .inet).isSome = true

/-- The handler made the relay socket send exactly these bytes to the peer. -/
def SendsExactly (sent : Option Datagram) (peer : IoaAddr) (d : List UInt8) : Prop :=
  ∃ datagram, sent = some datagram ∧ datagram.dest = peer ∧ datagram.data = d

theorem sendScanned_of_found {s : SendScan} (scan : s.scan = .empty) (found : s.len = len)
    (permitted : (allocationGetPermission ctx.allocation s.peerAddr).isSome = true) :
    (sendScanned ctx input s).2 =
      if addrAny s.peerAddr = false then sendToPeer ctx input s.peerAddr s.len s.value else none := by
  have nonneg : 0 ≤ s.len := by omega
  unfold sendScanned
  rw [scan, if_neg (by simp [Scan.empty]), if_neg (by simp [Scan.empty])]
  by_cases known : addrAny s.peerAddr = false
  · rw [if_pos ⟨known, nonneg⟩, if_pos (Or.inr permitted), if_pos known]
  · rw [if_neg (fun both => known both.1), if_neg known]

theorem sendToPeer_of_local {input : NetData} {peer : IoaAddr} (localPeer : LocalPeer ctx input peer) (len : Int)
    (value : Option Nat) :
    sendToPeer ctx input peer len value =
      some (sendDataFromIoaSocketNbh peer (cutToData input.nbh len value) ((input.recvTtl : Int) - 1)
        input.recvTos) := by
  obtain ⟨relay, opened⟩ := Option.isSome_iff_exists.mp localPeer.relay
  unfold sendToPeer
  rw [localPeer.inet, opened]
  exact if_pos localPeer.here

theorem sendsExactly_sent (dest : IoaAddr) (nbh : StunBuffer) (ttl : Int) (tos : Nat) (d : List UInt8) :
    SendsExactly (some (sendDataFromIoaSocketNbh dest nbh ttl tos)) dest d ↔
      (sendDataFromIoaSocketNbh dest nbh ttl tos).data = d := by
  constructor
  · rintro ⟨datagram, sent, _, bytes⟩
    rw [Option.some.inj sent]
    exact bytes
  · intro bytes
    exact ⟨_, rfl, rfl, bytes⟩

/-- The data of a Send indication for a local peer leaves unchanged exactly when
it has at least fourteen bytes (and the peer is not the zero address). -/
theorem send_transparent_iff {ctx : SendContext} {input : NetData} {peer : IoaAddr} {d : List UInt8}
    (localPeer : LocalPeer ctx input peer)
    (permitted : (allocationGetPermission ctx.allocation peer).isSome = true)
    (message : SendMessage ctx (input.nbh.view input.nbh.data) input.nbh.getSize peer d) :
    SendsExactly (handleTurnSend ctx input).2 peer d ↔ addrAny peer = false ∧ 14 ≤ d.length := by
  have collected := sendScan_collected message
  obtain ⟨address, attr, len, place, value, within⟩ := collected.found message
  have size : d.length = stunAttrGetLen (input.nbh.view input.nbh.data) attr := by
    rw [← value, Memory.length_slice]
  have handled : handleTurnSend ctx input = sendScanned ctx input (sendScan ctx input.nbh) := by
    unfold handleTurnSend
    rw [if_neg (by simp [localPeer.udp]), if_pos ⟨localPeer.valid, localPeer.ttl⟩]
  rw [← address] at permitted
  rw [handled, sendScanned_of_found input collected.scan len permitted, address, len, place]
  by_cases known : addrAny peer = false
  · rw [if_pos known, sendToPeer_of_local localPeer, sendsExactly_sent, size, ← value,
      cutToData_sends_iff localPeer.received within]
    exact ⟨fun long => ⟨known, long⟩, fun both => both.2⟩
  · rw [if_neg known]
    constructor
    · rintro ⟨datagram, sent, _⟩
      cases sent
    · exact fun both => absurd both.1 known

/-- The peer 10.0.0.1:4000. -/
def hostPeer : IoaAddr := .inet 0x0100000A (nswap16 4000)

/-- A session on 10.0.0.1 with the relay 10.0.0.1:49152 and a permission for the peer. -/
def hostContext : SendContext where
  serverRelay := false
  dontFragment := false
  mapping := []
  isTcpRelay := false
  clientStream := false
  clientLocalIp := 0x0100000A
  allocation := (allocationAddPermission { initAllocation with isValid := true } hostPeer).1
  relaySocket := fun _ => some (.inet 0x0100000A (nswap16 49152))

/-- A Send indication for the peer, behind the header that the proxy writes. -/
def sendIndication (d : List UInt8) : List UInt8 :=
  (StunCustomHeader.mk customIdentifier 0x0200000A 5000 0 0).bytes ++
    [0x00, 0x16] ++ bytes16 (nswap16 (UInt16.ofNat (16 + roundUp4 d.length))) ++
    [0x21, 0x12, 0xA4, 0x42, 1, 2, 3, 4, 5, 6, 7, 8, 9, 10, 11, 12] ++
    [0x00, 0x12, 0x00, 0x08, 0x00, 0x01, 0x2E, 0xB2, 0x2B, 0x12, 0xA4, 0x43] ++
    [0x00, 0x13] ++ bytes16 (nswap16 (UInt16.ofNat d.length)) ++ d ++
    List.replicate (roundUp4 d.length - d.length) 0

def sendArrives (d : List UInt8) : NetData :=
  ⟨.received (.ofList (sendIndication d)) (sendIndication d).length, .inet 0x0200000A (nswap16 5000), 64, 0⟩

def longData : List UInt8 := [1, 2, 3, 4, 5, 6, 7, 8, 9, 10, 11, 12, 13, 14]

def shortData : List UInt8 := [1, 2, 3, 4]

theorem hostContext_localPeer (small : (sendIndication d).length ≤ stunBufferSize)
    (headed : stunCustomHeaderLen ≤ (sendIndication d).length) : LocalPeer hostContext (sendArrives d) hostPeer :=
  ⟨rfl, rfl, nofun, ⟨rfl, rfl, headed, small⟩, rfl, rfl, rfl⟩

theorem longData_message : SendMessage hostContext ((sendArrives longData).nbh.view (sendArrives longData).nbh.data)
    (sendArrives longData).nbh.getSize hostPeer longData :=
  ⟨⟨20, by decide, by decide⟩, ⟨32, by decide, by decide⟩, by decide⟩

theorem shortData_message :
    SendMessage hostContext ((sendArrives shortData).nbh.view (sendArrives shortData).nbh.data)
      (sendArrives shortData).nbh.getSize hostPeer shortData :=
  ⟨⟨20, by decide, by decide⟩, ⟨32, by decide, by decide⟩, by decide⟩

theorem send_transparent_iff_fourteen :
    SendsExactly (handleTurnSend hostContext (sendArrives longData)).2 hostPeer longData ↔
      addrAny hostPeer = false ∧ 14 ≤ longData.length :=
  send_transparent_iff (hostContext_localPeer (by decide) (by decide)) (by decide) longData_message

/-- Four bytes for a local peer do not arrive: the socket sends the custom header instead. -/
theorem short_send_leaks_header :
    ¬ ∀ (ctx : SendContext) (input : NetData) (peer : IoaAddr) (d : List UInt8), LocalPeer ctx input peer →
      (allocationGetPermission ctx.allocation peer).isSome = true →
      SendMessage ctx (input.nbh.view input.nbh.data) input.nbh.getSize peer d →
      SendsExactly (handleTurnSend ctx input).2 peer d := by
  intro claimed
  obtain ⟨datagram, sent, _, bytes⟩ := claimed hostContext (sendArrives shortData) hostPeer shortData
    (hostContext_localPeer (by decide) (by decide)) (by decide) shortData_message
  have leaked : (handleTurnSend hostContext (sendArrives shortData)).2.map Datagram.data =
      some (StunCustomHeader.mk customIdentifier 0x0200000A 5000 0 0).bytes := by decide +kernel
  rw [sent, Option.map_some, bytes] at leaked
  exact absurd leaked (by decide)

/-- ChannelData with the data `d`, with or without padding behind it. -/
structure ChannelMessage (buf : Memory) (n : Nat) (chnum : UInt16) (d : List UInt8) : Prop where
  channel : net16 buf 0 = chnum
  length : (net16 buf 2).toNat = d.length
  data : buf.slice 4 d.length = d
  total : n = 4 + d.length ∨ n = 4 + roundUp4 d.length

/-- A live channel of the allocation. -/
def BoundTo (a : Allocation) (chnum : UInt16) (peer : IoaAddr) : Prop :=
  ∃ ref chn, allocationGetChInfo a chnum = some ref ∧ a.chns.get ref = some chn ∧ chn.peerAddr = peer

theorem ChannelMessage.parsed {buf : Memory} (message : ChannelMessage buf n chnum d)
    (valid : stunValidChannel chnum = true) (small : d.length ≤ 16360) (padding : Bool) :
    stunIsChannelMessageStr buf n padding = some (chnum, d.length + 4) := by
  obtain ⟨lower, upper, aligned⟩ := roundUp4_spec d.length
  have actual : min n 65535 - 4 = d.length ∨ min n 65535 - 4 = roundUp4 d.length := by
    rcases message.total with plain | padded
    · left
      omega
    · right
      omega
  have long : ¬ n < 4 := by
    rcases message.total with plain | padded <;> omega
  have covered : ¬ min n 65535 - 4 < d.length := by omega
  have accepted : ¬ (d.length ≠ min n 65535 - 4 ∧ (min n 65535 - 4) % 4 ≠ 0 ∧
      (padding = true ∨ d.length = 0 ∨ 3 < min n 65535 - 4 - d.length)) := by
    rintro ⟨differ, unaligned, _⟩
    rcases actual with plain | padded
    · exact differ plain.symm
    · rw [padded] at unaligned
      exact unaligned aligned
  unfold stunIsChannelMessageStr
  rw [if_neg long, message.channel, if_neg (by simp [valid])]
  dsimp only
  rw [message.length, if_neg covered, if_neg accepted]

theorem readClientChannel_of_parsed {input : NetData} {blen : Nat}
    (parsed : stunIsChannelMessageStr (input.nbh.view input.nbh.data) input.nbh.getSize ctx.clientStream =
      some (chnum, blen)) (udp : ctx.isTcpRelay = false) (covered : blen ≤ input.nbh.getSize) :
    readClientChannel ctx input =
      writeToPeerchannel ctx chnum { input with nbh := input.nbh.setSize blen } := by
  unfold readClientChannel
  rw [parsed, readChannelMessage, if_neg (by simp [udp]), if_pos covered]

theorem writeToPeerchannel_of_bound {peer : IoaAddr} (ttl : input.recvTtl ≠ 0) (valid : ctx.allocation.isValid = true)
    (bound : BoundTo ctx.allocation chnum peer) :
    writeToPeerchannel ctx chnum input = sendToChannel ctx input peer := by
  obtain ⟨ref, chn, found, live, address⟩ := bound
  unfold writeToPeerchannel
  rw [if_pos ⟨ttl, valid⟩, found, Option.bind_some, live]
  show sendToChannel ctx input chn.peerAddr = _
  rw [address]

/-- The length of a cut buffer is the data's minus fourteen, modulo 2^64; the socket adds them again. -/
theorem cutToChannelData_sends {b : StunBuffer} (offset : b.offset = 0) (coffset : b.coffset = 0)
    (size : b.len = n + 4) (small : n ≤ 16360) (dest : IoaAddr) (ttl : Int) (tos : Nat) :
    (sendDataFromIoaSocketNbh dest (cutToChannelData b) ttl tos).data = b.mem.byte.slice 22 n := by
  obtain ⟨rest, wrapped, word, ends, restored⟩ : ∃ rest, sizeSub b.getSize stunChannelHeaderLength = rest ∧
      rest % 2 ^ 64 = rest ∧ (18 + rest) % 2 ^ 64 = n + 4 ∧ (rest + 14) % 2 ^ 64 = n := by
    refine ⟨(n + 2 ^ 64 - 14) % 2 ^ 64, ?_, by omega, by omega, by omega⟩
    unfold StunBuffer.getSize
    rw [size]
    show sizeSub (sizeSub (n + 4) 14) 4 = _
    unfold sizeSub
    omega
  have limit : stunBufferSize = 65507 := rfl
  have forward : stunChannelHeaderLength + stunCustomHeaderLen = 18 := rfl
  unfold cutToChannelData
  rw [wrapped, forward, addOffsetSize_forward offset coffset (by omega), word, ends, if_neg (by omega),
    sendDataFromIoaSocketNbh_moved restored (by omega)]

/-- The data of ChannelData for a local peer leaves unchanged, whatever its
length: the size wraps below zero and the socket brings it back. -/
theorem channel_data_transparent {ctx : SendContext} {input : NetData} {peer : IoaAddr} {chnum : UInt16}
    {d : List UInt8} (localPeer : LocalPeer ctx input peer) (bound : BoundTo ctx.allocation chnum peer)
    (valid : stunValidChannel chnum = true) (small : d.length ≤ 16360)
    (message : ChannelMessage (input.nbh.view input.nbh.data) input.nbh.getSize chnum d) :
    SendsExactly (readClientChannel ctx input) peer d := by
  obtain ⟨relay, opened⟩ := Option.isSome_iff_exists.mp localPeer.relay
  obtain ⟨-, front⟩ := localPeer.received.data
  have covered : d.length + 4 ≤ input.nbh.getSize := by
    obtain ⟨lower, _, _⟩ := roundUp4_spec d.length
    rcases message.total with plain | padded <;> omega
  have length : (input.nbh.setSize (d.length + 4)).len = d.length + 4 := by
    show (d.length + 4) % 2 ^ 64 = d.length + 4
    omega
  have offset : (input.nbh.setSize (d.length + 4)).offset = 0 := localPeer.received.offset
  have coffset : (input.nbh.setSize (d.length + 4)).coffset = 0 := localPeer.received.coffset
  rw [readClientChannel_of_parsed (message.parsed valid small _) localPeer.udp covered,
    writeToPeerchannel_of_bound { input with nbh := input.nbh.setSize (d.length + 4) } localPeer.ttl localPeer.valid
      bound]
  unfold sendToChannel
  rw [localPeer.inet, opened]
  dsimp only
  rw [if_pos localPeer.here, sendsExactly_sent, cutToChannelData_sends offset coffset length small]
  refine Eq.trans ?_ message.data
  rw [view_slice, front]
  rfl

/-- The session of the example with the channel 0x4000 bound to the peer. -/
def boundContext : SendContext :=
  { hostContext with
    allocation := (allocationGetNewChInfo { initAllocation with isValid := true } 0x4000 hostPeer).1 }

/-- ChannelData with five bytes, padded to eight. -/
def paddedMessage : List UInt8 :=
  (StunCustomHeader.mk customIdentifier 0x0200000A 5000 0 0).bytes ++
    [0x40, 0x00, 0x00, 0x05, 1, 2, 3, 4, 5, 0, 0, 0]

def paddedArrives : NetData :=
  ⟨.received (.ofList paddedMessage) paddedMessage.length, .inet 0x0200000A (nswap16 5000), 64, 0⟩

theorem channel_data_transparent_padded :
    SendsExactly (readClientChannel boundContext paddedArrives) hostPeer [1, 2, 3, 4, 5] := by
  have localPeer : LocalPeer boundContext paddedArrives hostPeer :=
    ⟨rfl, rfl, nofun, ⟨rfl, rfl, by decide, by decide⟩, rfl, rfl, rfl⟩
  have bound : BoundTo boundContext.allocation 0x4000 hostPeer := ⟨⟨0, 0⟩, _, by decide, rfl, by decide⟩
  have message : ChannelMessage (paddedArrives.nbh.view paddedArrives.nbh.data) paddedArrives.nbh.getSize 0x4000
      [1, 2, 3, 4, 5] := ⟨by decide, by decide, by decide, by decide⟩
  exact channel_data_transparent localPeer bound (by decide) (by decide) message

end Server
end TurnCluster
