import Mathlib.Algebra.Group.Nat.Defs
import TurnCluster.Lib.Run
import TurnCluster.Server.SendTransparency

namespace TurnCluster
namespace Server

/-- The statistics of `ts_ur_super_session`. The totals of the traffic with peers have 32 bits, those
of the traffic with the client 64. -/
structure Stats where
  receivedPackets : UInt32
  sentPackets : UInt32
  receivedBytes : UInt32
  sentBytes : UInt32
  tReceivedPackets : UInt64
  tSentPackets : UInt64
  tReceivedBytes : UInt64
  tSentBytes : UInt64
  receivedRate : UInt64
  sentRate : UInt64
  totalRate : UInt64
  peerReceivedPackets : UInt32
  peerSentPackets : UInt32
  peerReceivedBytes : UInt32
  peerSentBytes : UInt32
  tPeerReceivedPackets : UInt32
  tPeerSentPackets : UInt32
  tPeerReceivedBytes : UInt32
  tPeerSentBytes : UInt32
  peerReceivedRate : UInt64
  peerSentRate : UInt64
  peerTotalRate : UInt64

/-- As the session is made. -/
def Stats.zero : Stats :=
  ⟨0, 0, 0, 0, 0, 0, 0, 0, 0, 0, 0, 0, 0, 0, 0, 0, 0, 0, 0, 0, 0, 0⟩

/-- The counters go into the totals. -/
def Stats.addTotals (s : Stats) : Stats :=
  { s with
    tReceivedPackets := s.tReceivedPackets + s.receivedPackets.toUInt64
    tReceivedBytes := s.tReceivedBytes + s.receivedBytes.toUInt64
    tSentPackets := s.tSentPackets + s.sentPackets.toUInt64
    tSentBytes := s.tSentBytes + s.sentBytes.toUInt64
    tPeerReceivedPackets := s.tPeerReceivedPackets + s.peerReceivedPackets
    tPeerReceivedBytes := s.tPeerReceivedBytes + s.peerReceivedBytes
    tPeerSentPackets := s.tPeerSentPackets + s.peerSentPackets
    tPeerSentBytes := s.tPeerSentBytes + s.peerSentBytes }

/-- The rates since the start of the session, if the clock has moved since. -/
def Stats.setRates (s : Stats) (ctime startTime : UInt32) : Stats :=
  if ctime = startTime then s
  else
    let ct := ctime - startTime
    let received := (s.tReceivedBytes / ct.toUInt64).toUInt32.toUInt64
    let sent := (s.tSentBytes / ct.toUInt64).toUInt32.toUInt64
    let peerReceived := (s.tPeerReceivedBytes / ct).toUInt64
    let peerSent := (s.tPeerSentBytes / ct).toUInt64
    { s with
      receivedRate := received
      sentRate := sent
      totalRate := received + sent
      peerReceivedRate := peerReceived
      peerSentRate := peerSent
      peerTotalRate := peerReceived + peerSent }

def Stats.clear (s : Stats) : Stats :=
  { s with
    receivedPackets := 0
    receivedBytes := 0
    sentPackets := 0
    sentBytes := 0
    peerReceivedPackets := 0
    peerReceivedBytes := 0
    peerSentPackets := 0
    peerSentBytes := 0 }

/-- The server's clock and the start of the session. -/
structure Clock where
  ctime : UInt32
  startTime : UInt32

/-- `turn_report_session_usage` without its messages. -/
def turnReportSessionUsage (clock : Clock) (s : Stats) (forceInvalid : Bool) : Stats :=
  if s.receivedPackets ≠ 0 ∨ s.sentPackets ≠ 0 ∨ forceInvalid = true then
    if (s.receivedPackets + s.sentPackets + s.peerReceivedPackets + s.peerSentPackets) &&& 4095 = 0 ∨
        forceInvalid = true then
      (s.addTotals.setRates clock.ctime clock.startTime).clear
    else s
  else s

/-- What follows a send that was not skipped. -/
def countPeerSent (clock : Clock) (s : Stats) (bytes : UInt32) : Stats :=
  turnReportSessionUsage clock
    { s with peerSentPackets := s.peerSentPackets + 1, peerSentBytes := s.peerSentBytes + bytes } false

/-- The checks that follow the loop of `handle_turn_send`. -/
def sendReady (ctx : SendContext) (s : SendScan) : Option SendScan :=
  if s.scan.errCode ≠ 0 then none
  else if s.scan.unknownAttrs ≠ [] then none
  else if addrAny s.peerAddr = false ∧ 0 ≤ s.len then
    if ctx.serverRelay = true ∨ (allocationGetPermission ctx.allocation s.peerAddr).isSome = true then some s
    else none
  else none

/-- What `handle_turn_send` has read when it comes to the send. -/
def sendReached (ctx : SendContext) (input : NetData) : Option SendScan :=
  if ctx.isTcpRelay = true then none
  else if ctx.allocation.isValid = true ∧ input.recvTtl ≠ 0 then sendReady ctx (sendScan ctx input.nbh)
  else none

/-- The variable `len` after the buffer was prepared: the local branch sets it to zero without data. -/
def sendLen (ctx : SendContext) (s : SendScan) : Int :=
  if s.peerAddr.ip4 = ctx.clientLocalIp then
    if s.value.isSome = true ∧ 0 < s.len then s.len else 0
  else s.len

/-- The statistics after `handle_turn_send`; `skip` is what the socket reports. -/
def handleTurnSendStats (clock : Clock) (ctx : SendContext) (input : NetData) (skip : Bool) (stats : Stats) : Stats :=
  match sendReached ctx input with
  | none => stats
  | some s => if skip = true then stats else countPeerSent clock stats (UInt32.ofInt (sendLen ctx s))

/-- The size that is read from a buffer after the socket has given it back. The engine keeps it as it
is for the next use; beyond the limit of its list it frees it, and `freed` stands where `len` was. -/
def sizeGivenBack (nbh : StunBuffer) (freed : Option Nat) : Nat :=
  match freed with
  | none => nbh.getSize
  | some len => sizeSub len stunCustomHeaderLen

/-- The buffer that `write_to_peerchannel` gives to the socket. -/
def channelBuffer (ctx : SendContext) (peerAddr : IoaAddr) (nbh : StunBuffer) : StunBuffer :=
  if peerAddr.ip4 = ctx.clientLocalIp then cutToChannelData nbh else nbh

/-- The peer when `write_to_peerchannel` comes to the send. -/
def channelReached (ctx : SendContext) (chnum : UInt16) (input : NetData) : Option IoaAddr :=
  if input.recvTtl ≠ 0 ∧ ctx.allocation.isValid = true then
    ((allocationGetChInfo ctx.allocation chnum).bind ctx.allocation.chns.get).map (fun chn => chn.peerAddr)
  else none

def writeToPeerchannelStats (clock : Clock) (ctx : SendContext) (chnum : UInt16) (input : NetData) (skip : Bool)
    (freed : Option Nat) (stats : Stats) : Stats :=
  match channelReached ctx chnum input with
  | none => stats
  | some peerAddr =>
    if skip = true then stats
    else countPeerSent clock stats (UInt32.ofNat (sizeGivenBack (channelBuffer ctx peerAddr input.nbh) freed))

def readChannelMessageStats (clock : Clock) (ctx : SendContext) (input : NetData) (skip : Bool) (freed : Option Nat)
    (stats : Stats) : Option (UInt16 × Nat) → Stats
  | none => stats
  | some (chnum, blen) =>
    if ctx.isTcpRelay = true then stats
    else if blen ≤ input.nbh.getSize then
      writeToPeerchannelStats clock ctx chnum { input with nbh := input.nbh.setSize blen } skip freed stats
    else stats

/-- The statistics after the branch of `read_client_connection` that takes ChannelData. -/
def readClientChannelStats (clock : Clock) (ctx : SendContext) (input : NetData) (skip : Bool) (freed : Option Nat)
    (stats : Stats) : Stats :=
  readChannelMessageStats clock ctx input skip freed stats
    (stunIsChannelMessageStr (input.nbh.view input.nbh.data) input.nbh.getSize ctx.clientStream)

/-- Length of the application data: that of the first DATA attribute of a Send indication. -/
def sendDataLength (nbh : StunBuffer) : Nat :=
  (dataOf (nbh.view nbh.data)
    (refsOfType (nbh.view nbh.data) stunAttributeData (stunAttrs (nbh.view nbh.data) nbh.getSize))).1.toNat

/-- The length field of ChannelData. -/
def channelDataLength (nbh : StunBuffer) : Nat := (net16 (nbh.view nbh.data) 2).toNat

structure UsageWorld where
  stats : Stats
  /-- Lengths of the application data relayed to peers so far. -/
  relayed : List Nat

inductive UsageEvent
  | send (clock : Clock) (ctx : SendContext) (input : NetData)
  | channel (clock : Clock) (ctx : SendContext) (input : NetData) (freed : Option Nat)
  /-- Traffic from the client, to the client or from peers was counted. -/
  | elsewhere (stats : Stats)
  | report (clock : Clock) (forceInvalid : Bool)

structure SamePeerSent (s s' : Stats) : Prop where
  packets : s'.peerSentPackets = s.peerSentPackets
  bytes : s'.peerSentBytes = s.peerSentBytes
  tPackets : s'.tPeerSentPackets = s.tPeerSentPackets
  tBytes : s'.tPeerSentBytes = s.tPeerSentBytes

def usageStep (w : UsageWorld) : UsageEvent → UsageWorld
  | .send clock ctx input =>
    ⟨handleTurnSendStats clock ctx input false w.stats, w.relayed ++ [sendDataLength input.nbh]⟩
  | .channel clock ctx input freed =>
    ⟨readClientChannelStats clock ctx input false freed w.stats, w.relayed ++ [channelDataLength input.nbh]⟩
  | .elsewhere stats => ⟨stats, w.relayed⟩
  | .report clock forceInvalid => ⟨turnReportSessionUsage clock w.stats forceInvalid, w.relayed⟩

/-- A session whose every packet for a peer is sent. -/
def usageMachine : Machine UsageWorld UsageEvent Unit where
  init w := w = ⟨.zero, []⟩
  enabled w e :=
    match e with
    | .send _ ctx input => (handleTurnSend ctx input).2.isSome = true
    | .channel _ ctx input _ => (readClientChannel ctx input).isSome = true
    | .elsewhere stats => SamePeerSent w.stats stats
    | .report _ _ => True
  next w e := some (usageStep w e, ())

/-- Totals and counters together say what was relayed. -/
structure CountedExactly (w : UsageWorld) : Prop where
  bytes : w.stats.tPeerSentBytes.toNat + w.stats.peerSentBytes.toNat = w.relayed.sum
  packets : w.stats.tPeerSentPackets.toNat + w.stats.peerSentPackets.toNat = w.relayed.length

/-- The packet is a Send indication, and what was relayed still fits the 32 bits of a total. -/
def FitsCounters (w : UsageWorld) : UsageEvent → Prop
  | .send _ _ input => w.relayed.sum + sendDataLength input.nbh < 2 ^ 32 ∧ w.relayed.length + 1 < 2 ^ 32
  | .channel _ _ _ _ => False
  | .elsewhere _ => True
  | .report _ _ => True

variable {ctx : SendContext} (clock : Clock) {buf : Memory} {chnum : UInt16} {input : NetData} (freed : Option Nat)
  {refs : List AttrRef} (stats : Stats) {s : SendScan} {w : UsageWorld}

theorem turnReportSessionUsage_peerSent (s : Stats) (forceInvalid : Bool) :
    SamePeerSent s (turnReportSessionUsage clock s forceInvalid) ∨
      SamePeerSent
        { s with
          peerSentPackets := 0
          peerSentBytes := 0
          tPeerSentPackets := s.tPeerSentPackets + s.peerSentPackets
          tPeerSentBytes := s.tPeerSentBytes + s.peerSentBytes }
        (turnReportSessionUsage clock s forceInvalid) := by
  rw [turnReportSessionUsage]
  split
  · split
    · right
      have totals : ∀ s : Stats, (s.setRates clock.ctime clock.startTime).tPeerSentPackets = s.tPeerSentPackets ∧
          (s.setRates clock.ctime clock.startTime).tPeerSentBytes = s.tPeerSentBytes := by
        intro s
        rw [Stats.setRates]
        split <;> exact ⟨rfl, rfl⟩
      exact ⟨rfl, rfl, (totals s.addTotals).1, (totals s.addTotals).2⟩
    · exact .inl ⟨rfl, rfl, rfl, rfl⟩
  · exact .inl ⟨rfl, rfl, rfl, rfl⟩

theorem turnReportSessionUsage_sums (s : Stats) (forceInvalid : Bool)
    (bytes : s.tPeerSentBytes.toNat + s.peerSentBytes.toNat < 2 ^ 32)
    (packets : s.tPeerSentPackets.toNat + s.peerSentPackets.toNat < 2 ^ 32) :
    (turnReportSessionUsage clock s forceInvalid).tPeerSentBytes.toNat +
        (turnReportSessionUsage clock s forceInvalid).peerSentBytes.toNat =
      s.tPeerSentBytes.toNat + s.peerSentBytes.toNat ∧
    (turnReportSessionUsage clock s forceInvalid).tPeerSentPackets.toNat +
        (turnReportSessionUsage clock s forceInvalid).peerSentPackets.toNat =
      s.tPeerSentPackets.toNat + s.peerSentPackets.toNat := by
  rcases turnReportSessionUsage_peerSent clock s forceInvalid with same | moved
  · rw [same.bytes, same.tBytes, same.packets, same.tPackets]
    exact ⟨rfl, rfl⟩
  · rw [moved.bytes, moved.tBytes, moved.packets, moved.tPackets]
    dsimp only
    rw [UInt32.toNat_add, UInt32.toNat_add, Nat.mod_eq_of_lt bytes, Nat.mod_eq_of_lt packets]
    exact ⟨rfl, rfl⟩

theorem countPeerSent_sums (s : Stats) (bytes : UInt32)
    (roomBytes : s.tPeerSentBytes.toNat + s.peerSentBytes.toNat + bytes.toNat < 2 ^ 32)
    (roomPackets : s.tPeerSentPackets.toNat + s.peerSentPackets.toNat + 1 < 2 ^ 32) :
    (countPeerSent clock s bytes).tPeerSentBytes.toNat + (countPeerSent clock s bytes).peerSentBytes.toNat =
      s.tPeerSentBytes.toNat + s.peerSentBytes.toNat + bytes.toNat ∧
    (countPeerSent clock s bytes).tPeerSentPackets.toNat + (countPeerSent clock s bytes).peerSentPackets.toNat =
      s.tPeerSentPackets.toNat + s.peerSentPackets.toNat + 1 := by
  have sumBytes : (s.peerSentBytes + bytes).toNat = s.peerSentBytes.toNat + bytes.toNat := by
    rw [UInt32.toNat_add, Nat.mod_eq_of_lt (by omega)]
  have sumPackets : (s.peerSentPackets + 1).toNat = s.peerSentPackets.toNat + 1 := by
    rw [UInt32.toNat_add]
    exact Nat.mod_eq_of_lt (by change s.peerSentPackets.toNat + 1 < 2 ^ 32; omega)
  obtain ⟨reportedBytes, reportedPackets⟩ := turnReportSessionUsage_sums clock
    { s with peerSentPackets := s.peerSentPackets + 1, peerSentBytes := s.peerSentBytes + bytes } false
    (by dsimp only; omega) (by dsimp only; omega)
  rw [countPeerSent, reportedBytes, reportedPackets]
  dsimp only
  omega

/-- Whatever wraps, the sums are right modulo 2^32. -/
theorem countPeerSent_bytes_mod (s : Stats) (bytes : UInt32) :
    ((countPeerSent clock s bytes).tPeerSentBytes.toNat + (countPeerSent clock s bytes).peerSentBytes.toNat) % 2 ^ 32 =
      (s.tPeerSentBytes.toNat + s.peerSentBytes.toNat + bytes.toNat) % 2 ^ 32 := by
  rw [countPeerSent]
  rcases turnReportSessionUsage_peerSent clock
    { s with peerSentPackets := s.peerSentPackets + 1, peerSentBytes := s.peerSentBytes + bytes } false with
    same | moved
  · rw [same.bytes, same.tBytes]
    dsimp only
    rw [UInt32.toNat_add]
    omega
  · rw [moved.bytes, moved.tBytes]
    dsimp only
    rw [UInt32.toNat_add, UInt32.toNat_add]
    change (_ + 0) % 2 ^ 32 = _
    omega

theorem handleTurnSend_reached (ctx : SendContext) (input : NetData) :
    (handleTurnSend ctx input).2 =
      (sendReached ctx input).bind (fun s => sendToPeer ctx input s.peerAddr s.len s.value) := by
  have scanned : ∀ s, (sendScanned ctx input s).2 =
      (sendReady ctx s).bind (fun s => sendToPeer ctx input s.peerAddr s.len s.value) := by
    intro s
    unfold sendScanned sendReady
    split_ifs <;> rfl
  unfold handleTurnSend sendReached
  split_ifs
  · rfl
  · exact scanned _
  · rfl

theorem SendScan.data_step (attr : AttrRef)
    (seen : s.running = true → (s.len, s.value) = dataOf buf (refsOfType buf stunAttributeData refs))
    (running : (s.step ctx buf attr).running = true) :
    ((s.step ctx buf attr).len, (s.step ctx buf attr).value) =
      dataOf buf (refsOfType buf stunAttributeData (refs ++ [attr])) := by
  by_cases before : s.running = true
  · have data := seen before
    rw [step, if_pos before] at running ⊢
    simp only [body] at running ⊢
    by_cases isData : stunAttrGetType buf attr = stunAttributeData
    · rw [refsOfType_append_same isData]
      rw [isData] at running ⊢
      rw [if_neg (by decide), if_neg (by decide), if_neg (by decide), if_pos rfl, onData] at running ⊢
      split at running
      · -- a second DATA attribute ends the loop
        simp [SendScan.running, Scan.running, SendScan.fail, Scan.fail] at running
      · rename_i none
        rw [if_neg none]
        cases earlier : refsOfType buf stunAttributeData refs with
        | nil => rfl
        | cons first rest =>
          rw [earlier] at data
          have len := congrArg Prod.fst data
          dsimp only [dataOf] at len
          omega
    · rw [refsOfType_append_other isData]
      split
      · exact data
      · split
        · rw [onDontFragment]
          split <;> exact data
        · split
          · rw [onPeerAddress]
            split <;> exact data
          · exact data
  · rw [step, if_neg before] at running
    contradiction

theorem SendScan.data_foldl {rest : List AttrRef}
    (seen : s.running = true → (s.len, s.value) = dataOf buf (refsOfType buf stunAttributeData refs)) :
    (rest.foldl (step ctx buf) s).running = true →
      ((rest.foldl (step ctx buf) s).len, (rest.foldl (step ctx buf) s).value) =
        dataOf buf (refsOfType buf stunAttributeData (refs ++ rest)) := by
  induction rest generalizing refs s with
  | nil =>
    rw [List.append_nil]
    exact seen
  | cons attr rest later =>
    have split : refs ++ attr :: rest = refs ++ [attr] ++ rest := by simp
    rw [split]
    exact later (fun running => data_step attr seen running)

theorem sendReady_some {s' : SendScan} (ready : sendReady ctx s = some s') : s' = s ∧ s.running = true ∧ 0 ≤ s.len := by
  unfold sendReady at ready
  split_ifs at ready with errCode unknown found _
  have running : s.running = true := by
    simp [SendScan.running, Scan.running, not_not.mp errCode, not_not.mp unknown, maxNumberOfUnknownAttrs]
  exact ⟨(Option.some.inj ready).symm, running, found.2⟩

theorem sendLen_of_data (data : (s.len, s.value) = dataOf buf refs) (found : 0 ≤ s.len) :
    sendLen ctx s = (dataOf buf refs).1.toNat ∧ (dataOf buf refs).1.toNat < 2 ^ 16 := by
  cases refs with
  | nil =>
    have len : s.len = -1 := congrArg Prod.fst data
    omega
  | cons attr rest =>
    have len : s.len = stunAttrGetLen buf attr := congrArg Prod.fst data
    have value : s.value = stunAttrGetValue buf attr := congrArg Prod.snd data
    have bound : stunAttrGetLen buf attr < 2 ^ 16 := UInt16.toNat_lt _
    refine ⟨?_, bound⟩
    change sendLen ctx s = (stunAttrGetLen buf attr : Nat)
    unfold sendLen
    rw [len, value, stunAttrGetValue]
    by_cases empty : stunAttrGetLen buf attr < 1
    · have zero : stunAttrGetLen buf attr = 0 := by omega
      simp [zero]
    · have positive : (0 : Int) < stunAttrGetLen buf attr := by omega
      rw [if_neg empty]
      simp only [Option.isSome_some, positive, and_self, if_true, ite_self]

theorem sendReached_len (reached : sendReached ctx input = some s) :
    sendLen ctx s = sendDataLength input.nbh ∧ sendDataLength input.nbh < 2 ^ 16 := by
  unfold sendReached at reached
  split_ifs at reached
  obtain ⟨same, running, found⟩ := sendReady_some reached
  have data : ((sendScan ctx input.nbh).len, (sendScan ctx input.nbh).value) =
      dataOf (input.nbh.view input.nbh.data) (refsOfType (input.nbh.view input.nbh.data) stunAttributeData
        ([] ++ stunAttrs (input.nbh.view input.nbh.data) input.nbh.getSize)) :=
    SendScan.data_foldl (fun _ => rfl) running
  rw [List.nil_append] at data
  rw [same]
  exact sendLen_of_data data found

theorem addOffsetSize_len (b : StunBuffer) (offset coffset len : Nat) :
    (b.addOffsetSize offset coffset len).len = 0 ∨ (b.addOffsetSize offset coffset len).len = len % 2 ^ 64 := by
  simp only [StunBuffer.addOffsetSize]
  split_ifs
  · exact .inl rfl
  · exact .inr rfl

/-- What is added for ChannelData, of which the buffer is kept, is another number than the length of
its data. -/
theorem channel_miscounted (ctx : SendContext) (nbh : StunBuffer) (peerAddr : IoaAddr) {blen : Nat}
    (within : 4 ≤ blen) (small : blen < 2 ^ 17) :
    (sizeGivenBack (channelBuffer ctx peerAddr (nbh.setSize blen)) none) % 2 ^ 32 ≠ blen - 4 := by
  have size : (nbh.setSize blen).len = blen := Nat.mod_eq_of_lt (by omega)
  have getSize : ∀ b : StunBuffer, b.getSize = (b.len + 2 ^ 64 - 14) % 2 ^ 64 := fun _ => rfl
  unfold sizeGivenBack channelBuffer
  dsimp only
  split
  · rw [getSize]
    unfold cutToChannelData
    rcases addOffsetSize_len (nbh.setSize blen) (stunChannelHeaderLength + stunCustomHeaderLen) 0
      (sizeSub (nbh.setSize blen).getSize stunChannelHeaderLength) with reset | cut
    · rw [reset]
      omega
    · have header : stunChannelHeaderLength = 4 := rfl
      rw [cut, getSize, size, header, sizeSub]
      omega
  · rw [getSize, size]
    omega

theorem stunIsChannelMessageStr_length {n blen : Nat} {padding : Bool}
    (parsed : stunIsChannelMessageStr buf n padding = some (chnum, blen)) : blen = (net16 buf 2).toNat + 4 := by
  unfold stunIsChannelMessageStr at parsed
  dsimp only at parsed
  split_ifs at parsed
  exact (Prod.mk.inj (Option.some.inj parsed)).2.symm

theorem writeToPeerchannel_reached (ctx : SendContext) (chnum : UInt16) (input : NetData) :
    writeToPeerchannel ctx chnum input = (channelReached ctx chnum input).bind (sendToChannel ctx input) := by
  unfold writeToPeerchannel channelReached
  split_ifs
  · cases (allocationGetChInfo ctx.allocation chnum).bind ctx.allocation.chns.get with
    | none => rfl
    | some chn => rfl
  · rfl

theorem writeToPeerchannelStats_of_sent (sent : (writeToPeerchannel ctx chnum input).isSome = true) :
    ∃ peerAddr, writeToPeerchannelStats clock ctx chnum input false freed stats =
      countPeerSent clock stats (UInt32.ofNat (sizeGivenBack (channelBuffer ctx peerAddr input.nbh) freed)) := by
  rw [writeToPeerchannel_reached] at sent
  unfold writeToPeerchannelStats
  cases reached : channelReached ctx chnum input with
  | none =>
    rw [reached] at sent
    cases sent
  | some peerAddr => exact ⟨peerAddr, rfl⟩

theorem readChannelMessage_sent {message : Option (UInt16 × Nat)}
    (sent : (readChannelMessage ctx input message).isSome = true) :
    ∃ chnum blen, message = some (chnum, blen) ∧ ctx.isTcpRelay ≠ true ∧ blen ≤ input.nbh.getSize ∧
      (writeToPeerchannel ctx chnum { input with nbh := input.nbh.setSize blen }).isSome = true := by
  cases message with
  | none => cases sent
  | some message =>
    obtain ⟨chnum, blen⟩ := message
    rw [readChannelMessage] at sent
    split_ifs at sent with tcp covered
    · cases sent
    · exact ⟨chnum, blen, rfl, tcp, covered, sent⟩
    · cases sent

theorem readClientChannelStats_of_sent (sent : (readClientChannel ctx input).isSome = true) :
    ∃ peerAddr, readClientChannelStats clock ctx input false freed stats =
      countPeerSent clock stats (UInt32.ofNat (sizeGivenBack
        (channelBuffer ctx peerAddr (input.nbh.setSize (channelDataLength input.nbh + 4))) freed)) := by
  obtain ⟨chnum, blen, parsed, udp, covered, written⟩ := readChannelMessage_sent sent
  have length : channelDataLength input.nbh + 4 = blen := (stunIsChannelMessageStr_length parsed).symm
  obtain ⟨peerAddr, counted⟩ := writeToPeerchannelStats_of_sent clock freed stats written
  refine ⟨peerAddr, ?_⟩
  rw [readClientChannelStats, parsed, readChannelMessageStats, if_neg udp, if_pos covered, counted, length]

/-- Exact counting, with room in the totals for what was counted. -/
structure UsageKept (w : UsageWorld) : Prop where
  exact : CountedExactly w
  bytes : w.relayed.sum < 2 ^ 32
  packets : w.relayed.length < 2 ^ 32

theorem UsageKept.count (kept : UsageKept w) (clock : Clock) {d : Nat} {bytes : UInt32} (right : bytes.toNat = d)
    (roomBytes : w.relayed.sum + d < 2 ^ 32) (roomPackets : w.relayed.length + 1 < 2 ^ 32) :
    UsageKept ⟨countPeerSent clock w.stats bytes, w.relayed ++ [d]⟩ := by
  have sums := countPeerSent_sums clock w.stats bytes
    (by rw [kept.exact.bytes, right]; exact roomBytes) (by rw [kept.exact.packets]; exact roomPackets)
  rw [right, kept.exact.bytes, kept.exact.packets] at sums
  have sum : (w.relayed ++ [d]).sum = w.relayed.sum + d := by
    rw [List.sum_append_nat, List.sum_singleton]
  have length : (w.relayed ++ [d]).length = w.relayed.length + 1 := by
    rw [List.length_append, List.length_singleton]
  refine ⟨⟨?_, ?_⟩, ?_, ?_⟩
  · exact sums.1.trans sum.symm
  · exact sums.2.trans length.symm
  · exact sum.trans_lt roomBytes
  · exact length.trans_lt roomPackets

theorem UsageKept.send (kept : UsageKept w) {clock : Clock} (sent : (handleTurnSend ctx input).2.isSome = true)
    (fits : FitsCounters w (.send clock ctx input)) : UsageKept (usageStep w (.send clock ctx input)) := by
  rw [handleTurnSend_reached] at sent
  cases reached : sendReached ctx input with
  | none =>
    rw [reached] at sent
    cases sent
  | some s =>
    obtain ⟨len, small⟩ := sendReached_len reached
    have right : (UInt32.ofInt (sendLen ctx s)).toNat = sendDataLength input.nbh := by
      have whole : ((sendDataLength input.nbh : Int) % 2 ^ 32).toNat = sendDataLength input.nbh := by omega
      rw [len, UInt32.ofInt, whole]
      exact UInt32.toNat_ofNat_of_lt' (small.trans (by decide))
    have stats : handleTurnSendStats clock ctx input false w.stats =
        countPeerSent clock w.stats (UInt32.ofInt (sendLen ctx s)) := by
      rw [handleTurnSendStats, reached]
      rfl
    change UsageKept ⟨handleTurnSendStats clock ctx input false w.stats, w.relayed ++ [sendDataLength input.nbh]⟩
    rw [stats]
    exact kept.count clock right fits.1 fits.2

theorem UsageKept.report (kept : UsageKept w) (clock : Clock) (forceInvalid : Bool) :
    UsageKept (usageStep w (.report clock forceInvalid)) := by
  have sums := turnReportSessionUsage_sums clock w.stats forceInvalid
    (by rw [kept.exact.bytes]; exact kept.bytes) (by rw [kept.exact.packets]; exact kept.packets)
  refine ⟨⟨?_, ?_⟩, kept.bytes, kept.packets⟩
  · exact sums.1.trans kept.exact.bytes
  · exact sums.2.trans kept.exact.packets

theorem UsageKept.step (kept : UsageKept w) {e : UsageEvent} (enabled : usageMachine.enabled w e)
    (fits : FitsCounters w e) : UsageKept (usageStep w e) := by
  cases e with
  | send clock ctx input => exact kept.send enabled fits
  | channel clock ctx input freed => exact fits.elim
  | elsewhere stats =>
    have same : SamePeerSent w.stats stats := enabled
    refine ⟨⟨?_, ?_⟩, kept.bytes, kept.packets⟩
    · change stats.tPeerSentBytes.toNat + stats.peerSentBytes.toNat = _
      rw [same.tBytes, same.bytes]
      exact kept.exact.bytes
    · change stats.tPeerSentPackets.toNat + stats.peerSentPackets.toNat = _
      rw [same.tPackets, same.packets]
      exact kept.exact.packets
  | report clock forceInvalid => exact kept.report clock forceInvalid

theorem CountedExactly.broken (counted : CountedExactly w) {clock : Clock}
    (sent : (readClientChannel ctx input).isSome = true) :
    ¬ CountedExactly (usageStep w (.channel clock ctx input none)) := by
  intro after
  obtain ⟨peerAddr, stats⟩ := readClientChannelStats_of_sent clock none w.stats sent
  have bytes : (readClientChannelStats clock ctx input false none w.stats).tPeerSentBytes.toNat +
      (readClientChannelStats clock ctx input false none w.stats).peerSentBytes.toNat =
        (w.relayed ++ [channelDataLength input.nbh]).sum := after.bytes
  have small : channelDataLength input.nbh < 2 ^ 16 := UInt16.toNat_lt _
  have sum : (w.relayed ++ [channelDataLength input.nbh]).sum = w.relayed.sum + channelDataLength input.nbh := by
    rw [List.sum_append_nat, List.sum_singleton]
  have wrapped := countPeerSent_bytes_mod clock w.stats (UInt32.ofNat (sizeGivenBack
    (channelBuffer ctx peerAddr (input.nbh.setSize (channelDataLength input.nbh + 4))) none))
  rw [stats, sum] at bytes
  rw [bytes, counted.bytes, UInt32.toNat_ofNat'] at wrapped
  have differs := channel_miscounted ctx input.nbh peerAddr
    (show 4 ≤ channelDataLength input.nbh + 4 by omega) (by omega)
  omega

theorem peer_traffic_counted {w : UsageWorld} (reach : usageMachine.Reach FitsCounters w) :
    CountedExactly w ∧ ∀ clock ctx input, (readClientChannel ctx input).isSome = true →
      ¬ CountedExactly (usageStep w (.channel clock ctx input none)) := by
  have kept : UsageKept w := by
    refine reach.invariant ?_ ?_
    · rintro s rfl
      exact ⟨⟨rfl, rfl⟩, by decide, by decide⟩
    · intro s s' e o kept enabled fits run
      have next := congrArg Prod.fst (Option.some.inj run)
      dsimp only at next
      rw [← next]
      exact kept.step enabled fits
  exact ⟨kept.exact, fun clock ctx input sent => kept.exact.broken sent⟩

/-- A Send indication with fourteen bytes. -/
theorem peer_traffic_counted_send : ∃ w, usageMachine.Reach FitsCounters w ∧ w.relayed = [14] ∧ CountedExactly w := by
  have sent : usageMachine.enabled ⟨.zero, []⟩ (.send ⟨0, 0⟩ hostContext (sendArrives longData)) := by
    change (handleTurnSend hostContext (sendArrives longData)).2.isSome = true
    decide +kernel
  have fits : FitsCounters ⟨.zero, []⟩ (.send ⟨0, 0⟩ hostContext (sendArrives longData)) := by
    have length : sendDataLength (sendArrives longData).nbh = 14 := by decide +kernel
    refine ⟨?_, by decide⟩
    rw [length]
    decide
  have reach : usageMachine.Reach FitsCounters
      (usageStep ⟨.zero, []⟩ (.send ⟨0, 0⟩ hostContext (sendArrives longData))) :=
    .next (.start rfl) sent fits rfl
  exact ⟨_, reach, by decide +kernel, (peer_traffic_counted reach).1⟩

/-- ChannelData with five bytes for a local peer adds five minus twenty-eight. -/
theorem channel_data_counted_negative : ¬ ∀ w, usageMachine.Reach (fun _ _ => True) w → CountedExactly w := by
  intro counted
  have sent : usageMachine.enabled ⟨.zero, []⟩ (.channel ⟨0, 0⟩ boundContext paddedArrives none) := by
    change (readClientChannel boundContext paddedArrives).isSome = true
    decide +kernel
  have reach : usageMachine.Reach (fun _ _ => True)
      (usageStep ⟨.zero, []⟩ (.channel ⟨0, 0⟩ boundContext paddedArrives none)) :=
    .next (.start rfl) sent trivial rfl
  have bytes := (counted _ reach).bytes
  have added : (readClientChannelStats ⟨0, 0⟩ boundContext paddedArrives false none .zero).peerSentBytes =
      4294967273 := by decide +kernel
  have total : (readClientChannelStats ⟨0, 0⟩ boundContext paddedArrives false none .zero).tPeerSentBytes = 0 := by
    decide +kernel
  have length : channelDataLength paddedArrives.nbh = 5 := by decide +kernel
  change (readClientChannelStats ⟨0, 0⟩ boundContext paddedArrives false none .zero).tPeerSentBytes.toNat +
    (readClientChannelStats ⟨0, 0⟩ boundContext paddedArrives false none .zero).peerSentBytes.toNat =
      ([] ++ [channelDataLength paddedArrives.nbh]).sum at bytes
  rw [added, total, length] at bytes
  exact absurd bytes (by decide)

end Server
end TurnCluster
