import TurnCluster.Server.PeerBytes

namespace TurnCluster
namespace Server

open StunCustomHeader

/-- What a relayed datagram holds behind its custom header. -/
inductive Wrapping
  | plain
  | channel
  | send (value : Nat)

/-- How `peer_input_handler` reads the `n` bytes of a datagram, with whatever lies behind them. -/
def wrapping (received : Memory) (n : Nat) : Wrapping :=
  let payload := received.shift stunCustomHeaderLen
  let payloadLen := sizeSub n stunCustomHeaderLen
  if (read received).identifier = customDataIdentifier then
    if isChannelMsgStr payload payloadLen = true then .channel
    else
      match sendValue payload payloadLen with
      | none => .plain
      | some value => .send value
  else .plain

/-- Length of a DATA value, as its attribute announces it. -/
def sendLength (received : Memory) (value : Nat) : Nat :=
  (net16 (received.shift stunCustomHeaderLen) (value - 2)).toNat

/-- Copies stay within the `n` received bytes, and the application data of the
frame is a contiguous part of them. -/
structure WithinReceived (received : Memory) (n : Nat) (result : PeerResult) : Prop where
  copies : ∀ len ∈ result.copies, len ≤ n
  application : ∀ frame, result.frame = some frame → ∃ place, place + frame.appLen ≤ n ∧
    ∀ j < frame.appLen, frame.nbh.mem.origin (frame.appPos + j) = some (place + j) ∧
      frame.nbh.mem.byte (frame.appPos + j) = received (place + j)

/-- The handler does not turn the datagram away before it looks at it. -/
def Handled (ctx : PeerContext) (recvTtl : Nat) : Prop :=
  recvTtl ≠ 0 ∧ ctx.relaySocketToBeClosed = false ∧ ctx.sessionToBeClosed = false ∧
    ctx.clientSocketOpen = true ∧ ctx.relaySessionOpen = true ∧ ctx.allocation.isValid = true

/-- A plain datagram must not come from a peer with a channel, a wrapped one must
not be shorter than its custom header, unless nothing is sent for it. -/
def StaysWithin (ctx : PeerContext) (received : Memory) (n : Nat) (srcAddr : IoaAddr) : Prop :=
  let src := adjustSrcAddr (.received received n) srcAddr
  match wrapping received n with
  | .plain => ∀ tinfo, allocationGetPermission ctx.allocation src = some tinfo →
      getTurnChannelNumber ctx.allocation tinfo src = 0
  | .channel => stunCustomHeaderLen ≤ n
  | .send value => stunCustomHeaderLen ≤ n ∨ sendLength received value ≤ n ∧
      allocationGetPermission ctx.allocation src = none ∧ ctx.serverRelay = false

theorem received_view (received : Memory) (n k : Nat) :
    (StunBuffer.received received n).view (4 + k) = received.shift k := by
  funext i
  show received (4 + k + i - 4) = received (k + i)
  congr 1
  omega

theorem adjust_received (received : Memory) (n : Nat) (srcAddr : IoaAddr) (ilen : Int) :
    adjust (.received received n) srcAddr ilen =
      match wrapping received n with
      | .plain => ⟨.received received n, adjustSrcAddr (.received received n) srcAddr, 0, ilen, []⟩
      | .channel => unwrapChannel (.received received n) (adjustSrcAddr (.received received n) srcAddr)
      | .send value => unwrapSend (.received received n) (adjustSrcAddr (.received received n) srcAddr) value := by
  have front : (StunBuffer.received received n).view (StunBuffer.received received n).dataOrigin = received :=
    received_view received n 0 |>.trans (funext fun i => by rw [Memory.shift_apply, Nat.zero_add])
  have payload : (StunBuffer.received received n).view (StunBuffer.received received n).data =
      received.shift stunCustomHeaderLen := received_view received n 14
  have size : (StunBuffer.received received n).getSize = sizeSub n stunCustomHeaderLen := rfl
  unfold adjust wrapping adjustData
  rw [front, payload, size]
  dsimp only
  by_cases relayed : (read received).identifier = customDataIdentifier
  · rw [if_pos relayed, if_pos relayed]
    split
    · rfl
    · cases sendValue (received.shift stunCustomHeaderLen) (sizeSub n stunCustomHeaderLen) <;> rfl
  · rw [if_neg relayed, if_neg relayed]
    have own : adjustSrcAddr (.received received n) srcAddr = srcAddr := by
      unfold adjustSrcAddr
      rw [front]
      exact if_neg relayed
    rw [own]

variable (ctx : PeerContext) {received : Memory} (input : NetData) {n : Nat} {a : Adjusted} {len value : Nat}

theorem peerFrame_carries (prepared : Prepared received a len) (chnum : UInt16) :
    ∃ frame, peerFrame ctx input a chnum =
        ⟨a.copies ++ [if chnum ≠ 0 then a.nbh.len + 4 else len], some frame⟩ ∧
      frame.appLen = len ∧ Carries received a frame.nbh frame.appPos len := by
  unfold peerFrame
  by_cases bound : chnum ≠ 0
  · obtain ⟨copied, carries⟩ := channelFrame_carries ctx prepared chnum
    rw [if_pos bound, if_pos bound, ← copied]
    refine ⟨_, rfl, ?_, carries⟩
    rw [prepared.ilen]
    exact Int.toNat_natCast len
  · obtain ⟨copied, carries⟩ := indicationFrame_carries ctx prepared
    rw [if_neg bound, if_neg bound]
    exact ⟨_, by rw [← copied], copied, carries⟩

/-- Data that came in behind `place` is sent as it came. -/
theorem WithinReceived.of_prepared (prepared : Prepared received a len) (place : Nat)
    (origin : ∀ j < len, a.nbh.mem.origin (4 + j) = some (place + j)) (fits : place + len ≤ n)
    (copies : ∀ copied ∈ a.copies, copied ≤ n) {chnum : UInt16} (channel : chnum ≠ 0 → a.nbh.len + 4 ≤ n) :
    WithinReceived received n (peerFrame ctx input a chnum) := by
  obtain ⟨frame, made, appLen, carries⟩ := peerFrame_carries ctx input prepared chnum
  rw [made]
  constructor
  · intro copied member
    rcases List.mem_append.mp member with earlier | last
    · exact copies copied earlier
    · rw [List.mem_singleton.mp last]
      by_cases bound : chnum ≠ 0
      · rw [if_pos bound]
        exact channel bound
      · rw [if_neg bound]
        omega
  · intro sent same
    cases same
    refine ⟨place, by omega, ?_⟩
    rw [appLen]
    intro j inside
    have traced := carries.origin j inside
    rw [prepared.dataOrigin, origin j inside] at traced
    exact ⟨traced, carries.sound _ _ traced⟩

theorem not_withinReceived_of_prepared {place : Nat} (prepared : Prepared received a len)
    (origin : a.nbh.mem.origin 4 = some place) (some : 0 < len) (beyond : n ≤ place) (chnum : UInt16) :
    ¬ WithinReceived received n (peerFrame ctx input a chnum) := by
  intro within
  obtain ⟨frame, made, appLen, carries⟩ := peerFrame_carries ctx input prepared chnum
  rw [made] at within
  obtain ⟨place', fits, traced⟩ := within.application frame rfl
  rw [appLen] at fits traced
  have first := (traced 0 some).1.symm.trans (carries.origin 0 some)
  rw [prepared.dataOrigin] at first
  have same : place' = place := Option.some.inj (first.trans origin)
  omega

theorem plain_prepared (received : Memory) (small : n ≤ udpStunBufferSize) (src : IoaAddr) :
    Prepared received ⟨.received received n, src, 0,
      min (intOfSize (StunBuffer.received received n).getSizeOrigin)
        (udpStunBufferSize - stunChannelHeaderLength : Nat), []⟩ (min n 16380) := by
  have capacity : udpStunBufferSize = 16384 := rfl
  have size : intOfSize n = n := intOfSize_of_small (by omega)
  refine ⟨?_, Nat.min_le_left _ _, small, rfl, rfl, .input received _⟩
  show min (intOfSize n) (16380 : Nat) = _
  rw [size]
  omega

theorem received_origin (received : Memory) (n place : Nat) :
    (StunBuffer.received received n).mem.origin (4 + place) = some place := by
  have inside : 4 ≤ 4 + place := Nat.le_add_right 4 place
  show (if 4 ≤ 4 + place then some (4 + place - 4) else none) = some place
  rw [if_pos inside, Nat.add_sub_cancel_left]

/-- Both ways to unwrap move `len` bytes to the front. -/
theorem unwrapped_prepared {spos : Nat} (small : len ≤ udpStunBufferSize)
    (moved : a.nbh = ((StunBuffer.received received n).move 4 spos len).addOffsetSize 0 0 len) (ilen : a.ilen = len) :
    Prepared received a len ∧ a.nbh.len = len ∧
      ∀ j < len, a.nbh.mem.origin (4 + j) = (StunBuffer.received received n).mem.origin (spos + j) := by
  have capacity : udpStunBufferSize = 16384 := rfl
  have space : stunBufferSize = 65507 := rfl
  have sound : (StunBuffer.received received n).mem.Sound received := .input received _
  rw [addOffsetSize_fits rfl rfl (Nat.zero_le 4) (Nat.zero_le len) (by omega)] at moved
  refine ⟨⟨ilen, ?_, ?_, ?_, ?_, ?_⟩, ?_, ?_⟩
  all_goals rw [moved]
  · exact small
  · exact sound.copy sound _ _ _
  · intro j inside
    exact Traced.copy_origin_inside inside

theorem wrapping_channel (wrapped : wrapping received n = .channel) : 4 ≤ sizeSub n stunCustomHeaderLen := by
  unfold wrapping at wrapped
  dsimp only at wrapped
  split at wrapped
  · split at wrapped
    · rename_i channel
      unfold isChannelMsgStr at channel
      rw [Bool.and_eq_true] at channel
      exact of_decide_eq_true channel.1
    · split at wrapped <;> cases wrapped
  · cases wrapped

theorem wrapping_send (wrapped : wrapping received n = .send value) :
    sendValue (received.shift stunCustomHeaderLen) (sizeSub n stunCustomHeaderLen) = some value := by
  unfold wrapping at wrapped
  dsimp only at wrapped
  split at wrapped
  · split at wrapped
    · cases wrapped
    · split at wrapped
      · cases wrapped
      · cases wrapped
        assumption
  · cases wrapped

theorem sendValue_within {payload : Memory} {payloadLen : Nat} (found : sendValue payload payloadLen = some value) :
    0 < (net16 payload (value - 2)).toNat ∧ value + (net16 payload (value - 2)).toNat ≤ payloadLen := by
  unfold sendValue firstData at found
  split at found
  · split at found
    · cases found
    · rename_i attr first
      have within := stunAttrs_within (List.mem_of_find?_eq_some first)
      unfold stunAttrGetValue at found
      split at found
      · cases found
      · rename_i nonempty
        cases found
        exact ⟨Nat.lt_of_not_le fun empty => nonempty (Nat.lt_succ_of_le empty), within⟩
  · cases found

theorem sendLength_within (small : n ≤ udpStunBufferSize) (wrapped : wrapping received n = .send value) :
    0 < sendLength received value ∧
      (stunCustomHeaderLen ≤ n → stunCustomHeaderLen + value + sendLength received value ≤ n) := by
  obtain ⟨positive, within⟩ := sendValue_within (wrapping_send wrapped)
  refine ⟨positive, fun long => ?_⟩
  have capacity : udpStunBufferSize = 16384 := rfl
  rw [sizeSub_of_le long (by omega)] at within
  unfold sendLength
  omega

/-- A short datagram that looks like ChannelData makes the length wrap. -/
theorem channel_copies (small : n ≤ udpStunBufferSize) (wrapped : wrapping received n = .channel) :
    (stunCustomHeaderLen ≤ n → sizeSub (sizeSub n stunCustomHeaderLen) stunChannelHeaderLength = n - 18 ∧ 18 ≤ n) ∧
      (n < stunCustomHeaderLen → n < sizeSub (sizeSub n stunCustomHeaderLen) stunChannelHeaderLength) := by
  have header := wrapping_channel wrapped
  have capacity : udpStunBufferSize = 16384 := rfl
  have custom : stunCustomHeaderLen = 14 := rfl
  have channel : stunChannelHeaderLength = 4 := rfl
  rw [custom] at header ⊢
  rw [channel]
  unfold sizeSub at *
  omega

/-- What the handler does once the datagram is unwrapped. -/
def answer (ctx : PeerContext) (input : NetData) (a : Adjusted) : PeerResult :=
  match allocationGetPermission ctx.allocation a.srcAddr with
  | some tinfo => peerFrame ctx input a (getTurnChannelNumber ctx.allocation tinfo a.srcAddr)
  | none => if ctx.serverRelay then peerFrame ctx input a a.chnum else ⟨a.copies, none⟩

theorem peerInputHandler_unhandled {ctx : PeerContext} {input : NetData} (unhandled : ¬ Handled ctx input.recvTtl) :
    peerInputHandler ctx input = ⟨[], none⟩ := by
  unfold peerInputHandler
  dsimp only
  split
  · rfl
  · rename_i open'
    split
    · rfl
    · rename_i valid
      refine absurd ?_ unhandled
      simp only [not_or, Bool.not_eq_true, Bool.not_eq_false] at open' valid
      obtain ⟨ttl, relay, session, client, relaySession⟩ := open'
      exact ⟨ttl, relay, session, client, relaySession, valid.2⟩

theorem peerInputHandler_handled {ctx : PeerContext} {srcAddr : IoaAddr} {recvTtl recvTos : Nat}
    (small : n ≤ udpStunBufferSize) (handled : Handled ctx recvTtl) :
    peerInputHandler ctx ⟨.received received n, srcAddr, recvTtl, recvTos⟩ =
      answer ctx ⟨.received received n, srcAddr, recvTtl, recvTos⟩
        (adjust (.received received n) srcAddr (min (intOfSize (StunBuffer.received received n).getSizeOrigin)
          (udpStunBufferSize - stunChannelHeaderLength : Nat))) := by
  obtain ⟨ttl, relay, session, client, relaySession, valid⟩ := handled
  have size := (plain_prepared received small srcAddr).ilen
  unfold peerInputHandler
  dsimp only at size ⊢
  rw [if_neg (by simp [ttl, relay, session, client, relaySession]), size, if_neg (by simp [valid])]
  rfl

theorem WithinReceived.silent {copies : List Nat} (within : ∀ len ∈ copies, len ≤ n) :
    WithinReceived received n ⟨copies, none⟩ :=
  ⟨within, fun _ sent => nomatch sent⟩

theorem WithinReceived.answer {ctx : PeerContext} {input : NetData}
    (framed : ∀ chnum, WithinReceived received n (peerFrame ctx input a chnum)) (copies : ∀ len ∈ a.copies, len ≤ n) :
    WithinReceived received n (answer ctx input a) := by
  unfold Server.answer
  split
  · exact framed _
  · split
    · exact framed _
    · exact .silent copies

theorem answer_copies {ctx : PeerContext} {input : NetData} (member : len ∈ a.copies) :
    len ∈ (answer ctx input a).copies := by
  have framed (chnum : UInt16) : len ∈ (peerFrame ctx input a chnum).copies := by
    unfold peerFrame
    split <;> exact List.mem_append_left _ member
  unfold answer
  split
  · exact framed _
  · split
    · exact framed _
    · exact member

theorem plain_within_iff (small : n ≤ udpStunBufferSize) (src : IoaAddr) :
    WithinReceived received n (answer ctx input ⟨.received received n, src, 0,
        min (intOfSize (StunBuffer.received received n).getSizeOrigin)
          (udpStunBufferSize - stunChannelHeaderLength : Nat), []⟩) ↔
      ∀ tinfo, allocationGetPermission ctx.allocation src = some tinfo →
        getTurnChannelNumber ctx.allocation tinfo src = 0 := by
  have prepared := plain_prepared received small src
  have indication : WithinReceived received n (peerFrame ctx input ⟨.received received n, src, 0,
      min (intOfSize (StunBuffer.received received n).getSizeOrigin)
        (udpStunBufferSize - stunChannelHeaderLength : Nat), []⟩ 0) := by
    refine .of_prepared ctx input prepared 0 ?_ (by omega) (by simp) (fun bound => absurd rfl bound)
    intro j inside
    rw [received_origin, Nat.zero_add]
  constructor
  · intro within tinfo found
    by_contra bound
    obtain ⟨frame, made, -, -⟩ := peerFrame_carries ctx input prepared
      (getTurnChannelNumber ctx.allocation tinfo src)
    have copied : n + 4 ≤ n := by
      refine within.copies _ ?_
      unfold answer
      rw [found]
      dsimp only
      rw [made, if_pos bound]
      exact List.mem_append_right _ (List.mem_singleton.mpr rfl)
    omega
  · intro unbound
    unfold answer
    split
    · rename_i tinfo found
      rw [unbound tinfo found]
      exact indication
    · split
      · exact indication
      · exact .silent (by simp)

theorem unwrapChannel_moved {received : Memory} {n len : Nat} (src : IoaAddr)
    (size : sizeSub (sizeSub n stunCustomHeaderLen) stunChannelHeaderLength = len) :
    (unwrapChannel (.received received n) src).nbh =
        ((StunBuffer.received received n).move 4 22 len).addOffsetSize 0 0 len ∧
      (unwrapChannel (.received received n) src).ilen = intOfSize len := by
  have payload : (StunBuffer.received received n).getSize = sizeSub n stunCustomHeaderLen := rfl
  have front : (StunBuffer.received received n).dataOrigin = 4 := rfl
  have data : (StunBuffer.received received n).data + stunChannelHeaderLength = 22 := rfl
  unfold unwrapChannel
  dsimp only
  rw [payload, size, front, data]
  exact ⟨rfl, rfl⟩

theorem channel_within_iff (small : n ≤ udpStunBufferSize) (src : IoaAddr) (wrapped : wrapping received n = .channel) :
    WithinReceived received n (answer ctx input (unwrapChannel (.received received n) src)) ↔
      stunCustomHeaderLen ≤ n := by
  obtain ⟨long, short⟩ := channel_copies small wrapped
  have made : (unwrapChannel (.received received n) src).copies =
      [sizeSub (sizeSub n stunCustomHeaderLen) stunChannelHeaderLength] := rfl
  constructor
  · intro within
    by_contra cut
    have copied := within.copies _ (answer_copies (made ▸ List.mem_singleton.mpr rfl))
    have wraps := short (Nat.lt_of_not_le cut)
    omega
  · intro whole
    obtain ⟨size, header⟩ := long whole
    have capacity : udpStunBufferSize = 16384 := rfl
    have length : intOfSize (n - 18) = (n - 18 : Nat) := intOfSize_of_small (by omega)
    obtain ⟨moved, ilen⟩ := unwrapChannel_moved src size
    rw [length] at ilen
    obtain ⟨prepared, nbhLen, origin⟩ := unwrapped_prepared (by omega) moved ilen
    have copies : ∀ len ∈ (unwrapChannel (.received received n) src).copies, len ≤ n := by
      intro len member
      rw [made, size] at member
      rw [List.mem_singleton.mp member]
      omega
    refine .answer (fun chnum => ?_) copies
    refine .of_prepared ctx input prepared 18 ?_ (by omega) copies (fun _ => by omega)
    intro j inside
    rw [origin j inside, show 22 + j = 4 + (18 + j) by omega, received_origin]

theorem unwrapSend_moved (received : Memory) (n value : Nat) (src : IoaAddr) :
    (unwrapSend (.received received n) src value).nbh =
        ((StunBuffer.received received n).move 4 (18 + value) (sendLength received value)).addOffsetSize 0 0
          (sendLength received value) ∧
      (unwrapSend (.received received n) src value).ilen = sendLength received value ∧
      (unwrapSend (.received received n) src value).copies = [sendLength received value] := by
  have front : (StunBuffer.received received n).dataOrigin = 4 := rfl
  have data : (StunBuffer.received received n).data = 18 := rfl
  have payload : (StunBuffer.received received n).view 18 = received.shift stunCustomHeaderLen :=
    received_view received n 14
  unfold unwrapSend sendLength
  dsimp only
  rw [data, front, payload]
  exact ⟨rfl, rfl, rfl⟩

theorem send_within_iff (small : n ≤ udpStunBufferSize) (wrapped : wrapping received n = .send value)
    (moved : a.nbh = ((StunBuffer.received received n).move 4 (18 + value) (sendLength received value)).addOffsetSize
      0 0 (sendLength received value)) (ilen : a.ilen = sendLength received value)
    (copied : a.copies = [sendLength received value]) :
    WithinReceived received n (answer ctx input a) ↔
      stunCustomHeaderLen ≤ n ∨ sendLength received value ≤ n ∧
        allocationGetPermission ctx.allocation a.srcAddr = none ∧ ctx.serverRelay = false := by
  obtain ⟨positive, inside⟩ := sendLength_within small wrapped
  have copies (short : sendLength received value ≤ n) : ∀ len ∈ a.copies, len ≤ n := by
    intro len member
    rw [copied] at member
    rw [List.mem_singleton.mp member]
    exact short
  have origin (short : sendLength received value ≤ n) (j : Nat) (below : j < sendLength received value) :
      a.nbh.mem.origin (4 + j) = some (14 + value + j) := by
    rw [(unwrapped_prepared (short.trans small) moved ilen).2.2 j below,
      show 18 + value + j = 4 + (14 + value + j) by omega, received_origin]
  constructor
  · intro within
    by_cases whole : stunCustomHeaderLen ≤ n
    · exact Or.inl whole
    · have short : sendLength received value ≤ n :=
        within.copies _ (answer_copies (copied ▸ List.mem_singleton.mpr rfl))
      have prepared := (unwrapped_prepared (short.trans small) moved ilen).1
      have stale : n ≤ 14 + value := by
        rw [show stunCustomHeaderLen = 14 from rfl] at whole
        omega
      have outside := not_withinReceived_of_prepared ctx input prepared (origin short 0 positive) positive stale
      unfold answer at within
      refine Or.inr ⟨short, ?_, ?_⟩
      · cases found : allocationGetPermission ctx.allocation a.srcAddr with
        | none => rfl
        | some tinfo =>
          rw [found] at within
          exact absurd within (outside _)
      · cases relay : ctx.serverRelay with
        | false => rfl
        | true =>
          rw [relay] at within
          split at within
          · exact absurd within (outside _)
          · exact absurd within (outside _)
  · rintro (whole | ⟨short, unpermitted, noRelay⟩)
    · have fits := inside whole
      rw [show stunCustomHeaderLen = 14 from rfl] at fits
      have short : sendLength received value ≤ n := by omega
      obtain ⟨prepared, nbhLen, -⟩ := unwrapped_prepared (short.trans small) moved ilen
      refine .answer (fun chnum => ?_) (copies short)
      exact .of_prepared ctx input prepared (14 + value) (origin short) fits (copies short) (fun _ => by omega)
    · unfold answer
      rw [unpermitted, noRelay]
      exact .silent (copies short)

/-- The copies and the application data stay within the `n` bytes that came in
exactly when the datagram is one that the handler takes the length of right. -/
theorem peer_bytes_within_received_iff (ctx : PeerContext) (received : Memory) {n : Nat}
    (small : n ≤ udpStunBufferSize) (srcAddr : IoaAddr) (recvTtl recvTos : Nat) :
    WithinReceived received n (peerInputHandler ctx ⟨.received received n, srcAddr, recvTtl, recvTos⟩) ↔
      (Handled ctx recvTtl → StaysWithin ctx received n srcAddr) := by
  by_cases handled : Handled ctx recvTtl
  · rw [peerInputHandler_handled small handled, adjust_received]
    unfold StaysWithin
    dsimp only
    refine Iff.trans ?_ ⟨fun stays _ => stays, fun stays => stays handled⟩
    split
    · exact plain_within_iff ctx _ small _
    · rename_i wrapped
      exact channel_within_iff ctx _ small _ wrapped
    · rename_i wrapped
      obtain ⟨moved, ilen, copied⟩ := unwrapSend_moved received n _ (adjustSrcAddr (.received received n) srcAddr)
      exact send_within_iff ctx _ small wrapped moved ilen copied
  · rw [peerInputHandler_unhandled handled]
    exact ⟨fun _ held => absurd held handled, fun _ => .silent (by simp)⟩

/-- The permitted peer also has channel 0x4000, for its port 4000. -/
def oneChannel : Allocation :=
  { onePermission with
    addrToPerm := Function.update initAllocation.addrToPerm (permissionRow permittedPeer)
      [{ TurnPermissionInfo.zero with
          allocated := true, addr := permittedPeer, chns := ((LmMap.empty SlotRef).put 4000 ⟨0, 0⟩).2 }, .zero, .zero]
    chns := Function.update initAllocation.chns 0
      [{ ChInfo.zero with chnum := 0x4000, allocated := true }, .zero, .zero] }

def channelContext : PeerContext := { exampleContext with allocation := oneChannel }

def channelPeer : IoaAddr := .inet 0x0900000A (nswap16 4000)

/-- Three bytes from a peer without a channel, for which the condition holds. -/
theorem peer_bytes_within_received_iff_stranger :
    3 ≤ udpStunBufferSize ∧
      (WithinReceived (.ofList [1, 2, 3]) 3
          (peerInputHandler exampleContext ⟨.received (.ofList [1, 2, 3]) 3, strangerAddr, 64, 0⟩) ↔
        (Handled exampleContext 64 → StaysWithin exampleContext (.ofList [1, 2, 3]) 3 strangerAddr)) :=
  ⟨by decide, peer_bytes_within_received_iff exampleContext (.ofList [1, 2, 3]) (by decide) strangerAddr 64 0⟩

/-- Three bytes from a peer with a channel: seven are copied. -/
theorem bound_channel_copies_past_datagram :
    ¬ ∀ (ctx : PeerContext) (received : Memory) (n : Nat) (srcAddr : IoaAddr) (recvTtl recvTos : Nat),
      2 ≤ n → n ≤ udpStunBufferSize →
        WithinReceived received n (peerInputHandler ctx ⟨.received received n, srcAddr, recvTtl, recvTos⟩) := by
  intro claimed
  have within := claimed channelContext (.ofList [1, 2, 3]) 3 channelPeer 64 0 (by decide) (by decide)
  have copied : (peerInputHandler channelContext
      ⟨.received (.ofList [1, 2, 3]) 3, channelPeer, 64, 0⟩).copies = [7] := by decide +kernel
  have bound := within.copies 7 (copied ▸ List.mem_singleton.mpr rfl)
  omega

end Server
end TurnCluster
