import TurnCluster.Proxy.Frames

namespace TurnCluster
namespace Proxy

open StunCustomHeader

/-- From `st` to `st'` at most one request was written; the routing tables are the same. -/
def OnlyRequestRecorded (st st' : State) : Prop :=
  st'.mapPeerInfo = st.mapPeerInfo ∧ st'.mapLocalRemote = st.mapLocalRemote ∧
    st'.mapAllocInfo = st.mapAllocInfo ∧
    (st'.mapRequests = st.mapRequests ∨
      ∃ tid request, st'.mapRequests = Function.update st.mapRequests tid (some request))

/-- The frames whose handling writes to the tables: every Allocate success, an
answer to a pending CreatePermission, and a release of a known relay. -/
def TouchesTables (st : State) (buf : Memory) (n : Nat) : Prop :=
  match frameKind buf n with
  | .allocateSuccess => True
  | .permissionSuccess => (st.mapRequests (frameTid buf)).isSome
  | .permissionError => (st.mapRequests (frameTid buf)).isSome
  | .release => (st.mapLocalRemote (releaseKey buf)).isSome
  | _ => False

theorem OnlyRequestRecorded.refl (st : State) : OnlyRequestRecorded st st :=
  ⟨rfl, rfl, rfl, Or.inl rfl⟩

variable {st : State} {srcport : UInt16} (cfg : Config) {buf : Memory} {tid : List UInt8}

theorem OnlyRequestRecorded.keeps {st' : State} (recorded : OnlyRequestRecorded st st')
    (pending : (st.mapRequests tid).isSome) : (st'.mapRequests tid).isSome := by
  obtain ⟨_, _, _, same | ⟨other, request, written⟩⟩ := recorded
  · rw [same]
    exact pending
  · rw [written]
    by_cases here : tid = other
    · simp [here]
    · rw [Function.update_of_ne here]
      exact pending

theorem installPermission_requests (st : State) (tid : List UInt8) (request : RequestInfo) :
    (installPermission st tid request).mapRequests = Function.update st.mapRequests tid none := by
  unfold installPermission
  dsimp only
  split <;> rfl

theorem settlePermission_of_pending (pending : (st.mapRequests tid).isSome) :
    (settlePermission st tid).mapRequests tid = none := by
  obtain ⟨request, found⟩ := Option.isSome_iff_exists.mp pending
  simp [settlePermission, found, installPermission_requests]

theorem settlePermission_of_unknown (unknown : ¬ (st.mapRequests tid).isSome) : settlePermission st tid = st := by
  unfold settlePermission
  rw [Option.not_isSome_iff_eq_none.mp unknown]

theorem forgetRequest_of_unknown (unknown : ¬ (st.mapRequests tid).isSome) : forgetRequest st tid = st := by
  unfold forgetRequest
  rw [← Option.not_isSome_iff_eq_none.mp unknown, Function.update_eq_self]

theorem releaseRelay_of_unknown (unknown : ¬ (st.mapLocalRemote (releaseKey buf)).isSome) :
    releaseRelay st (read buf) = st := by
  have missing := Option.not_isSome_iff_eq_none.mp unknown
  unfold releaseKey at missing
  unfold releaseRelay
  simp only [missing]

theorem releaseRelay_of_known (known : (st.mapLocalRemote (releaseKey buf)).isSome) :
    (releaseRelay st (read buf)).mapLocalRemote (releaseKey buf) = none := by
  obtain ⟨peer, found⟩ := Option.isSome_iff_exists.mp known
  unfold releaseKey at found
  unfold releaseRelay
  simp only [found]
  exact Function.update_self ..

theorem handlePacketFromCoturn_recorded_iff (st : State) (buf : Memory) (n : Nat) :
    (∃ st' sends, handlePacketFromCoturn cfg st buf n = some (st', sends) ∧
      OnlyRequestRecorded st st') ↔ ¬ TouchesTables st buf n := by
  rw [handlePacketFromCoturn_eq]
  unfold TouchesTables
  cases kind : frameKind buf n with
  | allocateSuccess =>
    simp only [not_true_eq_false, iff_false, not_exists, not_and]
    intro st' sends run recorded
    by_cases taken : (st.mapAllocInfo (mappedKey buf n)).isSome
    · simp [taken] at run
    · simp only [taken, Bool.false_eq_true, if_false, Option.some.injEq, Prod.mk.injEq] at run
      have same := congrFun recorded.2.2.1 (mappedKey buf n)
      rw [← run.1] at same
      simp only [recordAllocation, Function.update_self] at same
      rw [← same] at taken
      exact taken rfl
  | permissionSuccess =>
    simp only [Option.some.injEq, Prod.mk.injEq]
    constructor
    · rintro ⟨st', sends, ⟨rfl, rfl⟩, recorded⟩ pending
      have kept := recorded.keeps pending
      rw [settlePermission_of_pending pending] at kept
      cases kept
    · intro unknown
      exact ⟨_, _, ⟨rfl, rfl⟩, by rw [settlePermission_of_unknown unknown]; exact .refl st⟩
  | permissionError =>
    simp only [Option.some.injEq, Prod.mk.injEq]
    constructor
    · rintro ⟨st', sends, ⟨rfl, rfl⟩, recorded⟩ pending
      have kept := recorded.keeps pending
      simp [forgetRequest] at kept
    · intro unknown
      exact ⟨_, _, ⟨rfl, rfl⟩, by rw [forgetRequest_of_unknown unknown]; exact .refl st⟩
  | release =>
    simp only [Option.some.injEq, Prod.mk.injEq]
    constructor
    · rintro ⟨st', sends, ⟨rfl, rfl⟩, recorded⟩ known
      have gone := releaseRelay_of_known known
      rw [recorded.2.1] at gone
      rw [gone] at known
      cases known
    · intro unknown
      exact ⟨_, _, ⟨rfl, rfl⟩, by rw [releaseRelay_of_unknown unknown]; exact .refl st⟩
  | relayed => simpa using OnlyRequestRecorded.refl st
  | channelData => simpa using OnlyRequestRecorded.refl st
  | dataIndication => simpa using OnlyRequestRecorded.refl st
  | otherSuccess => simpa using OnlyRequestRecorded.refl st
  | otherError => simpa using OnlyRequestRecorded.refl st
  | ignored => simpa using OnlyRequestRecorded.refl st

theorem handlePacketFromClient_recorded (st : State) (srcip : UInt32) (srcport : UInt16) (buf : Memory) (n : Nat) :
    OnlyRequestRecorded st (handlePacketFromClient cfg st srcip srcport buf n).1 := by
  unfold handlePacketFromClient
  dsimp only
  split
  · split
    · exact ⟨rfl, rfl, rfl, Or.inr ⟨_, _, rfl⟩⟩
    · exact .refl st
  · exact .refl st

theorem handlePacketFromClient_destination {cfg : Config} {srcip : UInt32} {n : Nat} {s : Send}
    (sent : s ∈ (handlePacketFromClient cfg st srcip srcport buf n).2) :
    s.ip = hopIp cfg cfg.coturnIp ∧ s.port = cfg.coturnPort := by
  unfold handlePacketFromClient at sent
  dsimp only at sent
  split at sent
  · rw [List.mem_singleton] at sent
    rw [sent]
    exact ⟨rfl, rfl⟩
  · cases sent

theorem frameKind_of_relayHeader {n : Nat} (relay : (read buf).isStunExtensionRelayHeader = true) :
    frameKind buf n = if forwardable buf n then .relayed else .ignored := by
  unfold frameKind
  rw [if_pos relay]

theorem not_touchesTables_of_relayHeader {n : Nat} (relay : (read buf).isStunExtensionRelayHeader = true) :
    ¬ TouchesTables st buf n := by
  unfold TouchesTables
  rw [frameKind_of_relayHeader relay]
  cases forwardable buf n <;> simp

theorem packetCallbackAsync_outside {cfg : Config} (st : State) (srcip : UInt32) (buf : Memory) (n : Nat)
    (outside : srcport ≠ cfg.coturnPort) :
    ∃ st' sends, packetCallbackAsync cfg st srcip srcport buf n = some (st', sends) ∧
      OnlyRequestRecorded st st' := by
  unfold packetCallbackAsync
  rw [if_neg outside]
  by_cases relay : (read buf).isStunExtensionRelayHeader = true
  · rw [if_pos relay, handlePacketFromCoturn_recorded_iff]
    exact not_touchesTables_of_relayHeader relay
  · rw [if_neg relay]
    exact ⟨_, _, rfl, handlePacketFromClient_recorded cfg st srcip srcport buf n⟩

/-- A datagram leaves the routing tables alone, and the proxy running, exactly
when it does not combine coturn's source port with a frame that writes to the
tables. The source address plays no part. -/
theorem tables_kept_iff (cfg : Config) (st : State) (srcip : UInt32) (srcport : UInt16)
    (buf : Memory) (n : Nat) :
    (∃ st' sends, packetCallbackAsync cfg st srcip srcport buf n = some (st', sends) ∧
      OnlyRequestRecorded st st') ↔
      ¬ (srcport = cfg.coturnPort ∧ TouchesTables st buf n) := by
  by_cases fromPort : srcport = cfg.coturnPort
  · unfold packetCallbackAsync
    rw [if_pos fromPort, handlePacketFromCoturn_recorded_iff]
    simp [fromPort]
  · simp only [fromPort, false_and, not_false_eq_true, iff_true]
    exact packetCallbackAsync_outside st srcip buf n fromPort

/-- Coturn at 10.0.0.1:3478, the proxy at port 3479 of the same host. -/
def exampleConfig : Config := ⟨0x0100000A, 3478, 3479, 0⟩

/-- An Allocate success without attributes, framed as coturn frames it. -/
def forgedSuccess : List UInt8 :=
  [0x80, 0x00, 0, 0, 0, 0, 0, 0, 0, 0, 0, 0, 0, 0, 0x01, 0x03, 0x00, 0x00]

/-- Host 10.0.0.9 sends a forged Allocate success from port 3478. -/
theorem forgedSuccess_changes_tables :
    ¬ ∀ (cfg : Config) (st : State) (srcip : UInt32) (srcport : UInt16) (buf : Memory) (n : Nat),
      ¬ (srcip = cfg.coturnIp ∧ srcport = cfg.coturnPort) →
      ∃ st' sends, packetCallbackAsync cfg st srcip srcport buf n = some (st', sends) ∧
        OnlyRequestRecorded st st' := by
  intro claimed
  have kept := claimed exampleConfig .init 0x0900000A 3478 (.ofList forgedSuccess) 18 (by decide)
  unfold packetCallbackAsync at kept
  rw [if_pos (by decide), handlePacketFromCoturn_recorded_iff] at kept
  have kind : frameKind (.ofList forgedSuccess) 18 = .allocateSuccess := by decide
  simp [TouchesTables, kind] at kept

/-- A datagram that does not come from coturn's port goes on to coturn inside a
custom header, unless it is a relay frame carrying ChannelData or a Send
indication: that one is passed on unchanged to the destination in its header. -/
theorem outside_datagram_destination {cfg : Config} {st : State} {srcip : UInt32}
    {srcport : UInt16} {buf : Memory} {n : Nat} (outside : srcport ≠ cfg.coturnPort) :
    ∃ st' sends, packetCallbackAsync cfg st srcip srcport buf n = some (st', sends) ∧
      ∀ s ∈ sends,
        if (read buf).identifier = customDataIdentifier ∧ forwardable buf n = true then
          s = sendToByAddr cfg (read buf).dstIp (nswap16 (read buf).dstPort) buf (intOfSize n)
        else s.ip = hopIp cfg cfg.coturnIp ∧ s.port = cfg.coturnPort := by
  unfold packetCallbackAsync
  rw [if_neg outside]
  by_cases relay : (read buf).isStunExtensionRelayHeader = true
  · rw [if_pos relay, handlePacketFromCoturn_eq, frameKind_of_relayHeader relay]
    cases forwards : forwardable buf n with
    | false => exact ⟨st, [], rfl, by simp⟩
    | true =>
      refine ⟨st, [forwarded cfg buf n], rfl, ?_⟩
      intro s member
      rw [List.mem_singleton] at member
      rw [if_pos ⟨isStunExtensionRelayHeader_iff.mp relay, rfl⟩, member]
      simp [forwarded, getDstIntIp, getDstPort]
  · rw [if_neg relay]
    refine ⟨(handlePacketFromClient cfg st srcip srcport buf n).1,
      (handlePacketFromClient cfg st srcip srcport buf n).2, rfl, ?_⟩
    intro s member
    have notRelay : ¬ ((read buf).identifier = customDataIdentifier ∧ forwardable buf n = true) :=
      fun both => relay (isStunExtensionRelayHeader_iff.mpr both.1)
    rw [if_neg notRelay]
    exact handlePacketFromClient_destination member

/-- A relay frame with empty ChannelData for 8.8.8.8:53. -/
def reflectedFrame : List UInt8 :=
  [0x80, 0x01, 0, 0, 0, 0, 0, 0, 8, 8, 8, 8, 0, 53, 0x40, 0x00, 0x00, 0x00]

theorem outside_datagram_destination_reflected :
    (5000 : UInt16) ≠ exampleConfig.coturnPort ∧
      ∃ st' sends, packetCallbackAsync exampleConfig .init 0x0900000A 5000 (.ofList reflectedFrame) 18 =
          some (st', sends) ∧
        ∀ s ∈ sends,
          if (read (.ofList reflectedFrame)).identifier = customDataIdentifier ∧
              forwardable (.ofList reflectedFrame) 18 = true then
            s = sendToByAddr exampleConfig (read (.ofList reflectedFrame)).dstIp
              (nswap16 (read (.ofList reflectedFrame)).dstPort) (.ofList reflectedFrame) (intOfSize 18)
          else s.ip = hopIp exampleConfig exampleConfig.coturnIp ∧ s.port = exampleConfig.coturnPort :=
  ⟨by decide, outside_datagram_destination (by decide)⟩

/-- Any host can have the proxy send to an address of its choice. -/
theorem reflectedFrame_leaves_for_sender_choice :
    ¬ ∀ (cfg : Config) (st : State) (srcip : UInt32) (srcport : UInt16) (buf : Memory) (n : Nat),
      ¬ (srcip = cfg.coturnIp ∧ srcport = cfg.coturnPort) →
      ∀ st' sends, packetCallbackAsync cfg st srcip srcport buf n = some (st', sends) →
        ∀ s ∈ sends, s.ip = hopIp cfg cfg.coturnIp := by
  intro claimed
  have run : packetCallbackAsync exampleConfig .init 0x0900000A 5000 (.ofList reflectedFrame) 18 =
      some (.init, [forwarded exampleConfig (.ofList reflectedFrame) 18]) := by
    unfold packetCallbackAsync
    rw [if_neg (by decide), if_pos (by decide), handlePacketFromCoturn_eq,
      frameKind_of_relayHeader (by decide), show forwardable (.ofList reflectedFrame) 18 = true by decide]
    rfl
  have toCoturn := claimed exampleConfig .init 0x0900000A 5000 (.ofList reflectedFrame) 18 (by decide)
    _ _ run _ (List.mem_singleton.mpr rfl)
  exact absurd toCoturn (by decide)

end Proxy
end TurnCluster
