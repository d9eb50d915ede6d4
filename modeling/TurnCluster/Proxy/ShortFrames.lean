import TurnCluster.Proxy.Isolation

namespace TurnCluster
namespace Proxy

open StunCustomHeader

/-- The datagrams that `PacketCallbackAsync` hands to `HandlePacketFromCoturn`. -/
def TakenAsFrame (cfg : Config) (srcport : UInt16) (buf : Memory) : Prop :=
  srcport = cfg.coturnPort ∨ (read buf).isStunExtensionRelayHeader = true

instance (cfg : Config) (srcport : UInt16) (buf : Memory) : Decidable (TakenAsFrame cfg srcport buf) :=
  inferInstanceAs (Decidable (_ ∨ _))

/-- No send reads outside the bytes received and the header put before them, and a frame too short to hold its
own header does nothing. -/
structure Harmless (cfg : Config) (st : State) (srcip : UInt32) (srcport : UInt16) (buf : Memory) (n : Nat) :
    Prop where
  lengths : ∀ st' sends, packetCallbackAsync cfg st srcip srcport buf n = some (st', sends) →
    ∀ s ∈ sends, 0 ≤ s.len ∧ s.len ≤ n + stunCustomHeaderLen
  inert : n < stunCustomHeaderLen → TakenAsFrame cfg srcport buf →
    packetCallbackAsync cfg st srcip srcport buf n = some (st, [])

/-- The header and message that the handler reads, beyond the received bytes too, give it nothing to do: it
ignores them, or finds no entry under the key they name. -/
def FindsNothing (st : State) (buf : Memory) (n : Nat) : Prop :=
  match frameKind buf n with
  | .ignored => True
  | .channelData => st.mapPeerInfo (channelKey buf) = none
  | .dataIndication => st.mapPeerInfo (dataKey buf n) = none
  | .release => st.mapLocalRemote (releaseKey buf) = none
  | _ => False

variable {cfg : Config} {st : State} {key : List Char} {buf : Memory} {n : Nat} {s : Send} {srcport : UInt16}

theorem packetCallbackAsync_of_frame (taken : TakenAsFrame cfg srcport buf) (st : State) (srcip : UInt32) (n : Nat) :
    packetCallbackAsync cfg st srcip srcport buf n = handlePacketFromCoturn cfg st buf n := by
  unfold packetCallbackAsync
  rcases taken with port | relay
  · exact if_pos port
  · rw [if_pos relay, ite_self]

theorem packetCallbackAsync_of_client (taken : ¬ TakenAsFrame cfg srcport buf) (st : State) (srcip : UInt32) (n : Nat) :
    packetCallbackAsync cfg st srcip srcport buf n = some (handlePacketFromClient cfg st srcip srcport buf n) := by
  obtain ⟨port, relay⟩ := not_or.mp taken
  unfold packetCallbackAsync
  rw [if_neg port, if_neg relay]

theorem payload_len_within (fits : n < 1500) (whole : stunCustomHeaderLen ≤ n) :
    0 ≤ intOfSize (payloadLen n) ∧ intOfSize (payloadLen n) ≤ n + stunCustomHeaderLen := by
  have len : payloadLen n = n - stunCustomHeaderLen := sizeSub_of_le whole (by omega)
  rw [len, intOfSize_of_small (by omega)]
  omega

theorem sendToByAddr_len (cfg : Config) (ip : UInt32) (port : UInt16) (buffer : Memory) (nLen : Int) :
    (sendToByAddr cfg ip port buffer nLen).len = nLen := rfl

theorem sendToEchoed_len (cfg : Config) (buf : Memory) (n : Nat) :
    (sendToEchoed cfg buf n).len = intOfSize (payloadLen n) := sendToByAddr_len ..

theorem sendToRoute_len (sent : s ∈ sendToRoute cfg st key buf n) : s.len = intOfSize (payloadLen n) := by
  unfold sendToRoute at sent
  split at sent
  · cases sent
  · rw [List.mem_singleton.mp sent, sendToByAddr_len]

theorem handlePacketFromCoturn_len {st' : State} {sends : List Send}
    (run : handlePacketFromCoturn cfg st buf n = some (st', sends)) (sent : s ∈ sends) :
    s.len = intOfSize n ∨ s.len = intOfSize (payloadLen n) := by
  rw [handlePacketFromCoturn_eq] at run
  cases kind : frameKind buf n <;> simp only [kind] at run
  case relayed =>
    cases Option.some.inj run
    rw [List.mem_singleton.mp sent]
    exact Or.inl (sendToByAddr_len ..)
  case channelData =>
    cases Option.some.inj run
    exact Or.inr (sendToRoute_len sent)
  case dataIndication =>
    cases Option.some.inj run
    exact Or.inr (sendToRoute_len sent)
  case allocateSuccess =>
    split at run
    · cases run
    · cases Option.some.inj run
      rw [List.mem_singleton.mp sent]
      exact Or.inr (sendToEchoed_len ..)
  case release =>
    cases Option.some.inj run
    cases sent
  case ignored =>
    cases Option.some.inj run
    cases sent
  all_goals
    cases Option.some.inj run
    rw [List.mem_singleton.mp sent]
    exact Or.inr (sendToEchoed_len ..)

theorem handlePacketFromClient_len {ip : UInt32} {port : UInt16}
    (sent : s ∈ (handlePacketFromClient cfg st ip port buf n).2) : s.len = n + stunCustomHeaderLen := by
  unfold handlePacketFromClient at sent
  dsimp only at sent
  split at sent
  · rw [List.mem_singleton.mp sent]
    rfl
  · cases sent

theorem sendToRoute_eq_nil_iff : sendToRoute cfg st key buf n = [] ↔ st.mapPeerInfo key = none := by
  unfold sendToRoute
  cases st.mapPeerInfo key <;> simp

theorem releaseRelay_eq_self_iff : releaseRelay st (read buf) = st ↔ st.mapLocalRemote (releaseKey buf) = none := by
  unfold releaseRelay
  dsimp only
  split
  · rename_i absent
    exact ⟨fun _ => absent, fun _ => rfl⟩
  · rename_i peer found
    have present : st.mapLocalRemote (releaseKey buf) = some peer := found
    rw [present]
    simp only [reduceCtorEq, iff_false]
    intro same
    have erased := congrFun (congrArg State.mapLocalRemote same) (releaseKey buf)
    rw [present] at erased
    exact absurd erased (by simp [releaseKey])

theorem handlePacketFromCoturn_inert_iff :
    handlePacketFromCoturn cfg st buf n = some (st, []) ↔ FindsNothing st buf n := by
  rw [handlePacketFromCoturn_eq, FindsNothing]
  cases frameKind buf n with
  | channelData => simp [sendToRoute_eq_nil_iff]
  | dataIndication => simp [sendToRoute_eq_nil_iff]
  | release => simp [releaseRelay_eq_self_iff]
  | allocateSuccess =>
    dsimp only
    split <;> simp
  | _ => simp

/-- A datagram is harmless unless it is shorter than the header and the handler finds something to do with what
lies behind it. -/
theorem short_datagrams_harmless_iff {cfg : Config} {st : State} {srcip : UInt32} {srcport : UInt16} {buf : Memory}
    {n : Nat} (fits : n < 1500) :
    Harmless cfg st srcip srcport buf n ↔
      (n < stunCustomHeaderLen → TakenAsFrame cfg srcport buf → FindsNothing st buf n) := by
  constructor
  · intro harmless short taken
    have inert := harmless.inert short taken
    rw [packetCallbackAsync_of_frame taken] at inert
    exact handlePacketFromCoturn_inert_iff.mp inert
  · intro nothing
    have quiet (short : n < stunCustomHeaderLen) (taken : TakenAsFrame cfg srcport buf) :
        packetCallbackAsync cfg st srcip srcport buf n = some (st, []) := by
      rw [packetCallbackAsync_of_frame taken]
      exact handlePacketFromCoturn_inert_iff.mpr (nothing short taken)
    refine ⟨?_, quiet⟩
    intro st' sends run s sent
    by_cases taken : TakenAsFrame cfg srcport buf
    · by_cases short : n < stunCustomHeaderLen
      · rw [quiet short taken] at run
        cases Option.some.inj run
        cases sent
      · rw [packetCallbackAsync_of_frame taken] at run
        rcases handlePacketFromCoturn_len run sent with whole | stripped
        · rw [whole, intOfSize_of_small (by omega)]
          omega
        · rw [stripped]
          exact payload_len_within fits (by omega)
    · rw [packetCallbackAsync_of_client taken] at run
      have passed : (handlePacketFromClient cfg st srcip srcport buf n).2 = sends :=
        congrArg Prod.snd (Option.some.inj run)
      rw [← passed] at sent
      rw [handlePacketFromClient_len sent]
      omega

/-- A release notice for the relay 10.0.0.1:49152 whose last byte is cut off. A new packet buffer has a zero there. -/
def cutNotice : List UInt8 := [0x80, 0x02, 0, 0, 0, 0, 0, 0, 10, 0, 0, 1, 0xC0]

theorem cutNotice_release : frameKind (.ofList cutNotice) cutNotice.length = .release := by decide

theorem reach_relay_routed : ∃ w, (machine exampleConfig).Reach (fun _ _ => True) w ∧
    (w.proxy.mapLocalRemote (releaseKey (.ofList cutNotice))).isSome = true :=
  Machine.Reach.exists_of_replay World.init
    [allocateAsked, allocateAnswered, permissionAsked exampleClient, permissionGranted exampleClient] rfl (by decide)

theorem cutNotice_finds_relay (routed : (st.mapLocalRemote (releaseKey (.ofList cutNotice))).isSome = true) :
    ¬ FindsNothing st (.ofList cutNotice) cutNotice.length := by
  unfold FindsNothing
  rw [cutNotice_release]
  intro absent
  rw [absent] at routed
  cases routed

/-- The cut notice is harmless to a proxy that has just started, and not any more when the relay is routed. -/
theorem short_datagrams_harmless_iff_cut :
    cutNotice.length < 1500 ∧
      Harmless exampleConfig .init exampleConfig.coturnIp exampleConfig.coturnPort (.ofList cutNotice) cutNotice.length ∧
      ∃ w, (machine exampleConfig).Reach (fun _ _ => True) w ∧
        ¬ Harmless exampleConfig w.proxy exampleConfig.coturnIp exampleConfig.coturnPort (.ofList cutNotice)
          cutNotice.length := by
  have fits : cutNotice.length < 1500 := by decide
  obtain ⟨w, reach, routed⟩ := reach_relay_routed
  refine ⟨fits, (short_datagrams_harmless_iff fits).mpr ?_, w, reach, ?_⟩
  · intro _ _
    unfold FindsNothing
    rw [cutNotice_release]
    rfl
  · intro harmless
    exact cutNotice_finds_relay routed ((short_datagrams_harmless_iff fits).mp harmless (by decide) (Or.inl rfl))

/-- The thirteen bytes take the relay out of the table. -/
theorem cut_notice_releases_relay :
    ¬ ∀ (cfg : Config) (st : State) (srcip : UInt32) (srcport : UInt16) (buf : Memory) (n : Nat),
      n < 1500 → Harmless cfg st srcip srcport buf n := by
  intro claimed
  obtain ⟨w, _, routed⟩ := reach_relay_routed
  have harmless := claimed exampleConfig w.proxy exampleConfig.coturnIp exampleConfig.coturnPort (.ofList cutNotice)
    cutNotice.length (by decide)
  have inert := harmless.inert (by decide) (Or.inl rfl)
  rw [packetCallbackAsync_of_frame (Or.inl rfl)] at inert
  exact cutNotice_finds_relay routed (handlePacketFromCoturn_inert_iff.mp inert)

end Proxy
end TurnCluster
