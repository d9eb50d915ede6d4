import TurnCluster.Proxy.World

namespace TurnCluster
namespace Proxy

open StunCustomHeader

/-- The last milestone of a key, if any, is an allocation. -/
def outstanding (key : List Char) : List Milestone → Bool
  | [] => false
  | .allocated other :: rest => other == key || outstanding key rest
  | .permitted other :: rest => other != key && outstanding key rest

/-- Recorded allocations are exactly the outstanding ones. -/
def AllocationsTracked (w : World) : Prop :=
  ∀ key, (w.proxy.mapAllocInfo key).isSome = outstanding key w.history

theorem installPermission_allocInfo (st : State) (tid : List UInt8) (request : RequestInfo)
    (key : List Char) :
    ((installPermission st tid request).mapAllocInfo key).isSome =
      (addrKey request.srcip request.srcport != key && (st.mapAllocInfo key).isSome) := by
  unfold installPermission
  dsimp only
  by_cases same : addrKey request.srcip request.srcport = key
  · split
    · rename_i missing
      rw [same] at missing
      simp [same, missing]
    · simp [same]
  · split
    · simp [same]
    · simp [same, Function.update_of_ne (Ne.symm same)]

theorem packetCallbackAsync_allocInfo {cfg : Config} {w : World} {ev : Event} {st : State}
    {sends : List Send}
    (run : packetCallbackAsync cfg w.proxy (ev.sourceIp cfg) (ev.sourcePort cfg) ev.buf ev.len =
      some (st, sends)) (tracked : AllocationsTracked w) (key : List Char) :
    (st.mapAllocInfo key).isSome = outstanding key (ev.milestones cfg w ++ w.history) := by
  unfold Event.milestones
  by_cases fromPort : ev.sourcePort cfg = cfg.coturnPort
  · unfold packetCallbackAsync at run
    rw [if_pos fromPort, handlePacketFromCoturn_eq] at run
    rw [if_pos fromPort]
    cases kind : frameKind ev.buf ev.len <;> simp only [kind] at run ⊢
    case allocateSuccess =>
      split at run
      · cases run
      · cases Option.some.inj run
        by_cases same : mappedKey ev.buf ev.len = key
        · simp [recordAllocation, outstanding, same]
        · have other : (Function.update w.proxy.mapAllocInfo (mappedKey ev.buf ev.len)
              (some (relayInfo ev.buf ev.len)) key) = w.proxy.mapAllocInfo key :=
            Function.update_of_ne (Ne.symm same) ..
          simp [recordAllocation, outstanding, same, other, tracked key]
    case permissionSuccess =>
      cases Option.some.inj run
      unfold settlePermission
      cases pending : w.proxy.mapRequests (frameTid ev.buf) with
      | none => exact tracked key
      | some request =>
        simp only [installPermission_allocInfo, List.cons_append, List.nil_append, outstanding,
          tracked key]
    case release =>
      cases Option.some.inj run
      unfold releaseRelay
      dsimp only
      split <;> exact tracked key
    all_goals
      cases Option.some.inj run
      exact tracked key
  · rw [if_neg fromPort]
    obtain ⟨st', sends', run', recorded⟩ :=
      packetCallbackAsync_outside w.proxy (ev.sourceIp cfg) ev.buf ev.len fromPort
    cases Option.some.inj (run.symm.trans run')
    rw [recorded.2.2.1]
    exact tracked key

theorem allocations_tracked {cfg : Config} {w : World} {guard : World → Event → Prop}
    (reach : (machine cfg).Reach guard w) : AllocationsTracked w := by
  refine Machine.Reach.invariant (P := AllocationsTracked) ?_ ?_ reach
  · rintro w rfl key
    rfl
  · intro w w' ev sends tracked _ _ run key
    obtain ⟨proxyRun, _, history⟩ := deliver_some run
    rw [history]
    exact packetCallbackAsync_allocInfo proxyRun tracked key

theorem packetCallbackAsync_aborts_iff (cfg : Config) (st : State) (srcip : UInt32)
    (srcport : UInt16) (buf : Memory) (n : Nat) :
    packetCallbackAsync cfg st srcip srcport buf n = none ↔
      srcport = cfg.coturnPort ∧ frameKind buf n = .allocateSuccess ∧
        (st.mapAllocInfo (mappedKey buf n)).isSome := by
  by_cases fromPort : srcport = cfg.coturnPort
  · unfold packetCallbackAsync
    rw [if_pos fromPort, handlePacketFromCoturn_eq]
    cases kind : frameKind buf n <;> simp [fromPort, ← Option.isSome_iff_ne_none]
  · obtain ⟨st', sends, run, _⟩ := packetCallbackAsync_outside st srcip buf n fromPort
    simp [run, fromPort]

/-- In every run among genuine messages, a datagram kills the proxy exactly when
it is an Allocate success for an address whose last Allocate success was not yet
followed by the success of a CreatePermission from that address. -/
theorem proxy_aborts_iff {cfg : Config} {w : World} {ev : Event}
    (reach : (machine cfg).Reach (fun _ _ => True) w) :
    deliver cfg w ev = none ↔
      ev.sourcePort cfg = cfg.coturnPort ∧ frameKind ev.buf ev.len = .allocateSuccess ∧
        outstanding (mappedKey ev.buf ev.len) w.history = true := by
  rw [← allocations_tracked reach, ← packetCallbackAsync_aborts_iff cfg w.proxy (ev.sourceIp cfg)]
  unfold deliver
  split
  · rename_i aborted
    simp [aborted]
  · rename_i survived
    simp [survived]

/-- Client 10.0.0.2:5000. -/
def exampleClient : Client := ⟨0x0200000A, 5000⟩

def exampleTid : List UInt8 := [1, 2, 3, 4, 5, 6, 7, 8, 9, 10, 11, 12]

/-- An Allocate request without attributes. -/
def allocateRequest : List UInt8 := [0x00, 0x03, 0, 0, 0x21, 0x12, 0xA4, 0x42] ++ exampleTid

/-- Its success: relay 10.0.0.1:49152, mapped address 10.0.0.2:5000. -/
def allocateAnswer : List UInt8 :=
  [0x80, 0x00, 10, 0, 0, 2, 0x88, 0x13, 0, 0, 0, 0, 0, 0] ++
    [0x01, 0x03, 0x00, 0x18, 0x21, 0x12, 0xA4, 0x42] ++ exampleTid ++
    [0x00, 0x16, 0x00, 0x08, 0x00, 0x01, 0xE1, 0x12, 0x2B, 0x12, 0xA4, 0x43] ++
    [0x00, 0x20, 0x00, 0x08, 0x00, 0x01, 0x32, 0x9A, 0x2B, 0x12, 0xA4, 0x40]

def allocateAsked : Event :=
  ⟨.outside exampleClient.ip exampleClient.port, .ofList allocateRequest, allocateRequest.length⟩

def allocateAnswered : Event :=
  ⟨.reply ⟨exampleClient, exampleTid, stunMethodAllocate, []⟩, .ofList allocateAnswer,
    allocateAnswer.length⟩

/-- Behind the first answer the allocation is outstanding. -/
theorem proxy_aborts_iff_outstanding :
    ∃ w, (machine exampleConfig).Reach (fun _ _ => True) w ∧
      outstanding (mappedKey allocateAnswered.buf allocateAnswered.len) w.history = true ∧
      deliver exampleConfig w allocateAnswered = none := by
  obtain ⟨w, reach, recorded⟩ : ∃ w, (machine exampleConfig).Reach (fun _ _ => True) w ∧
      outstanding (mappedKey allocateAnswered.buf allocateAnswered.len) w.history = true :=
    Machine.Reach.exists_of_replay World.init [allocateAsked, allocateAnswered] rfl (by decide)
  exact ⟨w, reach, recorded, (proxy_aborts_iff reach).mpr ⟨by decide, by decide, recorded⟩⟩

/-- The client repeats its Allocate request and coturn answers it again. -/
theorem repeated_allocate_aborts :
    ¬ ∀ (cfg : Config) (w : World) (ev : Event), (machine cfg).Reach (fun _ _ => True) w →
      Genuine cfg w ev → deliver cfg w ev ≠ none := by
  intro claimed
  obtain ⟨w, reach, fails⟩ : ∃ w, (machine exampleConfig).Reach (fun _ _ => True) w ∧
      (decide (Genuine exampleConfig w allocateAnswered) &&
        (deliver exampleConfig w allocateAnswered).isNone) = true :=
    Machine.Reach.exists_of_replay World.init [allocateAsked, allocateAnswered, allocateAsked] rfl
      (by decide)
  simp only [Bool.and_eq_true, decide_eq_true_eq, Option.isNone_iff_eq_none] at fails
  exact claimed exampleConfig w allocateAnswered reach fails.1 fails.2

end Proxy
end TurnCluster
