import TurnCluster.Relay.Reading
import TurnCluster.Server.Command
import TurnCluster.Server.SocketSend

namespace TurnCluster
namespace Server

open Relay StunCustomHeader

/-- `clear_relay_endpoint_session_data`, and the timer that its callers delete with it. -/
def clearRelayEndpointSessionData (r : RelayEndpointSession) : RelayEndpointSession :=
  { r with s := none, lifetimeEv := none }

def setAllocationFamilyInvalid (ss : SuperSession) (family : Family) : SuperSession :=
  if (getRelaySession ss family).s.isSome = true then
    setRelaySession ss family (clearRelayEndpointSessionData (getRelaySession ss family))
  else ss

def clearAllocation (ss : SuperSession) : SuperSession :=
  { ss with
    alloc := { initAllocation with tid := ss.alloc.tid }
    relay4 := clearRelayEndpointSessionData ss.relay4
    relay6 := clearRelayEndpointSessionData ss.relay6 }

/-- `shutdown_client_connection`. Without force the session of a mobile client with an allocation outlives its
socket; any other one is deleted, which clears its allocation. -/
def shutdownClientConnection (ss : SuperSession) (force : Bool) : SuperSession :=
  have ss := { decQuota ss with bps := 0, client := none }
  if force = false ∧ ss.alloc.isValid = true ∧ ss.isMobile = true then ss else clearAllocation ss

/-- The header of a release notice; its source fields are left as a new buffer has them. -/
def releaseHeader (relay : IoaAddr) : StunCustomHeader := ⟨customReleaseIdentifier, 0, 0, relay.ip4, relay.port⟩

/-- The buffer that `notify_release_relay_session` hands to `write_client_connection`. It reads the
socket of the first relay session, whichever has expired; without one it does not survive. -/
def notifyReleaseRelaySession (ss : SuperSession) : Option StunBuffer :=
  match ss.relay4.s with
  | none => none
  | some s => some (StunBuffer.ioaNetworkBufferAllocate.writeHeader (releaseHeader s.localAddr))

/-- The timer of the relay session of a family: the session after it, and the notice it has written. -/
def clientSsAllocationTimeoutHandler (ss : SuperSession) (family : Family) :
    Option (SuperSession × Option StunBuffer) :=
  match (getRelaySession ss family).s with
  | none => some (ss, none)
  | some s =>
    match notifyReleaseRelaySession ss with
    | none => none
    | some nbh =>
      let ss := setAllocationFamilyInvalid ss s.localAddr.family
      if ss.relay4.s = none ∧ ss.relay6.s = none then some (shutdownClientConnection ss false, some nbh)
      else some (ss, some nbh)

/-- `write_client_connection`, with what the send uses of the client's socket: a session without a socket drops the
buffer. -/
def SuperSession.writeClientConnection (ss : SuperSession) (socket : SendSocket) (env : SendEnv) (nbh : StunBuffer) :
    Option Sent :=
  match ss.client with
  | none => none
  | some _ => (socket.sendDataFromIoaSocketNbh env none nbh).sent

/-- What the timer hands to the network. -/
def releaseFrame (ss : SuperSession) (socket : SendSocket) (env : SendEnv) (family : Family) : Option Sent :=
  match clientSsAllocationTimeoutHandler ss family with
  | some (_, some nbh) => ss.writeClientConnection socket env nbh
  | _ => none

/-- A release notice for a relay address. -/
structure NamesRelay (frame : List UInt8) (relay : IoaAddr) : Prop where
  identifier : (read (.ofList frame)).identifier = customReleaseIdentifier
  relay : addrEq (.inet (read (.ofList frame)).dstIp (read (.ofList frame)).dstPort) relay = true

/-- An expiry sends a notice that names the relay address that expired, and that is made from nothing but its session. -/
def ReleaseNamed (ss : SuperSession) (socket : SendSocket) (env : SendEnv) (family : Family) : Prop :=
  (∃ s d, (getRelaySession ss family).s = some s ∧ releaseFrame ss socket env family = some (.datagram d) ∧
    NamesRelay d.data s.localAddr) ∧
  ∀ other, getRelaySession other family = getRelaySession ss family →
    notifyReleaseRelaySession other = notifyReleaseRelaySession ss

/-- The limit of the session lets a packet through whose size is that of an empty buffer without its header: 2 ^ 64 - 14
bytes, which only make the counter of a jiffie smaller if it has counted 14 bytes. -/
def LimitPassed (b : BandwidthSocket) (jiffie : Nat) : Prop :=
  b.sat = .other ∨ ∀ bps, b.session = some bps → bps < 1 ∨
    (if b.jiffie = jiffie then (b.dataTraffic.jiffieBytesWrite.bytes + (2 ^ 64 - 14)) % 2 ^ 64 else 2 ^ 64 - 14) ≤ bps

/-- The client is there, on a plain UDP socket that can send, and its limit lets a notice pass. -/
structure NoticeGoes (ss : SuperSession) (socket : SendSocket) (env : SendEnv) : Prop where
  client : ss.client.isSome = true
  usable : socket.Usable env
  plain : socket.Plain
  limit : LimitPassed socket.bandwidth env.jiffie

/-- The buffer of a notice, which has no length. -/
def noticeBuffer (relay : IoaAddr) : StunBuffer := StunBuffer.ioaNetworkBufferAllocate.writeHeader (releaseHeader relay)

theorem noticeBuffer_getSize (relay : IoaAddr) : (noticeBuffer relay).getSize = 2 ^ 64 - 14 := by
  show sizeSub 0 14 = 2 ^ 64 - 14
  unfold sizeSub
  omega

/-- No STUN message is that long, so that a notice counts as data. -/
theorem isControl_noticeBuffer (sat : SocketAppType) (relay : IoaAddr) : isControl sat (noticeBuffer relay) = false := by
  have noCommand (buf : Memory) : stunIsCommandMessageStr buf (2 ^ 64 - 14) = false := by
    have short := (net16 buf 2).toNat_lt
    have wrong : ((net16 buf 2).toNat + stunHeaderLength == 2 ^ 64 - 14) = false := by
      rw [beq_eq_false_iff_ne, show stunHeaderLength = 20 from rfl]
      omega
    rw [stunIsCommandMessageStr, wrong, Bool.and_false]
  rw [isControl, noticeBuffer_getSize, noCommand, Bool.and_false, Bool.false_and]

theorem check_noticeBuffer_iff (b : BandwidthSocket) (relay : IoaAddr) (jiffie : Nat) :
    (b.check ⟨noticeBuffer relay, false, jiffie⟩).2 = true ↔ LimitPassed b jiffie := by
  rw [b.check_iff, isControl_noticeBuffer, noticeBuffer_getSize]
  simp only [b.limit_iff]
  exact Iff.rfl

/-- A datagram with the notice is its header. -/
theorem sendDataFromIoaSocketNbh_notice (dest relay : IoaAddr) (ttl : Int) (tos : Nat) :
    (sendDataFromIoaSocketNbh dest (noticeBuffer relay) ttl tos).data = (releaseHeader relay).bytes := by
  have header := StunBuffer.write_slice .ioaNetworkBufferAllocate StunBuffer.ioaNetworkBufferAllocate.dataOrigin
    (releaseHeader relay).bytes
  rw [← header]
  exact view_slice (noticeBuffer relay) (noticeBuffer relay).dataOrigin 0 14

theorem namesRelay_iff (relay : IoaAddr) : NamesRelay (releaseHeader relay).bytes relay ↔ relay.family = .inet := by
  have header : read (.ofList (releaseHeader relay).bytes) = releaseHeader relay := read_of_bytes (Memory.slice_ofList _)
  constructor
  · rintro ⟨_, same⟩
    exact (addrEq_iff.mp same).2.1.symm
  · intro four
    refine ⟨by rw [header]; rfl, ?_⟩
    rw [header]
    refine addrEq_iff.mpr ⟨Family.noConfusion, four.symm, rfl, fun _ => rfl, ?_⟩
    intro six
    cases six

theorem releaseFrame_inet {ss : SuperSession} {s : RelaySocket} (open' : ss.relay4.s = some s) (socket : SendSocket)
    (env : SendEnv) : releaseFrame ss socket env .inet = ss.writeClientConnection socket env (noticeBuffer s.localAddr) := by
  have notice : notifyReleaseRelaySession ss = some (noticeBuffer s.localAddr) := by
    rw [notifyReleaseRelaySession, open']
    rfl
  unfold releaseFrame clientSsAllocationTimeoutHandler
  rw [show (getRelaySession ss .inet).s = some s from open']
  dsimp only
  rw [notice]
  dsimp only
  split_ifs <;> rfl

theorem writeClientConnection_iff {ss : SuperSession} {socket : SendSocket} {env : SendEnv} {relay : IoaAddr} :
    (∃ d, ss.writeClientConnection socket env (noticeBuffer relay) = some (.datagram d) ∧ NamesRelay d.data relay) ↔
      relay.family = .inet ∧ NoticeGoes ss socket env := by
  have named := @SendSocket.sent_datagram_iff socket env none (noticeBuffer relay)
  unfold SuperSession.writeClientConnection
  cases client : ss.client with
  | none =>
    constructor
    · rintro ⟨d, no, _⟩
      cases no
    · rintro ⟨_, goes⟩
      have there := goes.client
      rw [client] at there
      cases there
  | some c =>
    constructor
    · rintro ⟨d, sent, names⟩
      obtain ⟨usable, plain, passes, rfl⟩ := (named d).mp sent
      rw [sendDataFromIoaSocketNbh_notice] at names
      exact ⟨(namesRelay_iff relay).mp names, by rw [client]; rfl, usable, plain, (check_noticeBuffer_iff ..).mp passes⟩
    · rintro ⟨four, _, usable, plain, limit⟩
      refine ⟨_, (named _).mpr ⟨usable, plain, (check_noticeBuffer_iff ..).mpr limit, rfl⟩, ?_⟩
      rw [sendDataFromIoaSocketNbh_notice]
      exact (namesRelay_iff relay).mpr four

theorem not_releaseNamed_inet6 (ss : SuperSession) (socket : SendSocket) (env : SendEnv) :
    ¬ ReleaseNamed ss socket env .inet6 := by
  rintro ⟨⟨s, d, open', sent, _⟩, depends⟩
  have closed := depends { ss with relay4 := .zero } rfl
  change none = notifyReleaseRelaySession ss at closed
  unfold releaseFrame clientSsAllocationTimeoutHandler at sent
  rw [open'] at sent
  dsimp only at sent
  rw [← closed] at sent
  cases sent

/-- A notice that names the relay that expired is sent exactly when that is the IPv4 session with an IPv4 socket, and
the client is there on a UDP socket that can send and whose limit lets the notice pass. -/
theorem release_notice_names_relay {ss : SuperSession} {family : Family} {s : RelaySocket} (socket : SendSocket)
    (env : SendEnv) (known : family = .inet ∨ family = .inet6) (open' : (getRelaySession ss family).s = some s) :
    ReleaseNamed ss socket env family ↔ family = .inet ∧ s.localAddr.family = .inet ∧ NoticeGoes ss socket env := by
  rcases known with rfl | rfl
  · have frame := releaseFrame_inet open' socket env
    constructor
    · rintro ⟨⟨s', d, isOpen, sent, names⟩, _⟩
      cases isOpen.symm.trans open'
      rw [frame] at sent
      exact ⟨rfl, writeClientConnection_iff.mp ⟨d, sent, names⟩⟩
    · rintro ⟨_, goes⟩
      obtain ⟨d, sent, names⟩ := writeClientConnection_iff.mpr goes
      refine ⟨⟨s, d, open', frame.trans sent, names⟩, ?_⟩
      intro other same
      change other.relay4 = ss.relay4 at same
      rw [notifyReleaseRelaySession, notifyReleaseRelaySession, same]
  · exact ⟨fun named => absurd named (not_releaseNamed_inet6 ss socket env), fun same => nomatch same.1⟩

/-- An allocation with a relay socket of either family; the IPv4 one has been refreshed last. -/
def exampleDual : SuperSession :=
  { exampleAllocated.ss with
    relay4 := ⟨some ⟨.inet 0x0100000A 49152, false, false⟩, 1300, some 1300⟩
    relay6 := ⟨some ⟨⟨.inet6, 49153, 0, List.replicate 16 1⟩, false, false⟩, 700, some 700⟩ }

theorem exampleClientSocket_goes : NoticeGoes exampleDual exampleClientSocket exampleSendEnv where
  client := rfl
  usable := ⟨⟨rfl, rfl, rfl, rfl, by decide⟩, by decide⟩
  plain := ⟨by decide, rfl⟩
  limit := Or.inr fun bps same => Or.inl (Option.some.inj same ▸ Nat.zero_lt_one)

theorem release_notice_names_relay_dual :
    ReleaseNamed exampleDual exampleClientSocket exampleSendEnv .inet ∧
      ¬ ReleaseNamed exampleDual exampleClientSocket exampleSendEnv .inet6 ∧
      ¬ ReleaseNamed { exampleDual with client := none } exampleClientSocket exampleSendEnv .inet :=
  ⟨(release_notice_names_relay _ _ (Or.inl rfl) rfl).mpr ⟨rfl, rfl, exampleClientSocket_goes⟩,
    (fun named => nomatch ((release_notice_names_relay _ _ (Or.inr rfl) rfl).mp named).1),
    (fun named => nomatch ((release_notice_names_relay _ _ (Or.inl rfl) rfl).mp named).2.2.client)⟩

/-- The IPv6 relay of a dual allocation expires, and the notice is made from the IPv4 one. -/
theorem expired_ipv6_relay_unnamed :
    ¬ ∀ (ss : SuperSession) (socket : SendSocket) (env : SendEnv) (family : Family) (s : RelaySocket),
      NoticeGoes ss socket env → family = .inet ∨ family = .inet6 → (getRelaySession ss family).s = some s →
      ReleaseNamed ss socket env family := by
  intro claimed
  exact not_releaseNamed_inet6 exampleDual exampleClientSocket exampleSendEnv
    (claimed _ _ _ .inet6 _ exampleClientSocket_goes (Or.inr rfl) rfl)

end Server
end TurnCluster
