import TurnCluster.Relay.Bandwidth
import TurnCluster.Server.Send

namespace TurnCluster

open Relay

namespace Server

def buffereventMaxUdpToTcpWrite : Nat := 64 * 2 ^ 9

/-- What `send_data_from_ioa_socket_nbh` uses of an `ioa_socket`. -/
structure SendSocket where
  /-- `magic == SOCKET_MAGIC`. -/
  magic : Bool
  done : Bool
  toBeClosed : Bool
  broken : Bool
  fd : Int
  connected : Bool
  /-- There is a `bev`, as stream sockets have one. -/
  bev : Bool
  /-- `st` is one of the TLS types. -/
  tls : Bool
  ssl : Bool
  /-- `parent_s` is set. -/
  child : Bool
  /-- `sat` is `TCP_CLIENT_DATA_SOCKET` or `TCP_RELAY_DATA_SOCKET`. -/
  tcpData : Bool
  defaultTtl : Int
  defaultTos : Nat
  localAddr : IoaAddr
  remoteAddr : IoaAddr
  bandwidth : BandwidthSocket

/-- What the engine, the libraries and the system answer during a send. -/
structure SendEnv where
  jiffie : Nat
  tcpCongestionControl : Bool
  /-- `SSL_get_shutdown` -/
  sslShutdown : Bool
  /-- The bytes that wait in the output buffer of the `bev`. -/
  outputLength : Nat
  buffereventWrite : Bool
  sslSend : Int
  udpSend : Int

/-- What a send hands on: bytes to the buffer of a stream, a DTLS record, or a datagram. -/
inductive Sent
  | stream (data : List UInt8)
  | record (data : List UInt8)
  | datagram (d : Datagram)
  deriving DecidableEq

/-- The socket after a send, what the send returns, its `skip`, and what it has handed on. -/
structure SendResult where
  socket : SendSocket
  ret : Int
  skip : Bool
  sent : Option Sent

namespace SendSocket

/-- `ioa_socket_tobeclosed`, which marks a broken socket. -/
def ioaSocketToBeClosed (s : SendSocket) (env : SendEnv) : SendSocket × Bool :=
  if s.magic = false ∨ s.done = true ∨ s.toBeClosed = true then (s, true)
  else if s.broken = true ∨ s.fd < 0 ∨ s.ssl = true ∧ env.sslShutdown = true then ({ s with toBeClosed := true }, true)
  else (s, false)

/-- `is_socket_writeable` of a usable stream socket, for a packet. -/
def isSocketWriteable (s : SendSocket) (env : SendEnv) (size : Int) : Bool :=
  s.tcpData || decide ((env.outputLength + sizeOfInt size) % 2 ^ 64 < buffereventMaxUdpToTcpWrite)

/-- `bufferevent_write` has no room for a size that has wrapped. -/
def buffereventWrite (env : SendEnv) (size : Nat) : Bool := env.buffereventWrite && decide (size < 2 ^ 63)

/-- A send through the `bev`. A packet that finds no room is dropped. -/
def sendStream (s : SendSocket) (env : SendEnv) (nbh : StunBuffer) : SendResult :=
  if s.tls = true ∧ env.sslShutdown = true then ⟨{ s with toBeClosed := true }, 0, false, none⟩
  else
    let ret := intOfSize nbh.getSize
    if env.tcpCongestionControl = true ∧ s.isSocketWriteable env ret = false then ⟨s, ret, false, none⟩
    else if buffereventWrite env nbh.getSize = false then ⟨{ s with toBeClosed := true, broken := true }, -1, false, none⟩
    else ⟨s, ret, false, some (.stream ((nbh.view nbh.data).slice 0 nbh.getSize))⟩

/-- A send of a DTLS socket. -/
def sendRecord (s : SendSocket) (env : SendEnv) (nbh : StunBuffer) : SendResult :=
  ⟨{ s with toBeClosed := s.toBeClosed || decide (env.sslSend < 0) }, env.sslSend, false,
    some (.record ((nbh.view nbh.data).slice 0 (intOfSize nbh.getSize).toNat))⟩

/-- Without a destination, a socket that is not connected on its own sends to an address made from its local one, which
it takes for its remote address. -/
def destination (s : SendSocket) (dest : Option IoaAddr) : SendSocket × IoaAddr :=
  if s.connected = true ∧ s.child = false then (s, s.remoteAddr)
  else
    match dest with
    | some dest => (s, dest)
    | none =>
      let remote := { s.remoteAddr with family := .inet, port := 44070, ip4 := s.localAddr.ip4 }
      ({ s with remoteAddr := remote }, remote)

/-- A send of a plain UDP socket, with the header of the cluster. -/
def sendDatagram (s : SendSocket) (env : SendEnv) (dest : Option IoaAddr) (nbh : StunBuffer) :
    SendResult :=
  let target := s.destination dest
  ⟨{ target.1 with toBeClosed := s.toBeClosed || decide (env.udpSend < 0) }, env.udpSend, false,
    some (.datagram (sendDataFromIoaSocketNbh target.2 nbh s.defaultTtl s.defaultTos))⟩

/-- `send_data_from_ioa_socket_nbh` with `TTL_IGNORE` and `TOS_IGNORE`. A packet beyond the limit is dropped, as if everything were fine. -/
def sendDataFromIoaSocketNbh (s : SendSocket) (env : SendEnv) (dest : Option IoaAddr) (nbh : StunBuffer) :
    SendResult :=
  if s.done = true ∨ s.fd = -1 then ⟨s, -1, false, none⟩
  else
    let (bandwidth, passes) := s.bandwidth.check ⟨nbh, false, env.jiffie⟩
    let s := { s with bandwidth := bandwidth }
    if passes = false then ⟨s, intOfSize nbh.getSize, true, none⟩
    else
      let (s, closed) := s.ioaSocketToBeClosed env
      if closed = true then ⟨s, -1, false, none⟩
      else if s.connected = true ∧ s.bev = true then s.sendStream env nbh
      else if s.ssl = true then s.sendRecord env nbh
      else s.sendDatagram env dest nbh

/-- The socket is neither closed nor to be closed. -/
structure Open (s : SendSocket) : Prop where
  magic : s.magic = true
  done : s.done = false
  toBeClosed : s.toBeClosed = false
  broken : s.broken = false
  fd : 0 ≤ s.fd

theorem open_iff {s : SendSocket} :
    s.Open ↔ s.magic = true ∧ s.done = false ∧ s.toBeClosed = false ∧ s.broken = false ∧ 0 ≤ s.fd :=
  ⟨fun ⟨magic, done, toBeClosed, broken, fd⟩ => ⟨magic, done, toBeClosed, broken, fd⟩,
    fun ⟨magic, done, toBeClosed, broken, fd⟩ => ⟨magic, done, toBeClosed, broken, fd⟩⟩

instance (s : SendSocket) : Decidable s.Open := decidable_of_iff' _ open_iff

/-- The socket is open, and so is its TLS layer. -/
structure Usable (s : SendSocket) (env : SendEnv) : Prop extends s.Open where
  ssl : ¬ (s.ssl = true ∧ env.sslShutdown = true)

/-- Neither a stream nor a DTLS socket. -/
def Plain (s : SendSocket) : Prop := ¬ (s.connected = true ∧ s.bev = true) ∧ s.ssl = false

variable {s : SendSocket} {env : SendEnv}

theorem ioaSocketToBeClosed_of_usable (usable : s.Usable env) : s.ioaSocketToBeClosed env = (s, false) := by
  obtain ⟨⟨magic, done, toBeClosed, broken, fd⟩, ssl⟩ := usable
  unfold ioaSocketToBeClosed
  rw [if_neg (by simp [magic, done, toBeClosed]), if_neg]
  rintro (no | no | no)
  · simp [broken] at no
  · omega
  · exact ssl no

theorem usable_of_open (opened : (s.ioaSocketToBeClosed env).2 = false) : s.Usable env := by
  unfold ioaSocketToBeClosed at opened
  split_ifs at opened with closed marked
  push Not at closed marked
  obtain ⟨magic, done, toBeClosed⟩ := closed
  obtain ⟨broken, fd, ssl⟩ := marked
  exact ⟨⟨by simpa using magic, by simpa using done, by simpa using toBeClosed, by simpa using broken, fd⟩,
    fun both => absurd both.2 (ssl both.1)⟩

/-- A stream is handed the payload of a buffer, without the header of the cluster in front of it. -/
theorem sendStream_sent {nbh : StunBuffer} {sent : Sent} (out : (s.sendStream env nbh).sent = some sent) :
    sent = .stream ((nbh.view nbh.data).slice 0 nbh.getSize) ∧ nbh.getSize < 2 ^ 63 := by
  unfold sendStream at out
  dsimp only at out
  split_ifs at out with _ _ fails
  cases out
  refine ⟨rfl, ?_⟩
  simp only [buffereventWrite, Bool.not_eq_false, Bool.and_eq_true, decide_eq_true_eq] at fails
  exact fails.2

theorem destination_withBandwidth (bandwidth : BandwidthSocket) (dest : Option IoaAddr) :
    ({ s with bandwidth := bandwidth }.destination dest).2 = (s.destination dest).2 := by
  unfold destination
  dsimp only
  split
  · rfl
  · cases dest <;> rfl

section Send

variable (dest : Option IoaAddr) (nbh : StunBuffer)

theorem send_of_usable (usable : s.Usable env) (passes : (s.bandwidth.check ⟨nbh, false, env.jiffie⟩).2 = true) :
    s.sendDataFromIoaSocketNbh env dest nbh =
      let s' := { s with bandwidth := (s.bandwidth.check ⟨nbh, false, env.jiffie⟩).1 }
      if s.connected = true ∧ s.bev = true then s'.sendStream env nbh
      else if s.ssl = true then s'.sendRecord env nbh
      else s'.sendDatagram env dest nbh := by
  have isOpen : ¬ (s.done = true ∨ s.fd = -1) := by
    have fd := usable.fd
    rintro (done | closed)
    · simp [usable.done] at done
    · omega
  have checked : ({ s with bandwidth := (s.bandwidth.check ⟨nbh, false, env.jiffie⟩).1 } : SendSocket).Usable env :=
    ⟨⟨usable.magic, usable.done, usable.toBeClosed, usable.broken, usable.fd⟩, usable.ssl⟩
  simp [sendDataFromIoaSocketNbh, isOpen, passes, ioaSocketToBeClosed_of_usable checked]

theorem usable_of_sent {sent : Sent} (out : (s.sendDataFromIoaSocketNbh env dest nbh).sent = some sent) :
    s.Usable env ∧ (s.bandwidth.check ⟨nbh, false, env.jiffie⟩).2 = true := by
  unfold sendDataFromIoaSocketNbh at out
  split at out
  · cases out
  · dsimp only at out
    split at out
    · cases out
    · rename_i passes
      split at out
      · cases out
      · rename_i opened
        obtain ⟨⟨magic, done, toBeClosed, broken, fd⟩, ssl⟩ := usable_of_open (by simpa using opened)
        exact ⟨⟨⟨magic, done, toBeClosed, broken, fd⟩, ssl⟩, by simpa using passes⟩

theorem sent_datagram_iff (d : Datagram) :
    (s.sendDataFromIoaSocketNbh env dest nbh).sent = some (.datagram d) ↔
      s.Usable env ∧ s.Plain ∧ (s.bandwidth.check ⟨nbh, false, env.jiffie⟩).2 = true ∧
        d = Server.sendDataFromIoaSocketNbh (s.destination dest).2 nbh s.defaultTtl s.defaultTos := by
  constructor
  · intro out
    obtain ⟨usable, passes⟩ := usable_of_sent dest nbh out
    rw [send_of_usable dest nbh usable passes] at out
    dsimp only at out
    split at out
    · cases (sendStream_sent out).1
    · rename_i notStream
      split at out
      · cases out
      · rename_i noSsl
        refine ⟨usable, ⟨notStream, by simpa using noSsl⟩, passes, ?_⟩
        rw [← destination_withBandwidth]
        exact (Sent.datagram.inj (Option.some.inj out)).symm
  · rintro ⟨usable, ⟨notStream, noSsl⟩, passes, rfl⟩
    rw [send_of_usable dest nbh usable passes]
    dsimp only
    rw [if_neg notStream, if_neg (by simp [noSsl]), ← destination_withBandwidth]
    rfl

end Send
end SendSocket

/-- The socket of a UDP client, a child of the listener 10.0.0.2, in a session without a limit. -/
def exampleClientSocket : SendSocket where
  magic := true
  done := false
  toBeClosed := false
  broken := false
  fd := 5
  connected := false
  bev := false
  tls := false
  ssl := false
  child := true
  tcpData := false
  defaultTtl := 64
  defaultTos := 0
  localAddr := .inet 0x0200000A 0x960D
  remoteAddr := .inet 0x0300000A 0x3930
  bandwidth := .new .client 0

def exampleSendEnv : SendEnv where
  jiffie := 7
  tcpCongestionControl := true
  sslShutdown := false
  outputLength := 0
  buffereventWrite := true
  sslSend := 0
  udpSend := 14

end Server
end TurnCluster
