import TurnCluster.Server.SocketSend

namespace TurnCluster
namespace Tcp

open Relay Server

/-- The bytes of a buffer that its accessors give to a stream: those behind the place of the header of the cluster. -/
def payload (nbh : StunBuffer) : List UInt8 := (nbh.view nbh.data).slice 0 nbh.getSize

/-- A buffer is shorter than the header, so that its size wraps. -/
def Wraps (nbh : StunBuffer) : Prop := 2 ^ 63 ≤ nbh.getSize

instance (nbh : StunBuffer) : Decidable (Wraps nbh) := inferInstanceAs (Decidable (_ ≤ _))

/-- A read from a stream socket, which fits into a buffer. -/
structure Read where
  bytes : List UInt8
  fits : bytes.length ≤ stunBufferSize

namespace Read

def buffer (r : Read) : StunBuffer := .received (.ofList r.bytes) r.bytes.length

/-- What lies behind the place of the header of the cluster. -/
def body (r : Read) : List UInt8 := r.bytes.drop stunCustomHeaderLen

/-- The read is longer than the header of the cluster, or as long. -/
def Long (r : Read) : Prop := stunCustomHeaderLen ≤ r.bytes.length

instance (r : Read) : Decidable r.Long := inferInstanceAs (Decidable (_ ≤ _))

theorem getSize_buffer {r : Read} (long : r.Long) : r.buffer.getSize = r.bytes.length - stunCustomHeaderLen :=
  sizeSub_of_le long (Nat.lt_of_le_of_lt r.fits (by decide))

theorem wraps_iff (r : Read) : Wraps r.buffer ↔ ¬ r.Long := by
  have fits : r.bytes.length ≤ 65507 := r.fits
  have header : stunCustomHeaderLen = 14 := rfl
  constructor
  · intro wraps long
    rw [Wraps, getSize_buffer long] at wraps
    omega
  · intro short
    have few : r.bytes.length < 14 := Nat.lt_of_not_le short
    show 2 ^ 63 ≤ sizeSub r.bytes.length stunCustomHeaderLen
    unfold sizeSub
    omega

/-- The first fourteen bytes of a read are lost. -/
theorem payload_buffer {r : Read} (long : r.Long) : payload r.buffer = r.body := by
  have parts : (Memory.ofList r.bytes).slice 0 stunCustomHeaderLen ++
      (Memory.ofList r.bytes).slice stunCustomHeaderLen (r.bytes.length - stunCustomHeaderLen) = r.bytes := by
    have split := Memory.slice_append (.ofList r.bytes) 0 stunCustomHeaderLen (r.bytes.length - stunCustomHeaderLen)
    rw [Nat.add_sub_cancel' long, Memory.slice_ofList, Nat.zero_add] at split
    exact split.symm
  have behind : payload r.buffer =
      (Memory.ofList r.bytes).slice stunCustomHeaderLen (r.bytes.length - stunCustomHeaderLen) := by
    unfold payload
    rw [getSize_buffer long]
    apply Memory.slice_congr
    intro i _
    show Memory.ofList r.bytes (18 + (0 + i) - 4) = Memory.ofList r.bytes (14 + i)
    congr 1
    omega
  rw [behind]
  exact (List.drop_left' (Memory.length_slice ..)).symm.trans (congrArg (List.drop stunCustomHeaderLen) parts)

end Read

/-- What was written are the bodies of the first reads, none of which is short. -/
def Begins (written : List (List UInt8)) (reads : List Read) : Prop :=
  ∃ first, first <+: reads ∧ (∀ r ∈ first, r.Long) ∧ written = first.map Read.body

/-- A socket for the data of a TCP connection: a connected stream, which no bandwidth limits. -/
structure IsData (s : SendSocket) : Prop where
  connected : s.connected = true
  bev : s.bev = true
  tcpData : s.tcpData = true
  unlimited : s.bandwidth.sat = .other

/-- What a send can change of a data socket. -/
structure Marked (s s' : SendSocket) : Prop where
  same : ∃ toBeClosed broken, s' = { s with toBeClosed := toBeClosed, broken := broken }

theorem Marked.isData {s s' : SendSocket} (marked : Marked s s') (data : IsData s) : IsData s' := by
  obtain ⟨toBeClosed, broken, rfl⟩ := marked.same
  exact ⟨data.connected, data.bev, data.tcpData, data.unlimited⟩

section Send

variable {s : SendSocket} {env : SendEnv} {nbh : StunBuffer}

theorem Marked.refl (s : SendSocket) : Marked s s := ⟨s.toBeClosed, s.broken, rfl⟩

/-- `ioa_socket_tobeclosed` leaves a usable socket alone, and no other one open. -/
theorem ioaSocketToBeClosed_cases (s : SendSocket) (env : SendEnv) :
    s.Usable env ∧ s.ioaSocketToBeClosed env = (s, false) ∨
      (s.ioaSocketToBeClosed env).2 = true ∧ ¬ (s.ioaSocketToBeClosed env).1.Open ∧
        Marked s (s.ioaSocketToBeClosed env).1 := by
  by_cases gone : s.magic = false ∨ s.done = true ∨ s.toBeClosed = true
  · have closed : s.ioaSocketToBeClosed env = (s, true) := if_pos gone
    rw [closed]
    refine Or.inr ⟨rfl, fun isOpen => ?_, .refl s⟩
    rcases gone with magic | done | marked
    · exact absurd (isOpen.magic.symm.trans magic) (by decide)
    · exact absurd (isOpen.done.symm.trans done) (by decide)
    · exact absurd (isOpen.toBeClosed.symm.trans marked) (by decide)
  · by_cases broken : s.broken = true ∨ s.fd < 0 ∨ s.ssl = true ∧ env.sslShutdown = true
    · have marked : s.ioaSocketToBeClosed env = ({ s with toBeClosed := true }, true) :=
        (if_neg gone).trans (if_pos broken)
      rw [marked]
      exact Or.inr ⟨rfl, fun isOpen => Bool.noConfusion isOpen.toBeClosed, ⟨true, s.broken, rfl⟩⟩
    · have usable : s.ioaSocketToBeClosed env = (s, false) := (if_neg gone).trans (if_neg broken)
      exact Or.inl ⟨SendSocket.usable_of_open (by rw [usable]), usable⟩

theorem IsData.send_eq (data : IsData s) (opened : ¬ (s.done = true ∨ s.fd = -1)) :
    s.sendDataFromIoaSocketNbh env none nbh =
      if (s.ioaSocketToBeClosed env).2 = true then ⟨(s.ioaSocketToBeClosed env).1, -1, false, none⟩
      else (s.ioaSocketToBeClosed env).1.sendStream env nbh := by
  have free : s.bandwidth.check ⟨nbh, false, env.jiffie⟩ = (s.bandwidth, true) := by
    unfold BandwidthSocket.check
    rw [data.unlimited]
  unfold SendSocket.sendDataFromIoaSocketNbh
  rw [if_neg opened, free]
  dsimp only
  rw [if_neg (by decide)]
  split
  · rfl
  · rename_i usable
    rcases ioaSocketToBeClosed_cases s env with ⟨_, same⟩ | ⟨closed, _⟩
    · rw [same]
      exact if_pos ⟨data.connected, data.bev⟩
    · exact absurd closed usable

/-- How a data socket sends. One that is not usable, that is shut down or whose write fails gives nothing on and is not
open behind that; otherwise the payload is written, and its size has not wrapped. -/
theorem IsData.send_cases (data : IsData s) (env : SendEnv) (nbh : StunBuffer) :
    let result := s.sendDataFromIoaSocketNbh env none nbh
    result.sent = none ∧ ¬ result.socket.Open ∧ Marked s result.socket ∨
      s.Open ∧ ¬ Wraps nbh ∧ result = ⟨s, intOfSize nbh.getSize, false, some (.stream (payload nbh))⟩ := by
  by_cases closed : s.done = true ∨ s.fd = -1
  · have unchanged : s.sendDataFromIoaSocketNbh env none nbh = ⟨s, -1, false, none⟩ := if_pos closed
    rw [unchanged]
    refine Or.inl ⟨rfl, fun isOpen => ?_, .refl s⟩
    have fd : 0 ≤ s.fd := isOpen.fd
    rcases closed with done | fd'
    · exact absurd (isOpen.done.symm.trans done) (by decide)
    · omega
  · rw [data.send_eq closed]
    rcases ioaSocketToBeClosed_cases s env with ⟨usable, same⟩ | ⟨marked, notOpen, same⟩
    · rw [same, if_neg Bool.false_ne_true]
      unfold SendSocket.sendStream
      dsimp only
      split
      · exact Or.inl ⟨rfl, fun isOpen => Bool.noConfusion isOpen.toBeClosed, ⟨true, s.broken, rfl⟩⟩
      · rw [if_neg (by simp [SendSocket.isSocketWriteable, data.tcpData])]
        split
        · exact Or.inl ⟨rfl, fun isOpen => Bool.noConfusion isOpen.toBeClosed, ⟨true, true, rfl⟩⟩
        · rename_i writes
          simp only [SendSocket.buffereventWrite, Bool.not_eq_false, Bool.and_eq_true, decide_eq_true_eq] at writes
          exact Or.inr ⟨usable.toOpen, Nat.not_le.mpr writes.2, rfl⟩
    · rw [if_pos marked]
      exact Or.inl ⟨rfl, notOpen, same⟩

end Send

/-- The socket of one side, and what was written to it, write by write. -/
structure Stream where
  socket : SendSocket
  written : List (List UInt8)

namespace Stream

/-- What a send has handed to the stream. -/
def handed : Option Sent → List (List UInt8)
  | some (.stream data) => [data]
  | _ => []

/-- `send_data_from_ioa_socket_nbh`, with what it returns. -/
def send (s : Stream) (env : SendEnv) (nbh : StunBuffer) : Stream × Int :=
  let result := s.socket.sendDataFromIoaSocketNbh env none nbh
  (⟨result.socket, s.written ++ handed result.sent⟩, result.ret)

/-- `set_ioa_socket_tobeclosed` -/
def close (s : Stream) : Stream := { s with socket := { s.socket with toBeClosed := true } }

/-- What was written are the payloads of the first buffers that were sent, none of which wraps, and of all as long as
the socket is open. -/
structure Carries (s : Stream) (sent : List StunBuffer) : Prop where
  data : IsData s.socket
  part : ∃ first, first <+: sent ∧ (∀ nbh ∈ first, ¬ Wraps nbh) ∧ s.written = first.map payload ∧
    (s.socket.Open → first = sent)

variable {s : Stream} {sent : List StunBuffer}
variable {reads : List Read} {socket : SendSocket}

theorem Carries.new (data : IsData socket) : (⟨socket, []⟩ : Stream).Carries [] :=
  ⟨data, [], List.prefix_rfl, fun _ no => (nomatch no), rfl, fun _ => rfl⟩

theorem Carries.stop (carries : s.Carries sent) (marked : Marked s.socket socket) (notOpen : ¬ socket.Open)
    (more : List StunBuffer) : (⟨socket, s.written⟩ : Stream).Carries (sent ++ more) := by
  obtain ⟨first, front, whole, written, _⟩ := carries.part
  exact ⟨marked.isData carries.data, first, front.trans (List.prefix_append ..), whole, written,
    fun isOpen => absurd isOpen notOpen⟩

theorem Carries.close (carries : s.Carries sent) : s.close.Carries sent := by
  have stopped := carries.stop ⟨true, s.socket.broken, rfl⟩ (fun isOpen => Bool.noConfusion isOpen.toBeClosed) []
  rw [List.append_nil] at stopped
  exact stopped

theorem Carries.send (carries : s.Carries sent) (env : SendEnv) (nbh : StunBuffer) :
    (s.send env nbh).1.Carries (sent ++ [nbh]) := by
  rcases carries.data.send_cases env nbh with ⟨unsent, notOpen, marked⟩ | ⟨isOpen, fits, result⟩
  · have same : (s.send env nbh).1 = ⟨(s.socket.sendDataFromIoaSocketNbh env none nbh).socket, s.written⟩ := by
      simp only [Stream.send, unsent, handed, List.append_nil]
    rw [same]
    exact carries.stop marked notOpen [nbh]
  · obtain ⟨_, _, whole, written, all⟩ := carries.part
    rw [all isOpen] at whole written
    have after : (s.send env nbh).1 = ⟨s.socket, s.written ++ [payload nbh]⟩ := by
      simp only [Stream.send, result, handed]
    rw [after]
    refine ⟨carries.data, sent ++ [nbh], List.prefix_rfl, fun other member => ?_, ?_, fun _ => rfl⟩
    · rcases List.mem_append.mp member with before | last
      · exact whole other before
      · rw [List.mem_singleton.mp last]
        exact fits
    · rw [List.map_append, ← written]
      rfl

theorem bodies_of_whole (whole : ∀ nbh ∈ reads.map Read.buffer, ¬ Wraps nbh) :
    (∀ r ∈ reads, r.Long) ∧ (reads.map Read.buffer).map payload = reads.map Read.body := by
  have long : ∀ r ∈ reads, r.Long := fun r member =>
    not_not.mp fun short => whole r.buffer (List.mem_map_of_mem member) (r.wraps_iff.mpr short)
  refine ⟨long, ?_⟩
  rw [List.map_map]
  refine List.map_congr_left fun r member => ?_
  rw [Function.comp_apply]
  exact Read.payload_buffer (long r member)

theorem Carries.relayed (carries : s.Carries (reads.map Read.buffer)) :
    Begins s.written reads ∧ (s.socket.Open → s.written = reads.map Read.body) := by
  obtain ⟨first, front, whole, written, all⟩ := carries.part
  constructor
  · obtain ⟨begun, part, rfl⟩ := List.prefix_map_iff.mp front
    obtain ⟨long, bodies⟩ := bodies_of_whole whole
    exact ⟨begun, part, long, written.trans bodies⟩
  · intro isOpen
    rw [all isOpen] at whole written
    exact written.trans (bodies_of_whole whole).2

theorem Carries.answered {answer : StunBuffer} (carries : s.Carries (answer :: reads.map Read.buffer)) :
    (s.written = [] ∨ ∃ behind, s.written = payload answer :: behind ∧ Begins behind reads) ∧
      (s.socket.Open → s.written = payload answer :: reads.map Read.body) := by
  obtain ⟨first, front, whole, written, all⟩ := carries.part
  constructor
  · cases first with
    | nil => exact Or.inl written
    | cons nbh rest =>
      obtain ⟨rfl, behind⟩ := List.cons_prefix_cons.mp front
      obtain ⟨begun, part, rfl⟩ := List.prefix_map_iff.mp behind
      obtain ⟨long, bodies⟩ := bodies_of_whole fun nbh member => whole nbh (List.mem_cons_of_mem _ member)
      rw [List.map_cons, bodies] at written
      exact Or.inr ⟨_, written, begun, part, long, rfl⟩
  · intro isOpen
    rw [all isOpen, List.map_cons] at written
    rw [all isOpen] at whole
    rw [written, (bodies_of_whole fun nbh member => whole nbh (List.mem_cons_of_mem _ member)).2]

end Stream
end Tcp
end TurnCluster
