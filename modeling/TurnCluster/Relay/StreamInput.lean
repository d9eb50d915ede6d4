import TurnCluster.Stun.Framing

namespace TurnCluster
namespace StreamInput

/-- A `TCP_SOCKET` of a client with what waits in its buffer. -/
structure Socket where
  tobeclosed : Bool
  input : List UInt8
  /-- What the callback was given, from `buf.buf` on. Its accessors read from the fifteenth byte of that. -/
  delivered : List (List UInt8)

/-- What a call of `socket_input_worker` meets: the bytes left in the buffer it takes, whether the bandwidth suffices,
and whether the callback marks the socket to be closed. -/
structure Turn where
  stale : Memory
  bandwidth : Bool
  closes : Bool

/-- The input is copied to the buffer, as far as it has room. -/
def copyout (stale : Memory) (input : List UInt8) : Memory × Nat :=
  (stale.write 0 (input.take maxStunMessageSize), (input.take maxStunMessageSize).length)

section Worker

variable (strtoul : Memory → Nat)

/-- `socket_input_worker` -/
def socketInputWorker (t : Turn) (s : Socket) : Socket × Int :=
  if s.tobeclosed = true then (s, 0)
  else
    let (buf, blen) := copyout t.stale s.input
    let (mlen, appLen) := stunGetMessageLenStr strtoul buf blen true 0
    if 0 < mlen ∧ mlen ≤ blen then
      let message := s.input.take (if appLen ≠ 0 then appLen else mlen.toNat)
      let s := { s with input := s.input.drop mlen.toNat }
      if t.bandwidth = true then (⟨t.closes, s.input, s.delivered ++ [message]⟩, mlen) else (s, mlen)
    else (s, -1)

/-- The rounds of `socket_input_handler_bev`: `cycle++` is compared with 128 after each of them. -/
def inputRounds : Nat := 129

def inputLoop (turn : Nat → Turn) : Nat → Socket → Socket
  | 0, s => s
  | rounds + 1, s =>
    -- `read_spare_buffer_bev`
    if s.tobeclosed = true then { s with input := s.input.drop 8192 }
    else
      let worked := socketInputWorker strtoul (turn rounds) s
      if worked.2 ≤ 0 then worked.1 else inputLoop turn rounds worked.1

/-- Bytes arrive, with what the calls for them meet. -/
structure Arrival where
  bytes : List UInt8
  turn : Nat → Turn

/-- `socket_input_handler_bev` -/
def socketInputHandlerBev (s : Socket) (a : Arrival) : Socket :=
  inputLoop strtoul a.turn inputRounds { s with input := s.input ++ a.bytes }

end Worker

/-- The bandwidth suffices, and the callback does not close the socket. -/
def Calm (turn : Nat → Turn) : Prop := ∀ round, (turn round).bandwidth = true ∧ (turn round).closes = false

/-- A STUN message, or ChannelData with its padding that does not start like an HTTP request; and its length without
padding. -/
inductive Framed (bytes : List UInt8) : Nat → Prop
  | stun (starts : startsCommand (.ofList bytes) bytes.length = true)
      (whole : bytes.length = stunHeaderLength + lengthField (.ofList bytes)) : Framed bytes bytes.length
  | channel (valid : stunValidChannel (net16 (.ofList bytes) 0) = true)
      (whole : bytes.length = channelFrameLen (.ofList bytes) true)
      (plain : ∀ method ∈ httpMethods, ¬ ∀ i < 4, Memory.ofList bytes i = method.getD i 0) :
      Framed bytes (4 + lengthField (.ofList bytes))

/-- A message as it is sent over a stream. -/
structure Frame where
  bytes : List UInt8
  appLen : Nat
  framed : Framed bytes appLen
  fits : bytes.length ≤ maxStunMessageSize

def Frame.message (f : Frame) : List UInt8 := f.bytes.take f.appLen

theorem Frame.lengths (f : Frame) : 4 ≤ f.bytes.length ∧ 0 < f.appLen ∧ f.appLen ≤ f.bytes.length := by
  obtain ⟨bytes, appLen, framed, fits⟩ := f
  cases framed with
  | stun starts whole => simp only [stunHeaderLength] at whole ⊢; omega
  | channel valid whole plain =>
    have lower := le_roundUp4 (4 + lengthField (.ofList bytes))
    simp only [channelFrameLen, if_true] at whole ⊢
    omega

section Parse

variable {strtoul : Memory → Nat} {buf : Memory} {blen : Nat} {f : Frame}

theorem sheadof_apply {head : List UInt8} {full : Memory} (starts : sheadof head full false = true) {i : Nat}
    (inside : i < head.length) : full i = head.getD i 0 := by
  induction head generalizing full i with
  | nil => cases inside
  | cons c rest ih =>
    simp only [sheadof, Bool.false_and, Bool.or_false, Bool.and_eq_true, beq_iff_eq] at starts
    cases i with
    | zero => exact starts.1.symm
    | succ i =>
      have later := ih starts.2 (Nat.lt_of_succ_lt_succ inside)
      rwa [Memory.shift_apply, Nat.add_comm] at later

/-- The buffer starts with these bytes, as far as they have come. -/
def Starts (buf : Memory) (blen : Nat) (bytes : List UInt8) : Prop :=
  ∀ i, i < blen → i < bytes.length → buf i = Memory.ofList bytes i

theorem Starts.not_http (starts : Starts buf blen f.bytes) : ¬ HoldsHttp strtoul buf blen := by
  rintro ⟨positive, _⟩
  have some : ¬ (blen < 12 ∨ httpMethods.any (fun method => sheadof method buf false) = false) := fun none =>
    absurd positive (by rw [isHttpInline, if_pos none]; decide)
  obtain ⟨long, listed⟩ := not_or.mp some
  obtain ⟨method, member, found⟩ := List.any_eq_true.mp (Bool.eq_true_of_not_eq_false listed)
  have size : ∀ method ∈ httpMethods, 4 ≤ method.length := by decide
  have letters : ∀ method ∈ httpMethods, method.getD 0 0 &&& 0xC0 ≠ 0 := by decide
  have four := f.lengths.1
  have same : ∀ i < 4, Memory.ofList f.bytes i = method.getD i 0 := fun i less =>
    (starts i (by omega) (by omega)).symm.trans (sheadof_apply found (less.trans_le (size method member)))
  obtain ⟨bytes, appLen, framed, fits⟩ := f
  cases framed with
  | stun command whole =>
    simp only [startsCommand, Bool.and_eq_true, beq_iff_eq, same 0 (by omega)] at command
    exact letters method member command.1.1.2
  | channel valid whole plain => exact plain method member same

theorem Starts.messageLen (starts : Starts buf blen f.bytes) :
    (f.bytes.length ≤ blen → stunGetMessageLenStr strtoul buf blen true 0 = ((f.bytes.length : Int), f.appLen)) ∧
      (blen < f.bytes.length → ¬ 0 < (stunGetMessageLenStr strtoul buf blen true 0).1) := by
  have notHttp : ¬ HoldsHttp strtoul buf blen := starts.not_http
  have four := f.lengths.1
  have small : f.bytes.length < 2 ^ 16 := f.fits.trans_lt (by decide)
  have type (long : 4 ≤ blen) : net16 buf 0 = net16 (.ofList f.bytes) 0 :=
    net16_congr (starts 0 (by omega) (by omega)) (starts 1 (by omega) (by omega))
  have sized (long : 4 ≤ blen) : net16 buf 2 = net16 (.ofList f.bytes) 2 :=
    net16_congr (starts 2 (by omega) (by omega)) (starts 3 (by omega) (by omega))
  have field (long : 4 ≤ blen) : lengthField buf = lengthField (.ofList f.bytes) := congrArg UInt16.toNat (sized long)
  obtain ⟨bytes, appLen, framed, fits⟩ := f
  dsimp only at *
  refine ⟨fun come => ?_, fun short positive => ?_⟩
  · have long : 4 ≤ blen := by omega
    cases framed with
    | stun command whole =>
      have header : 20 ≤ bytes.length := whole.ge.trans' (Nat.le_add_right _ _)
      have cookie : net32 buf 4 = net32 (.ofList bytes) 4 :=
        net32_congr fun j less => starts (4 + j) (by omega) (by omega)
      have here : startsCommand buf blen = true := by
        simp only [startsCommand, Bool.and_eq_true, type long, sized long, cookie, starts 0 (by omega) (by omega)]
          at command ⊢
        exact ⟨⟨⟨⟨decide_eq_true (header.trans come), command.1.1.1.2⟩, command.1.1.2⟩, command.1.2⟩, command.2⟩
      have len : ((net16 buf 2).toNat + stunHeaderLength) % 2 ^ 16 = bytes.length := by
        rw [show (net16 buf 2).toNat = lengthField (.ofList bytes) from field long, Nat.add_comm, ← whole,
          Nat.mod_eq_of_lt small]
      unfold stunGetMessageLenStr
      dsimp only
      rw [len, if_pos ⟨here, come⟩]
    | channel valid whole plain =>
      have size : channelFrameLen buf true = bytes.length := by rw [whole, channelFrameLen, field long, channelFrameLen]
      rw [stunGetMessageLenStr_frame (by rw [type long]; exact valid) notHttp (by omega) (by omega), size, field long]
  · obtain ⟨within, found⟩ := stunGetMessageLenStr_cases notHttp (Int.toNat_of_nonneg positive.le).symm
    have nonzero : 0 < (stunGetMessageLenStr strtoul buf blen true 0).1.toNat := by omega
    generalize (stunGetMessageLenStr strtoul buf blen true 0).1.toNat = n at within found nonzero
    rw [if_pos rfl, roundUp16_eq (Nat.mod_lt _ (by decide))] at found
    have long : 4 ≤ blen := by
      have aligned := (roundUp4_spec ((4 + lengthField buf) % 2 ^ 16)).2.2
      rcases found with ⟨command, _⟩ | ⟨_, size⟩
      · simp only [startsCommand, Bool.and_eq_true, decide_eq_true_eq] at command
        exact (show 4 ≤ stunHeaderLength by decide).trans command.1.1.1.1
      · omega
    rw [field long, type long] at found
    rcases found with ⟨command, size⟩ | ⟨channel, size⟩
    · have other := not_channel_of_startsCommand command
      rw [type long] at other
      cases framed with
      | stun command whole =>
        rw [← whole, Nat.mod_eq_of_lt small] at size
        omega
      | channel valid whole plain => exact absurd (other.symm.trans valid) (by decide)
    · cases framed with
      | stun command whole => exact absurd ((not_channel_of_startsCommand command).symm.trans channel) (by decide)
      | channel valid whole plain =>
        have lower := le_roundUp4 (4 + lengthField (.ofList bytes))
        simp only [channelFrameLen, if_true] at whole
        rw [Nat.mod_eq_of_lt (show 4 + lengthField (.ofList bytes) < 2 ^ 16 by omega), ← whole,
          Nat.mod_eq_of_lt small] at size
        omega

theorem starts_copyout (stale : Memory) {input bytes stream : List UInt8} (come : input <+: stream)
    (among : bytes <+: stream) : Starts (copyout stale input).1 (copyout stale input).2 bytes := by
  intro i copied inside
  obtain ⟨behind, rfl⟩ := come
  obtain ⟨more, same⟩ := among
  have short : i < input.length := copied.trans_le (List.length_take_le' _ _)
  have here := congrArg (fun whole => whole[i]?.getD 0) same
  simp only [List.getElem?_append_left inside, List.getElem?_append_left short] at here
  have stored : (copyout stale input).1 (0 + i) = (input.take maxStunMessageSize).getD i 0 := Memory.write_inside copied
  rw [Nat.zero_add] at stored
  simp only [stored, Memory.ofList, List.getD_eq_getElem?_getD, here]
  rw [List.getElem?_take_of_lt (copied.trans_le (List.length_take_le _ _))]

end Parse

/-- The frames as they are sent. -/
def stream (frames : List Frame) : List UInt8 := frames.flatMap Frame.bytes

/-- How many frames lie in the first `n` bytes of their stream. -/
def complete : List Frame → Nat → Nat
  | [], _ => 0
  | f :: rest, n => if f.bytes.length ≤ n then complete rest (n - f.bytes.length) + 1 else 0

section Deliver

variable {strtoul : Memory → Nat} {turn : Nat → Turn} {t : Turn} {s : Socket} {f : Frame} {frames : List Frame}

theorem complete_append (before behind : List Frame) (n : Nat) :
    complete (before ++ behind) ((stream before).length + n) = before.length + complete behind n := by
  induction before with
  | nil => simp [stream]
  | cons f rest ih =>
    have size : (stream (f :: rest)).length = f.bytes.length + (stream rest).length := by simp [stream]
    rw [List.cons_append, complete, if_pos (by omega), size, Nat.add_assoc, Nat.add_sub_cancel_left, ih,
      List.length_cons]
    omega

variable {input : List UInt8} {delivered : List (List UInt8)}

theorem worker_whole (enough : t.bandwidth = true) (stays : t.closes = false) :
    socketInputWorker strtoul t ⟨false, f.bytes ++ input, delivered⟩ =
      (⟨false, input, delivered ++ [f.message]⟩, (f.bytes.length : Int)) := by
  have lengths := f.lengths
  have come : f.bytes.length ≤ (copyout t.stale (f.bytes ++ input)).2 := by
    have fits := f.fits
    simp only [copyout, List.length_take, List.length_append]
    omega
  have starts := starts_copyout t.stale (List.prefix_refl _) (List.prefix_append f.bytes input)
  have here : 0 < (f.bytes.length : Int) ∧ (f.bytes.length : Int) ≤ (copyout t.stale (f.bytes ++ input)).2 := by omega
  have nonzero : f.appLen ≠ 0 := by omega
  simp only [socketInputWorker, Bool.false_eq_true, if_false, starts.messageLen.1 come, if_pos here, if_pos enough,
    if_pos nonzero, stays]
  simp [Frame.message, List.take_append_of_le_length lengths.2.2]

theorem worker_part (come : input <+: stream frames) (none : complete frames input.length = 0) :
    socketInputWorker strtoul t ⟨false, input, delivered⟩ = (⟨false, input, delivered⟩, -1) := by
  refine (if_neg Bool.false_ne_true).trans (if_neg ?_)
  rintro ⟨positive, within⟩
  cases frames with
  | nil => exact absurd (positive.trans_le within) (by simp [List.prefix_nil.mp come])
  | cons f rest =>
    have part : input.length < f.bytes.length := by
      by_contra whole
      rw [complete, if_pos (by omega)] at none
      cases none
    have starts := starts_copyout t.stale come (List.prefix_append f.bytes (stream rest))
    exact starts.messageLen.2 ((List.length_take_le' _ _).trans_lt part) positive

/-- The first frames were delivered, and the bytes that arrived behind them wait. -/
inductive InSync (frames : List Frame) : Nat → List UInt8 → Socket → Prop
  | intro {before behind : List Frame} {input : List UInt8} (split : frames = before ++ behind) :
      InSync frames before.length (stream before ++ input) ⟨false, input, before.map Frame.message⟩

theorem inSync_inputLoop (strtoul : Memory → Nat) (calm : Calm turn) (rounds : Nat) (before : List Frame)
    {behind : List Frame} (split : frames = before ++ behind) (come : input <+: stream behind) :
    InSync frames (min (before.length + rounds) (complete frames ((stream before).length + input.length)))
      (stream before ++ input) (inputLoop strtoul turn rounds ⟨false, input, before.map Frame.message⟩) := by
  induction rounds generalizing before behind input with
  | zero =>
    rw [split, complete_append, Nat.add_zero, Nat.min_eq_left (Nat.le_add_right _ _)]
    exact .intro rfl
  | succ rounds ih =>
    simp only [inputLoop, Bool.false_eq_true, if_false]
    cases count : complete behind input.length with
    | zero =>
      rw [worker_part come count, split, complete_append, count, Nat.min_eq_right (by omega)]
      exact .intro rfl
    | succ m =>
      cases behind with
      | nil => cases count
      | cons f rest =>
        have whole : f.bytes.length ≤ input.length := by
          by_contra part
          rw [complete, if_neg part] at count
          cases count
        obtain ⟨tail, rfl⟩ := List.prefix_of_prefix_length_le (List.prefix_append _ _) come whole
        obtain ⟨enough, stays⟩ := calm rounds
        rw [worker_whole enough stays]
        have nonempty : f.bytes ≠ [] := List.ne_nil_of_length_pos (Nat.lt_of_lt_of_le (by decide) f.lengths.1)
        have later := ih (before ++ [f]) (split.trans (List.append_cons _ _ _))
          ((List.prefix_append_right_inj f.bytes).mp come)
        simpa [stream, nonempty, Nat.add_assoc, Nat.add_comm 1] using later

theorem InSync.arrive (strtoul : Memory → Nat) {done : Nat} {arrived : List UInt8} {s : Socket}
    (sync : InSync frames done arrived s) {a : Arrival} (calm : Calm a.turn)
    (come : arrived ++ a.bytes <+: stream frames) :
    InSync frames (min (done + inputRounds) (complete frames (arrived ++ a.bytes).length)) (arrived ++ a.bytes)
      (socketInputHandlerBev strtoul s a) := by
  obtain ⟨split⟩ := sync
  have later := inSync_inputLoop strtoul calm inputRounds _ split
    (by simpa [split, stream, List.prefix_append_right_inj] using come)
  simpa [socketInputHandlerBev, Nat.add_assoc] using later

end Deliver

/-- How many frames are delivered: each arrival delivers those that have come as a whole, but not more than the rounds
of the loop. -/
def deliveredAfter (frames : List Frame) : Nat → Nat → List Arrival → Nat
  | done, _, [] => done
  | done, total, a :: rest =>
    deliveredAfter frames (min (done + inputRounds) (complete frames (total + a.bytes.length)))
      (total + a.bytes.length) rest

theorem InSync.run {strtoul : Memory → Nat} {frames : List Frame} {done : Nat} {arrived : List UInt8} {s : Socket}
    (sync : InSync frames done arrived s) {arrivals : List Arrival} (calm : ∀ a ∈ arrivals, Calm a.turn)
    (come : arrived ++ arrivals.flatMap Arrival.bytes <+: stream frames) :
    (arrivals.foldl (socketInputHandlerBev strtoul) s).delivered =
      (frames.take (deliveredAfter frames done arrived.length arrivals)).map Frame.message := by
  induction arrivals generalizing done arrived s with
  | nil =>
    obtain ⟨split⟩ := sync
    simp [split, deliveredAfter]
  | cons a rest ih =>
    rw [List.flatMap_cons, ← List.append_assoc] at come
    have here := sync.arrive strtoul (calm a List.mem_cons_self) ((List.prefix_append _ _).trans come)
    have later := ih here (fun a member => calm a (List.mem_cons_of_mem _ member)) come
    simpa [deliveredAfter] using later

/-- However the bytes of a stream of messages arrive, the callback gets the messages in their order and without their
padding, each arrival at most 129 of those that have come as a whole. -/
theorem stream_delivers (strtoul : Memory → Nat) (frames : List Frame) {arrivals : List Arrival}
    (calm : ∀ a ∈ arrivals, Calm a.turn) (come : arrivals.flatMap Arrival.bytes <+: stream frames) :
    (arrivals.foldl (socketInputHandlerBev strtoul) ⟨false, [], []⟩).delivered =
      (frames.take (deliveredAfter frames 0 0 arrivals)).map Frame.message :=
  InSync.run (.intro (List.nil_append frames).symm) calm come

/-- A Binding request. -/
def exampleBinding : Frame where
  bytes := [0, 1, 0, 0, 0x21, 0x12, 0xA4, 0x42, 1, 2, 3, 4, 5, 6, 7, 8, 9, 10, 11, 12]
  appLen := 20
  framed := .stun (by decide) (by decide)
  fits := by decide

/-- It comes in two pieces. -/
theorem stream_delivers_pieces :
    let turn : Nat → Turn := fun _ => ⟨fun _ => 0, true, false⟩
    (([⟨exampleBinding.bytes.take 3, turn⟩, ⟨exampleBinding.bytes.drop 3, turn⟩] : List Arrival).foldl
      (socketInputHandlerBev (fun _ => 0)) ⟨false, [], []⟩).delivered = [exampleBinding.bytes] :=
  stream_delivers _ [exampleBinding] (by simp [Calm]) (by decide)

end StreamInput
end TurnCluster
