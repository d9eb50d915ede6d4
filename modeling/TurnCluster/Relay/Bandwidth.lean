import TurnCluster.Lib.Service
import TurnCluster.Relay.Buffer
import TurnCluster.Stun.Framing

namespace TurnCluster
namespace Relay

/-- The `SOCKET_APP_TYPE`s that the bandwidth check tells apart. -/
inductive SocketAppType
  | client
  | relay
  | relayRtcp
  | other
  deriving DecidableEq

/-- A counter of `traffic_bytes`, with the jiffie of the first packet that it counts, which no code reads. -/
structure JiffieBytes where
  bytes : Nat
  since : Nat

/-- The counter is set, in a packet's jiffie. -/
def JiffieBytes.count (b : JiffieBytes) (bytes jiffie : Nat) : JiffieBytes :=
  ⟨bytes, if b.bytes = 0 then jiffie else b.since⟩

structure TrafficBytes where
  jiffieBytesRead : JiffieBytes
  jiffieBytesWrite : JiffieBytes

namespace TrafficBytes

def get (t : TrafficBytes) (read : Bool) : JiffieBytes := if read = true then t.jiffieBytesRead else t.jiffieBytesWrite

def reset (t : TrafficBytes) : TrafficBytes where
  jiffieBytesRead := { t.jiffieBytesRead with bytes := 0 }
  jiffieBytesWrite := { t.jiffieBytesWrite with bytes := 0 }

def count (t : TrafficBytes) (read : Bool) (bytes jiffie : Nat) : TrafficBytes :=
  if read = true then { t with jiffieBytesRead := t.jiffieBytesRead.count bytes jiffie }
  else { t with jiffieBytesWrite := t.jiffieBytesWrite.count bytes jiffie }

end TrafficBytes

/-- What `ioa_socket_check_bandwidth` uses of a socket. -/
structure BandwidthSocket where
  sat : SocketAppType
  /-- The `bps` of the session, if there is one. -/
  session : Option Nat
  jiffie : Nat
  dataTraffic : TrafficBytes
  controlTraffic : TrafficBytes

/-- A check of a packet, with the jiffie of the engine. -/
structure PacketCheck where
  nbh : StunBuffer
  read : Bool
  jiffie : Nat

/-- The packet counts as control traffic. -/
def isControl (sat : SocketAppType) (nbh : StunBuffer) : Bool :=
  sat = .client && stunIsCommandMessageStr (nbh.view nbh.data) nbh.getSize &&
    (stunGetMethodStr (nbh.view nbh.data) nbh.getSize ≠ stunMethodSend &&
      stunGetMethodStr (nbh.view nbh.data) nbh.getSize ≠ stunMethodData)

namespace BandwidthSocket

/-- A new socket of a session. -/
def new (sat : SocketAppType) (bps : Nat) : BandwidthSocket :=
  ⟨sat, some bps, 0, ⟨⟨0, 0⟩, ⟨0, 0⟩⟩, ⟨⟨0, 0⟩, ⟨0, 0⟩⟩⟩

def traffic (s : BandwidthSocket) (control : Bool) : TrafficBytes :=
  if control = true then s.controlTraffic else s.dataTraffic

def setTraffic (s : BandwidthSocket) (control : Bool) (t : TrafficBytes) : BandwidthSocket :=
  if control = true then { s with controlTraffic := t } else { s with dataTraffic := t }

/-- The part of the check behind the classification of the packet. Only the traffic of its own class is reset. -/
def limit (s : BandwidthSocket) (maxBps : Nat) (control read : Bool) (bsz jiffie : Nat) : BandwidthSocket × Bool :=
  if s.jiffie ≠ jiffie then
    let t := (s.traffic control).reset
    let s := { s with jiffie := jiffie }
    if maxBps < bsz then (s.setTraffic control t, false)
    else (s.setTraffic control (t.count read bsz jiffie), true)
  else
    let nsz := (((s.traffic control).get read).bytes + bsz) % 2 ^ 64
    if maxBps < nsz then (s, false)
    else (s.setTraffic control ((s.traffic control).count read nsz jiffie), true)

/-- `ioa_socket_check_bandwidth`. -/
def check : Service BandwidthSocket PacketCheck Bool := fun s c =>
  match s.sat, s.session with
  | .other, _ => (s, true)
  | _, none => (s, true)
  | _, some maxBps =>
    if maxBps < 1 then (s, true) else s.limit maxBps (isControl s.sat c.nbh) c.read c.nbh.getSize c.jiffie

end BandwidthSocket

variable (s : BandwidthSocket) (maxBps : Nat) (control read : Bool) (bsz jiffie : Nat) {sat : SocketAppType}

/-- A packet passes if it fits into what its counter leaves of the limit; in a new jiffie that is all of it. -/
theorem BandwidthSocket.limit_iff :
    (s.limit maxBps control read bsz jiffie).2 = true ↔
      (if s.jiffie = jiffie then (((s.traffic control).get read).bytes + bsz) % 2 ^ 64 else bsz) ≤ maxBps := by
  unfold BandwidthSocket.limit
  by_cases same : s.jiffie = jiffie
  · rw [if_neg (not_not.mpr same), if_pos same]
    dsimp only
    split <;> simp <;> omega
  · rw [if_pos same, if_neg same]
    dsimp only
    split <;> simp <;> omega

theorem BandwidthSocket.check_iff (c : PacketCheck) :
    (s.check c).2 = true ↔ s.sat = .other ∨ ∀ bps, s.session = some bps → bps < 1 ∨
      (s.limit bps (isControl s.sat c.nbh) c.read c.nbh.getSize c.jiffie).2 = true := by
  unfold BandwidthSocket.check
  split
  · rename_i other
    exact ⟨fun _ => Or.inl other, fun _ => rfl⟩
  · rename_i unlimited _
    exact ⟨fun _ => Or.inr fun bps some => (nomatch unlimited.symm.trans some), fun _ => rfl⟩
  · rename_i maxBps limited checked
    rw [limited]
    split
    · rename_i free
      refine ⟨fun _ => Or.inr fun bps same => Or.inl (Option.some.inj same ▸ free), fun _ => rfl⟩
    · rename_i bounded
      constructor
      · intro passes
        exact Or.inr fun bps same => Or.inr (Option.some.inj same ▸ passes)
      · rintro (other | all)
        · exact (checked other).elim
        · exact (all maxBps rfl).resolve_left bounded

/-- A packet that was accepted. -/
structure Accepted where
  jiffie : Nat
  control : Bool
  read : Bool
  size : Nat

/-- The bytes accepted in a jiffie, class and direction. -/
def spent (past : List Accepted) (jiffie : Nat) (control read : Bool) : Nat :=
  ((past.filter (fun a => decide (a.jiffie = jiffie ∧ a.control = control ∧ a.read = read))).map Accepted.size).sum

/-- A packet is accepted if it fits into what is left of its jiffie, class and direction. -/
def allow (past : List Accepted) (maxBps : Nat) (control read : Bool) (bsz jiffie : Nat) : List Accepted × Bool :=
  if bsz + spent past jiffie control read ≤ maxBps then (⟨jiffie, control, read, bsz⟩ :: past, true) else (past, false)

/-- The limiter that the check is meant to be: it remembers all it has accepted. -/
def limiter (sat : SocketAppType) (maxBps : Nat) : Service (List Accepted) PacketCheck Bool := fun past c =>
  allow past maxBps (isControl sat c.nbh) c.read c.nbh.getSize c.jiffie

/-- The counter that a check adds to is empty or counts packets of the check's own jiffie, and the sum fits its type. A
check in a new jiffie adds to no counter. -/
def CountsOwnJiffie (s : BandwidthSocket) (c : PacketCheck) : Prop :=
  s.jiffie = c.jiffie →
    let counter := (s.traffic (isControl s.sat c.nbh)).get c.read
    (counter.bytes = 0 ∨ counter.since = c.jiffie) ∧ counter.bytes + c.nbh.getSize < 2 ^ 64

section Counters

variable {s : BandwidthSocket} {t : TrafficBytes} {control control' read read' : Bool} {bytes jiffie : Nat}

theorem traffic_setTraffic :
    (s.setTraffic control t).traffic control' = if control' = control then t else s.traffic control' := by
  cases control <;> cases control' <;> rfl

theorem get_reset : (t.reset.get read) = { t.get read with bytes := 0 } := by
  cases read <;> rfl

theorem get_count : (t.count read bytes jiffie).get read' =
    if read' = read then ⟨bytes, if (t.get read).bytes = 0 then jiffie else (t.get read).since⟩ else t.get read' := by
  cases read <;> cases read' <;> rfl

/-- The socket at the first check of a class in a jiffie. -/
def BandwidthSocket.stamp (s : BandwidthSocket) (control : Bool) (jiffie : Nat) : BandwidthSocket :=
  { s with jiffie := jiffie }.setTraffic control (s.traffic control).reset

theorem stamp_jiffie : (s.stamp control jiffie).jiffie = jiffie := by
  cases control <;> rfl

theorem traffic_stamp : (s.stamp control jiffie).traffic control = (s.traffic control).reset := by
  cases control <;> rfl

theorem setTraffic_stamp :
    (s.stamp control jiffie).setTraffic control t = { s with jiffie := jiffie }.setTraffic control t := by
  cases control <;> rfl

theorem limit_stamp {maxBps bsz : Nat} (new : s.jiffie ≠ jiffie) (fits : bsz < 2 ^ 64) :
    s.limit maxBps control read bsz jiffie = (s.stamp control jiffie).limit maxBps control read bsz jiffie := by
  have stamped : ¬ (s.stamp control jiffie).jiffie ≠ jiffie := not_not.mpr stamp_jiffie
  simp only [BandwidthSocket.limit, if_pos new, if_neg stamped, traffic_stamp, get_reset, Nat.zero_add,
    Nat.mod_eq_of_lt fits, setTraffic_stamp]
  rfl

end Counters

theorem spent_cons (a : Accepted) (past : List Accepted) (jiffie : Nat) (control read : Bool) :
    spent (a :: past) jiffie control read =
      (if a.jiffie = jiffie ∧ a.control = control ∧ a.read = read then a.size else 0) +
        spent past jiffie control read := by
  unfold spent
  by_cases here : a.jiffie = jiffie ∧ a.control = control ∧ a.read = read
  · simp [here]
  · simp only [List.filter_cons, here, decide_false, Bool.false_eq_true, if_false, Nat.zero_add]

theorem spent_of_later {past : List Accepted} {jiffie : Nat} (later : ∀ a ∈ past, a.jiffie < jiffie)
    (control read : Bool) : spent past jiffie control read = 0 := by
  have none : past.filter (fun a => decide (a.jiffie = jiffie ∧ a.control = control ∧ a.read = read)) = [] := by
    refine List.filter_eq_nil_iff.mpr ?_
    intro a member same
    have before := later a member
    have equal := (of_decide_eq_true same).1
    omega
  rw [spent, none]
  rfl

/-- Each counter has the bytes that were accepted in the jiffie of the socket, or it is left from an earlier one and
nothing was accepted since. -/
structure Tracks (sat : SocketAppType) (maxBps : Nat) (s : BandwidthSocket) (past : List Accepted) : Prop where
  sat_eq : s.sat = sat
  session_eq : s.session = some maxBps
  counted : ∀ control read, spent past s.jiffie control read =
    if ((s.traffic control).get read).since = s.jiffie then ((s.traffic control).get read).bytes else 0
  early : ∀ control read, ((s.traffic control).get read).since ≤ s.jiffie
  recorded : ∀ a ∈ past, a.jiffie ≤ s.jiffie

namespace Tracks

variable {sat : SocketAppType} {maxBps : Nat} {s : BandwidthSocket} {past : List Accepted}

theorem new (sat : SocketAppType) (maxBps : Nat) : Tracks sat maxBps (.new sat maxBps) [] where
  sat_eq := rfl
  session_eq := rfl
  counted control read := by cases control <;> cases read <;> rfl
  early control read := by cases control <;> cases read <;> exact Nat.le_refl 0
  recorded a member := by cases member

theorem set (tracks : Tracks sat maxBps s past) {past' : List Accepted} {jiffie : Nat} {control : Bool}
    {t : TrafficBytes} (later : s.jiffie ≤ jiffie)
    (own : ∀ read, spent past' jiffie control read = if (t.get read).since = jiffie then (t.get read).bytes else 0)
    (ownEarly : ∀ read, (t.get read).since ≤ jiffie)
    (others : ∀ control', control' ≠ control → ∀ read, spent past' jiffie control' read =
      if ((s.traffic control').get read).since = jiffie then ((s.traffic control').get read).bytes else 0)
    (recorded : ∀ a ∈ past', a.jiffie ≤ jiffie) :
    Tracks sat maxBps ({ s with jiffie := jiffie }.setTraffic control t) past' := by
  have traffic (control' : Bool) : ({ s with jiffie := jiffie }.setTraffic control t).traffic control' =
      if control' = control then t else s.traffic control' := traffic_setTraffic
  have stamp : ({ s with jiffie := jiffie }.setTraffic control t).jiffie = jiffie := by cases control <;> rfl
  refine ⟨?_, ?_, ?_, ?_, ?_⟩
  · cases control <;> exact tracks.sat_eq
  · cases control <;> exact tracks.session_eq
  · intro control' read
    rw [traffic, stamp]
    by_cases same : control' = control
    · rw [if_pos same, same]
      exact own read
    · rw [if_neg same]
      exact others control' same read
  · intro control' read
    rw [traffic, stamp]
    by_cases same : control' = control
    · rw [if_pos same]
      exact ownEarly read
    · rw [if_neg same]
      exact (tracks.early control' read).trans later
  · rw [stamp]
    exact recorded

theorem stamp (tracks : Tracks sat maxBps s past) (control : Bool) {jiffie : Nat} (later : s.jiffie < jiffie) :
    Tracks sat maxBps (s.stamp control jiffie) past := by
  have nothing := spent_of_later (fun a member => Nat.lt_of_le_of_lt (tracks.recorded a member) later)
  refine tracks.set later.le ?_ ?_ ?_ (fun a member => (tracks.recorded a member).trans later.le)
  · intro read
    simp [get_reset, nothing]
  · intro read
    rw [get_reset]
    exact (tracks.early control read).trans later.le
  · intro control' _ read
    have old := tracks.early control' read
    rw [if_neg (by omega), nothing]

theorem limit_same (tracks : Tracks sat maxBps s past) (control read : Bool) (bsz : Nat)
    (own : ((s.traffic control).get read).bytes = 0 ∨ ((s.traffic control).get read).since = s.jiffie)
    (fits : ((s.traffic control).get read).bytes + bsz < 2 ^ 64) :
    Tracks sat maxBps (s.limit maxBps control read bsz s.jiffie).1 (allow past maxBps control read bsz s.jiffie).1 ∧
      (s.limit maxBps control read bsz s.jiffie).2 = (allow past maxBps control read bsz s.jiffie).2 := by
  have already : spent past s.jiffie control read = ((s.traffic control).get read).bytes := by
    rw [tracks.counted]
    rcases own with zero | since
    · rw [zero, ite_self]
    · rw [if_pos since]
  have same : ¬ s.jiffie ≠ s.jiffie := not_not.mpr rfl
  simp only [BandwidthSocket.limit, allow, already, if_neg same, Nat.mod_eq_of_lt fits, ← Nat.not_lt, Nat.add_comm bsz]
  by_cases large : maxBps < ((s.traffic control).get read).bytes + bsz
  · simp only [large, if_true, not_true, if_false, and_true]
    exact tracks
  · simp only [large, if_false, not_false_eq_true, if_true, and_true]
    refine tracks.set le_rfl ?_ ?_ ?_ ?_
    · intro read'
      by_cases same : read' = read
      · subst same
        rw [spent_cons, already, get_count, if_pos rfl]
        have since : (if ((s.traffic control).get read').bytes = 0 then s.jiffie
            else ((s.traffic control).get read').since) = s.jiffie := by
          rcases own with zero | since
          · rw [if_pos zero]
          · rw [since, ite_self]
        simp [since, Nat.add_comm]
      · rw [spent_cons, get_count, if_neg same, tracks.counted]
        simp [Ne.symm same]
    · intro read'
      rw [get_count]
      split
      · dsimp only
        split
        · exact le_rfl
        · exact tracks.early control read
      · exact tracks.early control read'
    · intro control' apart read'
      rw [spent_cons, tracks.counted]
      simp [Ne.symm apart]
    · intro a member
      rcases List.mem_cons.mp member with rfl | member
      · exact le_rfl
      · exact tracks.recorded a member

theorem limit_later (tracks : Tracks sat maxBps s past) (control read : Bool) {bsz jiffie : Nat} (fits : bsz < 2 ^ 64)
    (later : s.jiffie < jiffie) :
    Tracks sat maxBps (s.limit maxBps control read bsz jiffie).1 (allow past maxBps control read bsz jiffie).1 ∧
      (s.limit maxBps control read bsz jiffie).2 = (allow past maxBps control read bsz jiffie).2 := by
  have empty : (((s.stamp control jiffie).traffic control).get read).bytes = 0 := by rw [traffic_stamp, get_reset]
  have checked := (tracks.stamp control later).limit_same control read bsz (Or.inl empty) (by omega)
  rw [stamp_jiffie] at checked
  rwa [limit_stamp (Nat.ne_of_lt later) fits]

theorem check_eq (tracks : Tracks sat maxBps s past) (checked : sat ≠ .other) (limited : 1 ≤ maxBps) (c : PacketCheck) :
    s.check c = s.limit maxBps (isControl sat c.nbh) c.read c.nbh.getSize c.jiffie := by
  have positive : ¬ maxBps < 1 := Nat.not_lt.mpr limited
  have kind := tracks.sat_eq
  subst kind
  simp only [BandwidthSocket.check, tracks.session_eq]
  cases kind : s.sat with
  | other => exact absurd kind checked
  | client => simp only [if_neg positive]
  | relay => simp only [if_neg positive]
  | relayRtcp => simp only [if_neg positive]

end Tracks

theorem getSize_lt (nbh : StunBuffer) : nbh.getSize < 2 ^ 64 := Nat.mod_lt _ (by omega)

theorem check_simulates {maxBps : Nat} (checked : sat ≠ .other) (limited : 1 ≤ maxBps) :
    Service.Simulates BandwidthSocket.check (limiter sat maxBps) (fun _ => True)
      (fun s c => s.jiffie ≤ c.jiffie ∧ CountsOwnJiffie s c) (Tracks sat maxBps) where
  call {s past c} tracks _ guarded := by
    obtain ⟨later, own⟩ := guarded
    rw [tracks.check_eq checked limited]
    rcases Nat.lt_or_eq_of_le later with new | same
    · exact tracks.limit_later _ _ (getSize_lt _) new
    · obtain ⟨counter, fits⟩ := own same
      rw [tracks.sat_eq, ← same] at counter
      rw [tracks.sat_eq] at fits
      simp only [limiter, ← same]
      exact tracks.limit_same _ _ _ counter fits

theorem limit_jiffie : (s.limit maxBps control read bsz jiffie).1.jiffie = jiffie := by
  have kept (s : BandwidthSocket) (t : TrafficBytes) : (s.setTraffic control t).jiffie = s.jiffie := by
    cases control <;> rfl
  unfold BandwidthSocket.limit
  by_cases new : s.jiffie ≠ jiffie
  · simp only [if_pos new]
    split <;> simp only [kept]
  · simp only [if_neg new]
    split
    · exact not_not.mp new
    · rw [kept]
      exact not_not.mp new

theorem along_nondecreasing {maxBps : Nat} (checked : sat ≠ .other) (limited : 1 ≤ maxBps) {s : BandwidthSocket}
    {past : List Accepted} {calls : List PacketCheck} (tracks : Tracks sat maxBps s past)
    (later : ∀ c ∈ calls, s.jiffie ≤ c.jiffie) (nondecreasing : (calls.map PacketCheck.jiffie).Pairwise (· ≤ ·))
    (own : Service.Along BandwidthSocket.check CountsOwnJiffie s calls) :
    Service.Along BandwidthSocket.check (fun s c => s.jiffie ≤ c.jiffie ∧ CountsOwnJiffie s c) s calls := by
  induction calls generalizing s past with
  | nil => trivial
  | cons c rest ih =>
    rw [List.map_cons, List.pairwise_cons] at nondecreasing
    have here : s.jiffie ≤ c.jiffie ∧ CountsOwnJiffie s c := ⟨later c List.mem_cons_self, own.1⟩
    have next := ((check_simulates checked limited).call tracks trivial here).1
    refine ⟨here, ih next ?_ nondecreasing.2 own.2⟩
    intro c' member
    rw [tracks.check_eq checked limited, limit_jiffie]
    exact nondecreasing.1 _ (List.mem_map_of_mem member)

/-- On a new socket, over checks with any packets in jiffies that do not decrease, every packet is accepted exactly if its
size and what was accepted before in its jiffie, class and direction is at most the limit, provided that no check adds to
a counter that is left from an earlier jiffie. -/
theorem bandwidth_limiter_exact {sat : SocketAppType} (checked : sat ≠ .other) {maxBps : Nat} (limited : 1 ≤ maxBps)
    (calls : List PacketCheck) (nondecreasing : (calls.map PacketCheck.jiffie).Pairwise (· ≤ ·))
    (own : Service.Along BandwidthSocket.check CountsOwnJiffie (.new sat maxBps) calls) :
    Service.trace BandwidthSocket.check (.new sat maxBps) calls = Service.trace (limiter sat maxBps) [] calls := by
  have start := Tracks.new sat maxBps
  have along := along_nondecreasing checked limited start (fun c _ => Nat.zero_le _) nondecreasing own
  exact ((check_simulates checked limited).run start (fun _ _ => trivial) along).2

/-- A packet of 80 bytes that is no STUN message. -/
def exampleData : StunBuffer := .received (.ofList []) 94

/-- A Binding request without attributes. -/
def exampleControl : StunBuffer :=
  .received (.ofList (List.replicate 14 0 ++ [0x00, 0x01, 0, 0, 0x21, 0x12, 0xA4, 0x42])) 34

/-- Control traffic and data in turns, in one jiffie, and then data only. -/
theorem bandwidth_limiter_exact_turns :
    let calls : List PacketCheck :=
      [⟨exampleData, true, 1⟩, ⟨exampleControl, true, 1⟩, ⟨exampleData, true, 1⟩, ⟨exampleData, true, 2⟩]
    (calls.map PacketCheck.jiffie).Pairwise (· ≤ ·) ∧
      Service.Along BandwidthSocket.check CountsOwnJiffie (.new .client 100) calls ∧
      Service.trace BandwidthSocket.check (.new .client 100) calls = Service.trace (limiter .client 100) [] calls := by
  have own : Service.Along BandwidthSocket.check CountsOwnJiffie (.new .client 100)
      [⟨exampleData, true, 1⟩, ⟨exampleControl, true, 1⟩, ⟨exampleData, true, 1⟩, ⟨exampleData, true, 2⟩] := by
    simp only [Service.Along, CountsOwnJiffie, and_true]
    decide
  exact ⟨by decide, own, bandwidth_limiter_exact (by decide) (by decide) _ (by decide) own⟩

/-- Data in one jiffie, then a Binding request and data in the next one: the second data packet is refused because of
the first one, which the request did not reset. -/
theorem stale_counter_refuses :
    let calls : List PacketCheck := [⟨exampleData, true, 1⟩, ⟨exampleControl, true, 2⟩, ⟨exampleData, true, 2⟩]
    (calls.map PacketCheck.jiffie).Pairwise (· ≤ ·) ∧
      Service.trace BandwidthSocket.check (.new .client 100) calls = [true, true, false] ∧
      Service.trace (limiter .client 100) [] calls = [true, true, true] := by
  decide

end Relay
end TurnCluster
