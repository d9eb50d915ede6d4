import Mathlib.Logic.Function.Basic
import TurnCluster.Stun.Addr

namespace TurnCluster
namespace Engine

inductive Transport where
  | tcp
  | udp
  deriving DecidableEq, Repr

/-- A port of one of the per-IP allocators: the transport, the address without its port, the port. -/
abbrev PortKey := Transport × (Family × UInt32 × List UInt8) × UInt16

def portKey (transport : Transport) (addr : IoaAddr) (port : UInt16) : PortKey := (transport, ipKey addr, port)

/-- `turnipports` with ideal allocators: which ports are taken. -/
abbrev PortTable := PortKey → Bool

def PortTable.take (table : PortTable) (key : PortKey) : PortTable := Function.update table key true

def PortTable.free (table : PortTable) (key : PortKey) : PortTable := Function.update table key false

structure PortRange where
  start : UInt16
  stop : UInt16
  deriving DecidableEq, Repr

/-- The port an allocator may hand out: one of the range that is not taken. -/
def Takes (range : PortRange) (table : PortTable) (transport : Transport) (addr : IoaAddr) (port : UInt16) : Prop :=
  range.start ≤ port ∧ port ≤ range.stop ∧ table (portKey transport addr port) = false

instance (range : PortRange) (table : PortTable) (transport : Transport) (addr : IoaAddr) (port : UInt16) :
    Decidable (Takes range table transport addr port) := inferInstanceAs (Decidable (_ ∧ _))

/-- `turnipports_allocate` with the port the allocator chooses; `none` stands for -1. -/
def turnipportsAllocate (range : PortRange) (table : PortTable) (transport : Transport) (backendAddr : IoaAddr)
    (choice : Option UInt16) : Option UInt16 × PortTable :=
  match choice with
  | none => (none, table)
  | some port =>
    if Takes range table transport backendAddr port then
      (some port, table.take (portKey transport backendAddr port))
    else (none, table)

/-- `turnipports_allocate_even`, which uses the UDP allocators. -/
def turnipportsAllocateEven (range : PortRange) (table : PortTable) (backendAddr : IoaAddr) (allocateRtcp : Bool)
    (choice : Option UInt16) : Option UInt16 × PortTable :=
  match choice with
  | none => (none, table)
  | some port =>
    if port.toNat % 2 = 0 ∧ Takes range table .udp backendAddr port then
      if allocateRtcp = false then (some port, table.take (portKey .udp backendAddr port))
      else if Takes range table .udp backendAddr (port + 1) then
        (some port, (table.take (portKey .udp backendAddr port)).take (portKey .udp backendAddr (port + 1)))
      else (none, table)
    else (none, table)

def turnipportsRelease (table : PortTable) (transport : Transport) (socketAddr : IoaAddr) : PortTable :=
  table.free (portKey transport socketAddr (addrGetPort socketAddr))

/-- What the relay sockets use of `ioa_socket`; `st` is the transport and `sat` is `RELAY_SOCKET`
or `RELAY_RTCP_SOCKET`, which are treated alike. -/
structure RelaySocket where
  st : Transport
  bound : Bool
  localAddr : IoaAddr
  deriving DecidableEq, Repr

/-- `create_unbound_relay_ioa_socket` when `socket` succeeds: all other fields are zero. -/
def createUnboundRelayIoaSocket (st : Transport) : RelaySocket := ⟨st, false, .any⟩

/-- `bind_ioa_socket` when `addr_bind` succeeds; `assigned` is what `addr_get_from_sock` tells. -/
def bindIoaSocket (s : RelaySocket) (localAddr assigned : IoaAddr) : RelaySocket :=
  { s with
    bound := true
    localAddr :=
      if addrGetPort localAddr < 1 then
        if addrAny localAddr = true then assigned else addrSetPort localAddr (addrGetPort assigned)
      else localAddr }

/-- `IOA_CLOSE_SOCKET` on the ports; the pointer becomes `none`. -/
def closeIoaSocket (table : PortTable) : Option RelaySocket → PortTable
  | none => table
  | some s => if s.bound = true then turnipportsRelease table s.st s.localAddr else table

/-- What the surroundings answer in one round for an address. -/
structure RoundOutcome where
  choice : Option UInt16
  /-- The reservation token written by `turnports_allocate_even`. -/
  token : UInt64
  rtcpSocket : Bool
  rtcpBind : Bool
  rtpSocket : Bool
  rtpBind : Bool
  assigned : IoaAddr

structure RelayRequest where
  range : PortRange
  transport : Transport
  evenPort : Int

/-- The allocators, what `*rtp_s` and `*rtcp_s` point to, and `*out_reservation_token`. -/
structure RelayState where
  table : PortTable
  rtp : Option RelaySocket
  rtcp : Option RelaySocket
  token : UInt64

def RelayState.closeRtp (s : RelayState) : RelayState := { s with table := closeIoaSocket s.table s.rtp, rtp := none }
def RelayState.closeRtcp (s : RelayState) : RelayState := { s with table := closeIoaSocket s.table s.rtcp, rtcp := none }
def RelayState.release (s : RelayState) (transport : Transport) (addr : IoaAddr) : RelayState :=
  { s with table := turnipportsRelease s.table transport addr }

/-- How a round ends: the function returns -1, the loop goes on, or it is left. -/
inductive RoundEnd where
  | returned (s : RelayState)
  | again (s : RelayState)
  | broke (s : RelayState)

/-- Giving back what a round has taken when the RTP socket fails: the RTCP port is released by the
close of its bound socket, or else by hand. -/
def abandonRound (request : RelayRequest) (relayAddr : IoaAddr) (port : UInt16) (rtcpPort : Option UInt16)
    (s : RelayState) : RelayState :=
  let rtcpBound := match s.rtcp with
    | some rtcp => rtcp.bound
    | none => false
  let s := s.closeRtcp.release request.transport (addrSetPort relayAddr port)
  match rtcpPort with
  | some rtcpPort => if rtcpBound = false then s.release request.transport (addrSetPort relayAddr rtcpPort) else s
  | none => s

/-- The second half of a round, from the test `port < 0` on. -/
def rtpRound (request : RelayRequest) (relayAddr : IoaAddr) (outcome : RoundOutcome) (port : Option UInt16)
    (rtcpPort : Option UInt16) (s : RelayState) : RoundEnd :=
  match port with
  | none => .broke s.closeRtp.closeRtcp
  | some port =>
    let s := s.closeRtp
    if outcome.rtpSocket = false then .returned (abandonRound request relayAddr port rtcpPort s)
    else
      let rtp := createUnboundRelayIoaSocket request.transport
      if outcome.rtpBind = true then
        .broke { s with rtp := some (bindIoaSocket rtp (addrSetPort relayAddr port) outcome.assigned) }
      else .again (abandonRound request relayAddr port rtcpPort { s with rtp := some rtp }.closeRtp)

def relayRound (request : RelayRequest) (relayAddr : IoaAddr) (outcome : RoundOutcome) (s : RelayState) : RoundEnd :=
  if request.evenPort < 0 then
    let (port, table) := turnipportsAllocate request.range s.table request.transport relayAddr outcome.choice
    rtpRound request relayAddr outcome port none { s with table }
  else
    match turnipportsAllocateEven request.range s.table relayAddr (request.evenPort != 0) outcome.choice with
    | (none, table) => rtpRound request relayAddr outcome none none { s with table }
    | (some port, table) =>
      if 0 < request.evenPort then
        let s := { s with table, token := outcome.token }.closeRtcp
        let localAddr := addrSetPort relayAddr port
        let rtcpLocalAddr := addrSetPort relayAddr (port + 1)
        if outcome.rtcpSocket = false then
          .returned ((s.closeRtp.release request.transport localAddr).release request.transport rtcpLocalAddr)
        else
          let rtcp := createUnboundRelayIoaSocket .udp
          if outcome.rtcpBind = false then
            .again (((({ s with rtcp := some rtcp }.release request.transport localAddr).release request.transport
              rtcpLocalAddr)).closeRtcp)
          else
            rtpRound request relayAddr outcome (some port) (some (port + 1))
              { s with rtcp := some (bindIoaSocket rtcp rtcpLocalAddr outcome.assigned) }
      else rtpRound request relayAddr outcome (some port) none { s with table }

inductive LoopEnd where
  | returned (s : RelayState)
  | left (s : RelayState)

/-- The loop over at most 0xFFFF rounds; without a break both sockets are closed after it. -/
def relayRounds (request : RelayRequest) (relayAddr : IoaAddr) (outcomes : Nat → RoundOutcome) :
    Nat → Nat → RelayState → LoopEnd
  | 0, _, s => .left s.closeRtp.closeRtcp
  | rounds + 1, i, s =>
    match relayRound request relayAddr (outcomes i) s with
    | .returned s => .returned s
    | .again s => relayRounds request relayAddr outcomes rounds (i + 1) s
    | .broke s => .left s

/-- One turn of the outer loop: the answer of `ioa_engine_get_relay_addr`, an address or an error
code, and the outcomes of the rounds for it. -/
structure RelayTurn where
  relayAddr : Except Nat IoaAddr
  outcomes : Nat → RoundOutcome

/-- The returned value with `*err_code` and `*reason`. -/
inductive Created where
  | ok
  | failed (errCode : Nat) (reason : Option String)
  deriving DecidableEq, Repr

/-- After the loops. -/
def finishRelay (mapPut : Bool) (s : RelayState) : Created × RelayState :=
  match s.rtp with
  | none => (.failed 0 none, s.closeRtp.closeRtcp)
  | some _ =>
    if s.rtcp.isSome = true ∧ s.token ≠ 0 ∧ mapPut = false then (.failed 0 none, s.closeRtp.closeRtcp)
    else (.ok, s)

/-- The outer loop over `relays_number` turns; `mapPut` is the outcome of `rtcp_map_put`. -/
def relayTurns (request : RelayRequest) (mapPut : Bool) : List RelayTurn → RelayState → Created × RelayState
  | [], s => finishRelay mapPut s
  | turn :: rest, s =>
    match turn.relayAddr with
    | .error code => (.failed code (if code = 440 then some "Unsupported address family" else none), s)
    | .ok relayAddr =>
      match relayRounds request relayAddr turn.outcomes 0xFFFF 0 s.closeRtp.closeRtcp with
      | .returned s => (.failed 0 none, s)
      | .left s => if s.rtp.isSome = true then finishRelay mapPut s else relayTurns request mapPut rest s

def createRelayIoaSockets (request : RelayRequest) (turns : List RelayTurn) (mapPut : Bool) (table : PortTable)
    (token : UInt64) : Created × RelayState :=
  relayTurns request mapPut turns ⟨table, none, none, token⟩

theorem ipKey_setPort (addr : IoaAddr) (port : UInt16) : ipKey (addrSetPort addr port) = ipKey addr := by
  unfold ipKey addrSetPort
  cases known : addr.family <;> simp [known]

variable {request : RelayRequest} {before : PortTable} {addr : IoaAddr} {outcome : RoundOutcome} {transport : Transport}
  {port : UInt16} {key : PortKey} (range : PortRange) {rtcpPort : Option UInt16} (table : PortTable) {other : PortKey}
  {s : RelayState}

theorem turnipportsRelease_setPort (known : addr.family ≠ .unspec) (table : PortTable) (transport : Transport)
    (port : UInt16) :
    turnipportsRelease table transport (addrSetPort addr port) = table.free (portKey transport addr port) := by
  unfold turnipportsRelease portKey
  rw [ipKey_setPort, addrGetPort_setPort known]

theorem PortTable.free_take {table : PortTable} (untaken : table key = false) : (table.take key).free key = table := by
  unfold take free
  rw [Function.update_idem, ← untaken, Function.update_eq_self]

theorem PortTable.take_of_ne {table : PortTable} (different : other ≠ key) :
    table.take key other = table other := Function.update_of_ne different ..

theorem portKey_next_ne (transport : Transport) (addr : IoaAddr) (port : UInt16) :
    portKey transport addr port ≠ portKey transport addr (port + 1) := by
  intro same
  have ports : port = port + 1 := congrArg (fun key : PortKey => key.2.2) same
  have numbers := congrArg UInt16.toNat ports
  have bound := port.toNat_lt
  rw [UInt16.toNat_add, UInt16.toNat_one] at numbers
  omega

/-- The socket is bound to the port. -/
structure Owns (r : RelaySocket) (key : PortKey) : Prop where
  bound : r.bound = true
  address : portKey r.st r.localAddr (addrGetPort r.localAddr) = key

theorem Owns.close {r : RelaySocket} (owns : Owns r key) (table : PortTable) :
    closeIoaSocket table (some r) = table.free key := by
  show (if r.bound = true then turnipportsRelease table r.st r.localAddr else table) = _
  rw [if_pos owns.bound]
  unfold turnipportsRelease
  rw [owns.address]

theorem bindIoaSocket_owns (known : addr.family ≠ .unspec) (positive : 1 ≤ port) (st : Transport) (assigned : IoaAddr) :
    Owns (bindIoaSocket (createUnboundRelayIoaSocket st) (addrSetPort addr port) assigned) (portKey st addr port) := by
  refine ⟨rfl, ?_⟩
  unfold bindIoaSocket
  dsimp only
  rw [addrGetPort_setPort known, if_neg (UInt16.not_lt.mpr positive), addrGetPort_setPort known]
  unfold portKey
  rw [ipKey_setPort]
  rfl

/-- Nothing is held: there are no sockets, and what is taken is what was taken before. -/
structure Idle (before : PortTable) (s : RelayState) : Prop where
  rtp : s.rtp = none
  rtcp : s.rtcp = none
  table : s.table = before

/-- What the RTCP part of a round holds beside the RTP port. -/
inductive WithRtcp (before : PortTable) (transport : Transport) (addr : IoaAddr) (port : UInt16) (s : RelayState) :
    Option UInt16 → Prop
  | none : s.rtcp = none → s.table = before.take (portKey transport addr port) →
      WithRtcp before transport addr port s none
  | some {r : RelaySocket} : s.rtcp = some r → Owns r (portKey transport addr (port + 1)) →
      before (portKey transport addr (port + 1)) = false →
      s.table = (before.take (portKey transport addr port)).take (portKey transport addr (port + 1)) →
      WithRtcp before transport addr port s (some (port + 1))

/-- What a successful call leaves: one more port is taken, which the RTP socket owns, or two,
the second of which the RTCP socket owns. -/
structure Owned (transport : Transport) (before : PortTable) (s : RelayState) : Prop where
  owned : ∃ addr port r rtcpPort, s.rtp = some r ∧ Owns r (portKey transport addr port) ∧
    before (portKey transport addr port) = false ∧ WithRtcp before transport addr port s rtcpPort

theorem Idle.closeRtp (idle : Idle before s) : s.closeRtp = s := by
  obtain ⟨table, rtp, rtcp, token⟩ := s
  obtain ⟨rfl, _, _⟩ := idle
  rfl

theorem Idle.closeRtcp (idle : Idle before s) : s.closeRtcp = s := by
  obtain ⟨table, rtp, rtcp, token⟩ := s
  obtain ⟨_, rfl, _⟩ := idle
  rfl

theorem WithRtcp.undo (held : WithRtcp before transport addr port s rtcpPort)
    (untaken : before (portKey transport addr port) = false) :
    (s.closeRtcp.table.free (portKey transport addr port)) = before := by
  cases held with
  | none noSocket table =>
    unfold RelayState.closeRtcp closeIoaSocket
    rw [noSocket, table]
    exact PortTable.free_take untaken
  | some socket owns nextUntaken table =>
    have different := portKey_next_ne transport addr port
    unfold RelayState.closeRtcp
    rw [socket, owns.close, table]
    dsimp only
    rw [PortTable.free_take, PortTable.free_take untaken]
    rw [PortTable.take_of_ne different.symm]
    exact nextUntaken

theorem abandonRound_idle (known : addr.family ≠ .unspec) (noRtp : s.rtp = none)
    (untaken : before (portKey request.transport addr port) = false)
    (held : WithRtcp before request.transport addr port s rtcpPort) :
    Idle before (abandonRound request addr port rtcpPort s) := by
  have undone := held.undo untaken
  have released : Idle before (s.closeRtcp.release request.transport (addrSetPort addr port)) := by
    refine ⟨noRtp, rfl, ?_⟩
    show turnipportsRelease s.closeRtcp.table request.transport (addrSetPort addr port) = before
    rw [turnipportsRelease_setPort known]
    exact undone
  unfold abandonRound
  cases held with
  | none => exact released
  | some socket owns _ _ =>
    -- The RTCP socket is bound, so its port is not released a second time.
    rw [socket]
    dsimp only
    rw [owns.bound, if_neg (Bool.noConfusion)]
    exact released

/-- What each end of a round leaves. -/
def RoundKeeps (transport : Transport) (before : PortTable) : RoundEnd → Prop
  | .returned s => Idle before s
  | .again s => Idle before s
  | .broke s => Idle before s ∨ Owned transport before s

theorem rtpRound_keeps (known : addr.family ≠ .unspec) (positive : 1 ≤ port) (noRtp : s.rtp = none)
    (untaken : before (portKey request.transport addr port) = false)
    (held : WithRtcp before request.transport addr port s rtcpPort) :
    RoundKeeps request.transport before (rtpRound request addr outcome (some port) rtcpPort s) := by
  have closed : s.closeRtp = s := by
    obtain ⟨table, rtp, rtcp, token⟩ := s
    cases noRtp
    rfl
  unfold rtpRound
  dsimp only
  rw [closed]
  split
  · exact abandonRound_idle known noRtp untaken held
  · split
    · refine Or.inr ⟨addr, port, _, rtcpPort, rfl, bindIoaSocket_owns known positive _ _, untaken, ?_⟩
      cases held with
      | none noSocket table => exact .none noSocket table
      | some socket owns nextUntaken table => exact .some socket owns nextUntaken table
    · -- The RTP socket is closed unbound, which releases nothing.
      have unbound : { s with rtp := some (createUnboundRelayIoaSocket request.transport) }.closeRtp = s := by
        obtain ⟨table, rtp, rtcp, token⟩ := s
        cases noRtp
        rfl
      rw [unbound]
      exact abandonRound_idle known noRtp untaken held

theorem rtpRound_none_keeps (idle : Idle before s) :
    RoundKeeps request.transport before (rtpRound request addr outcome none none s) := by
  unfold rtpRound
  dsimp only
  rw [idle.closeRtp, idle.closeRtcp]
  exact Or.inl idle

theorem turnipportsAllocate_cases (transport : Transport) (addr : IoaAddr) (choice : Option UInt16) :
    turnipportsAllocate range table transport addr choice = (none, table) ∨
      ∃ port, Takes range table transport addr port ∧
        turnipportsAllocate range table transport addr choice =
          (some port, table.take (portKey transport addr port)) := by
  unfold turnipportsAllocate
  cases choice with
  | none => exact Or.inl rfl
  | some port =>
    dsimp only
    split
    · rename_i takes
      exact Or.inr ⟨port, takes, rfl⟩
    · exact Or.inl rfl

theorem turnipportsAllocateEven_cases (addr : IoaAddr) (allocateRtcp : Bool) (choice : Option UInt16) :
    turnipportsAllocateEven range table addr allocateRtcp choice = (none, table) ∨
      ∃ port, Takes range table .udp addr port ∧
        ((allocateRtcp = false ∧ turnipportsAllocateEven range table addr allocateRtcp choice =
            (some port, table.take (portKey .udp addr port))) ∨
          (allocateRtcp = true ∧ Takes range table .udp addr (port + 1) ∧
            turnipportsAllocateEven range table addr allocateRtcp choice =
              (some port, (table.take (portKey .udp addr port)).take (portKey .udp addr (port + 1))))) := by
  unfold turnipportsAllocateEven
  cases choice with
  | none => exact Or.inl rfl
  | some port =>
    dsimp only
    split
    · rename_i even
      split
      · rename_i single
        exact Or.inr ⟨port, even.2, Or.inl ⟨single, rfl⟩⟩
      · rename_i pair
        split
        · rename_i next
          exact Or.inr ⟨port, even.2, Or.inr ⟨Bool.eq_true_of_not_eq_false pair, next, rfl⟩⟩
        · exact Or.inl rfl
    · exact Or.inl rfl

/-- What the calls are made with: ports that are not 0, and UDP when an even port is asked for. -/
structure RelayRequest.Proper (request : RelayRequest) : Prop where
  positive : 1 ≤ request.range.start
  udp : 0 ≤ request.evenPort → request.transport = .udp

theorem Takes.positive {table : PortTable} (takes : Takes request.range table transport addr port)
    (proper : request.Proper) : 1 ≤ port :=
  UInt16.le_trans proper.positive takes.1

theorem PortTable.free_pair {table : PortTable} (untaken : table key = false) (otherUntaken : table other = false) :
    (((table.take key).take other).free key).free other = table := by
  unfold take free
  funext k
  by_cases isOther : k = other
  · rw [isOther, Function.update_self, otherUntaken]
  · rw [Function.update_of_ne isOther]
    by_cases isKey : k = key
    · rw [isKey, Function.update_self, untaken]
    · rw [Function.update_of_ne isKey, Function.update_of_ne isOther, Function.update_of_ne isKey]

theorem rtcpRound_keeps {token : UInt64} (proper : request.Proper) (known : addr.family ≠ .unspec)
    (reserves : 0 < request.evenPort) (takes : Takes request.range before .udp addr port)
    (next : Takes request.range before .udp addr (port + 1))
    (allocated : turnipportsAllocateEven request.range before addr (request.evenPort != 0) outcome.choice =
      (some port, (before.take (portKey .udp addr port)).take (portKey .udp addr (port + 1)))) :
    RoundKeeps request.transport before (relayRound request addr outcome ⟨before, none, none, token⟩) := by
  have udp := proper.udp (Int.le_of_lt reserves)
  have undone := PortTable.free_pair takes.2.2 next.2.2
  unfold relayRound
  rw [if_neg (Int.not_lt.mpr (Int.le_of_lt reserves)), allocated]
  dsimp only
  rw [if_pos reserves]
  split
  · refine ⟨rfl, rfl, ?_⟩
    show turnipportsRelease (turnipportsRelease _ _ _) _ _ = before
    rw [turnipportsRelease_setPort known, turnipportsRelease_setPort known, udp]
    exact undone
  · split
    · refine ⟨rfl, rfl, ?_⟩
      show turnipportsRelease (turnipportsRelease _ _ _) _ _ = before
      rw [turnipportsRelease_setPort known, turnipportsRelease_setPort known, udp]
      exact undone
    · refine rtpRound_keeps known (takes.positive proper) rfl ?_ ?_
      · rw [udp]
        exact takes.2.2
      · have owns := bindIoaSocket_owns known (next.positive proper) .udp outcome.assigned
        rw [udp]
        exact .some rfl owns next.2.2 rfl

theorem relayRound_keeps (proper : request.Proper) (known : addr.family ≠ .unspec) (idle : Idle before s) :
    RoundKeeps request.transport before (relayRound request addr outcome s) := by
  obtain ⟨table, rtp, rtcp, token⟩ := s
  obtain ⟨rfl, rfl, rfl⟩ := idle
  by_cases any : request.evenPort < 0
  · unfold relayRound
    rw [if_pos any]
    rcases turnipportsAllocate_cases request.range table request.transport addr outcome.choice with
      failed | ⟨port, takes, allocated⟩
    · rw [failed]
      exact rtpRound_none_keeps ⟨rfl, rfl, rfl⟩
    · rw [allocated]
      exact rtpRound_keeps known (takes.positive proper) rfl takes.2.2 (.none rfl rfl)
  · rcases turnipportsAllocateEven_cases request.range table addr (request.evenPort != 0) outcome.choice with
      failed | ⟨port, takes, ⟨single, allocated⟩ | ⟨pair, next, allocated⟩⟩
    · unfold relayRound
      rw [if_neg any, failed]
      exact rtpRound_none_keeps ⟨rfl, rfl, rfl⟩
    · have zero : ¬ 0 < request.evenPort := by
        simp only [bne_eq_false_iff_eq] at single
        omega
      have udp := proper.udp (Int.not_lt.mp any)
      unfold relayRound
      rw [if_neg any, allocated]
      dsimp only
      rw [if_neg zero]
      refine rtpRound_keeps known (takes.positive proper) rfl ?_ ?_
      · rw [udp]
        exact takes.2.2
      · rw [udp]
        exact .none rfl rfl
    · have reserves : 0 < request.evenPort := by
        simp only [bne_iff_ne, ne_eq] at pair
        omega
      exact rtcpRound_keeps proper known reserves takes next allocated

theorem relayRounds_keeps {request : RelayRequest} {addr : IoaAddr} {outcomes : Nat → RoundOutcome}
    {before : PortTable} (proper : request.Proper) (known : addr.family ≠ .unspec) (rounds i : Nat) {s : RelayState}
    (idle : Idle before s) :
    match relayRounds request addr outcomes rounds i s with
    | .returned s => Idle before s
    | .left s => Idle before s ∨ Owned request.transport before s := by
  induction rounds generalizing i s with
  | zero =>
    unfold relayRounds
    dsimp only
    rw [idle.closeRtp, idle.closeRtcp]
    exact Or.inl idle
  | succ rounds ih =>
    have keeps : RoundKeeps request.transport before (relayRound request addr (outcomes i) s) :=
      relayRound_keeps proper known idle
    unfold relayRounds
    cases round : relayRound request addr (outcomes i) s with
    | returned s' =>
      rw [round] at keeps
      exact keeps
    | again s' =>
      rw [round] at keeps
      exact ih (i + 1) keeps
    | broke s' =>
      rw [round] at keeps
      exact keeps

theorem Owned.close (owned : Owned transport before s) : Idle before s.closeRtp.closeRtcp := by
  obtain ⟨addr, port, r, rtcpPort, rtp, owns, untaken, held⟩ := owned
  refine ⟨rfl, rfl, ?_⟩
  show closeIoaSocket (closeIoaSocket s.table s.rtp) s.rtcp = before
  rw [rtp, owns.close]
  cases held with
  | none noSocket table =>
    rw [noSocket, table]
    exact PortTable.free_take untaken
  | some socket ownsNext nextUntaken table =>
    rw [socket, ownsNext.close, table]
    exact PortTable.free_pair untaken nextUntaken

/-- What a finished call leaves. -/
def CallKeeps (transport : Transport) (before : PortTable) : Created × RelayState → Prop
  | (.failed _ _, s) => Idle before s
  | (.ok, s) => Owned transport before s

theorem finishRelay_keeps (mapPut : Bool) (kept : Idle before s ∨ Owned transport before s) :
    CallKeeps transport before (finishRelay mapPut s) := by
  unfold finishRelay
  rcases kept with idle | owned
  · rw [idle.rtp]
    dsimp only
    rw [idle.closeRtp, idle.closeRtcp]
    exact idle
  · obtain ⟨addr, port, r, rtcpPort, rtp, rest⟩ := owned
    have closed := Owned.close ⟨addr, port, r, rtcpPort, rtp, rest⟩
    rw [rtp]
    dsimp only
    split
    · exact closed
    · exact ⟨addr, port, r, rtcpPort, rtp, rest⟩

theorem relayTurns_keeps (proper : request.Proper) (mapPut : Bool) {turns : List RelayTurn}
    (known : ∀ turn ∈ turns, ∀ addr, turn.relayAddr = .ok addr → addr.family ≠ .unspec) (idle : Idle before s) :
    CallKeeps request.transport before (relayTurns request mapPut turns s) := by
  induction turns generalizing s with
  | nil => exact finishRelay_keeps mapPut (Or.inl idle)
  | cons turn rest ih =>
    unfold relayTurns
    cases answer : turn.relayAddr with
    | error code => exact idle
    | ok addr =>
      dsimp only
      rw [idle.closeRtp, idle.closeRtcp]
      have keeps := @relayRounds_keeps request addr turn.outcomes before proper (known turn (.head _) addr answer) 0xFFFF 0
        s idle
      generalize relayRounds request addr turn.outcomes 0xFFFF 0 s = loop at keeps
      cases loop with
      | returned s' => exact keeps
      | left s' =>
        dsimp only at keeps ⊢
        split
        · exact finishRelay_keeps mapPut keeps
        · rename_i noRtp
          rcases keeps with idle' | ⟨_, _, r, _, rtp, _⟩
          · exact ih (fun turn member => known turn (.tail _ member)) idle'
          · rw [rtp] at noRtp
            exact absurd rfl noRtp

/-- A call that fails leaves the taken ports as they were; one that succeeds takes the port of the
RTP socket and, with an RTCP socket, the next one, each owned by its bound socket. A socket gives
its port back when it is closed, if it is bound. -/
theorem relay_creation_leaks_no_port {request : RelayRequest} (proper : request.Proper) {turns : List RelayTurn}
    (known : ∀ turn ∈ turns, ∀ addr, turn.relayAddr = .ok addr → addr.family ≠ .unspec) (mapPut : Bool)
    (before : PortTable) (token : UInt64) :
    CallKeeps request.transport before (createRelayIoaSockets request turns mapPut before token) ∧
      ∀ (table : PortTable) (r : RelaySocket),
        (∀ key, Owns r key → closeIoaSocket table (some r) = table.free key) ∧
          (r.bound = false → closeIoaSocket table (some r) = table) := by
  refine ⟨relayTurns_keeps proper mapPut known ⟨rfl, rfl, rfl⟩, ?_⟩
  intro table r
  refine ⟨fun key owns => owns.close table, ?_⟩
  intro unbound
  show (if r.bound = true then _ else table) = table
  rw [unbound]
  rfl

def exampleRequest : RelayRequest := ⟨⟨1024, 4095⟩, .udp, 1⟩

/-- In the first round the RTP socket cannot be bound to port 2000, in the second it can. -/
def exampleTurn : RelayTurn where
  relayAddr := .ok (.inet 0x0100000A 0)
  outcomes i := ⟨some 2000, 7, true, true, true, i == 1, .any⟩

theorem exampleRequest_proper : exampleRequest.Proper := ⟨by decide, fun _ => rfl⟩

theorem exampleTurn_known : ∀ turn ∈ [exampleTurn], ∀ addr, turn.relayAddr = .ok addr → addr.family ≠ .unspec := by
  intro turn member addr answer
  rw [List.mem_singleton.mp member] at answer
  cases answer
  decide

theorem relay_creation_leaks_no_port_retried :
    (createRelayIoaSockets exampleRequest [exampleTurn] true (fun _ => false) 0).1 = .ok ∧
      CallKeeps .udp (fun _ => false) (createRelayIoaSockets exampleRequest [exampleTurn] true (fun _ => false) 0) :=
  ⟨by decide +kernel,
    (relay_creation_leaks_no_port exampleRequest_proper exampleTurn_known true (fun _ => false) 0).1⟩

end Engine
end TurnCluster
