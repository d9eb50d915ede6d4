import TurnCluster.Server.Reflexive

namespace TurnCluster
namespace Server

def getRelaySessionFailure (ss : SuperSession) (family : Family) : Bool :=
  match family with
  | .inet6 => ss.relayFailure6
  | _ => ss.relayFailure4

def getRelaySocket (ss : SuperSession) (family : Family) : Option RelaySocket := (getRelaySession ss family).s

/-- The relay part of a session. -/
def SuperSession.relays (ss : SuperSession) : Bool × RelayEndpointSession × RelayEndpointSession × Bool × Bool :=
  (ss.alloc.isValid, ss.relay4, ss.relay6, ss.relayFailure4, ss.relayFailure6)

/-- The relayed addresses that an Allocate success is built with. -/
structure AllocateAnswer where
  relayedAddr1 : Option IoaAddr
  relayedAddr2 : Option IoaAddr
  deriving DecidableEq, Repr

/-- The address reported for a family. -/
def AllocateAnswer.relayed (answer : AllocateAnswer) (family : Family) : Option IoaAddr :=
  match family with
  | .inet6 => answer.relayedAddr2
  | _ => answer.relayedAddr1

inductive AllocateEvent where
  | allocate (m : Request) (sur : Surroundings)
  /-- Whatever happens to the rest of the session between two Allocate requests. -/
  | elsewhere (ss : SuperSession)

def allocateStep (server : TurnServer) (ss : SuperSession) :
    AllocateEvent → SuperSession × Option AllocateAnswer
  | .allocate m sur =>
    let (after, reply) := handleTurnAllocate server sur.env ss m
    (after, if reply.errCode = 0 then
        some ⟨relayedAddr server sur after.relayFailure4 after.relay4, relayedAddr server sur after.relayFailure6 after.relay6⟩
      else none)
  | .elsewhere after => (after, none)

/-- A session from its creation on, as its Allocate requests see it. -/
def allocateMachine (server : TurnServer) : Machine SuperSession AllocateEvent (Option AllocateAnswer) where
  init ss := ∃ id client, ss.relays = (createNewSs server id client).relays
  enabled ss ev := match ev with
    | .allocate _ _ => True
    | .elsewhere after => after.relays = ss.relays
  next ss ev := some (allocateStep server ss ev)

/-- The address at which a relay socket can be reached. -/
def boundAddr (server : TurnServer) (sur : Surroundings) (s : RelaySocket) : IoaAddr :=
  if server.externalIpSet = true then addrSetPort sur.externalIp (addrGetPort s.localAddr) else s.localAddr

def ReportsBound (server : TurnServer) (sur : Surroundings) (ss : SuperSession) (answer : AllocateAnswer) : Prop :=
  ∀ family s, getRelaySocket ss family = some s →
    ∀ addr, answer.relayed family = some addr → addr = boundAddr server sur s

/-- The families for which an Allocate tries to get a relay socket. -/
def attempts (server : TurnServer) (client : Option ClientSocket) (s : AllocateScan) : List (Option Family) :=
  match s.af4, s.af6 with
  | false, false => [defaultFamily server client]
  | false, true => [some .inet6]
  | true, false => [some .inet]
  | true, true => [some .inet, some .inet6]

/-- The relay socket that the surroundings give to an attempt, and the family it is kept under. -/
def givenSocket (server : TurnServer) (env : Env) (client : Option ClientSocket) (s : AllocateScan) (family : Option Family) :
    Option (Family × RelaySocket) :=
  if s.inReservationToken ≠ 0 then
    match env.reservedSocket s.inReservationToken with
    | none => none
    | some r => if r.toBeClosed = true then none else some (r.localAddr.family, r)
  else
    match env.createRelayIoaSockets family s.transport.toNat s.evenPort with
    | .failed _ _ => none
    | .opened r rtcp reservationToken =>
      if rtcp = true ∧ reservationToken = 0 then none else some (getFamily server client family, r)

/-- A socket that is given is for a family without a failure, and it can be registered. -/
def GivenAfresh (server : TurnServer) (ss : SuperSession) (ev : AllocateEvent) : Prop :=
  match ev with
  | .allocate m sur => Admitted server sur.env ss m → ss.connected = true →
      ∀ family ∈ attempts server ss.client (allocateScanned server ss m), ∀ kept r,
        givenSocket server sur.env ss.client (allocateScanned server ss m) family = some (kept, r) →
          getRelaySessionFailure ss kept = false ∧ (r.tcp = true ∨ sur.env.registerCallback = true)
  | .elsewhere _ => True

/-- A family that failed has no socket. -/
def FailuresNoted (ss : SuperSession) : Prop :=
  ∀ family, getRelaySessionFailure ss family = true → getRelaySocket ss family = none

def Unopened (ss : SuperSession) : Prop := ∀ family, getRelaySocket ss family = none

variable (ss : SuperSession) (f family g : Family) (r : RelayEndpointSession) {sur : Surroundings}

theorem getRelaySocket_setRelaySession :
    getRelaySocket (setRelaySession ss f r) g = if SameIndex f g then r.s else getRelaySocket ss g := by
  cases f <;> cases g <;> rfl

theorem getRelaySocket_setAllocationLifetimeEv (expTime ev : Nat) (f g : Family) :
    getRelaySocket (setAllocationLifetimeEv ss expTime ev f) g = getRelaySocket ss g := by
  cases f <;> cases g <;> rfl

theorem getRelaySocket_setRelaySessionFailure :
    getRelaySocket (setRelaySessionFailure ss f) g = getRelaySocket ss g := by
  cases f <;> cases g <;> rfl

theorem getRelaySessionFailure_set :
    getRelaySessionFailure (setRelaySessionFailure ss f) g = if SameIndex f g then true else getRelaySessionFailure ss g := by
  cases f <;> cases g <;> rfl

theorem getRelaySocket_congr {f g : Family} (same : SameIndex f g) : getRelaySocket ss f = getRelaySocket ss g := by
  cases f <;> cases g <;> first | rfl | exact absurd same (by decide)

theorem getRelaySessionFailure_congr {f g : Family} (same : SameIndex f g) :
    getRelaySessionFailure ss f = getRelaySessionFailure ss g := by
  cases f <;> cases g <;> first | rfl | exact absurd same (by decide)

theorem setRelaySessionFailure_isValid : (setRelaySessionFailure ss family).alloc.isValid = ss.alloc.isValid := by
  cases family <;> rfl

/-- What the creation of a relay socket leaves as it is. -/
def SuperSession.flags (ss : SuperSession) : Option ClientSocket × Bool × Bool × Bool :=
  (ss.client, ss.alloc.isValid, ss.relayFailure4, ss.relayFailure6)

theorem setRelaySession_flags : (setRelaySession ss family r).flags = ss.flags := by
  cases family <;> rfl

theorem getRelaySessionFailure_of_flags {ss after : SuperSession} (same : after.flags = ss.flags) (family : Family) :
    getRelaySessionFailure after family = getRelaySessionFailure ss family := by
  simp only [SuperSession.flags, Prod.mk.injEq] at same
  cases family with
  | inet6 => exact same.2.2.2
  | _ => exact same.2.2.1

section Sockets

variable (server : TurnServer) (env : Env)
variable (ss : SuperSession) (s : AllocateScan) {client : Option ClientSocket} (lifetime : Nat) (family : Option Family)
  (m : Request) {r : RelaySocket}

theorem startRelay_sockets (registers : r.tcp = true ∨ env.registerCallback = true) :
    (startRelay server env ss r lifetime).2 = .ok ∧ (startRelay server env ss r lifetime).1.flags = ss.flags ∧
      ∀ g, getRelaySocket (startRelay server env ss r lifetime).1 g = getRelaySocket ss g := by
  have registered : ¬ (r.tcp = false ∧ env.registerCallback = false) := by
    rintro ⟨udp, unregistered⟩
    rw [udp, unregistered] at registers
    rcases registers with tcp | callback
    · cases tcp
    · cases callback
  unfold startRelay
  rw [if_neg registered]
  exact ⟨rfl, setRelaySession_flags .., getRelaySocket_setAllocationLifetimeEv _ _ _ _⟩

/-- An attempt starts the socket that is given, or fails without one; then a socket that could not be created leaves an
empty relay session. -/
theorem createRelayConnection_cases {ss : SuperSession} (connected : ss.connected = true) :
    let result := createRelayConnection server env ss lifetime family s.transport s.evenPort s.inReservationToken
    (∃ kept r, givenSocket server env ss.client s family = some (kept, r) ∧ result =
        startRelay server env (setRelaySession ss kept { RelayEndpointSession.zero with s := some r }) r lifetime) ∨
      givenSocket server env ss.client s family = none ∧ result.2.failed = true ∧
        (result.1 = ss ∨
          s.inReservationToken = 0 ∧ result.1 = setRelaySession ss (getFamily server ss.client family) .zero) := by
  have open' : ¬ ss.connected = false := by simp [connected]
  unfold createRelayConnection givenSocket
  rw [if_neg open']
  by_cases token : s.inReservationToken ≠ 0
  · rw [if_pos token, if_pos token]
    cases env.reservedSocket s.inReservationToken with
    | none => exact Or.inr ⟨rfl, rfl, Or.inl rfl⟩
    | some r =>
      dsimp only
      by_cases closed : r.toBeClosed = true
      · rw [if_pos closed, if_pos closed]
        exact Or.inr ⟨rfl, rfl, Or.inl rfl⟩
      · rw [if_neg closed, if_neg closed]
        exact Or.inl ⟨_, r, rfl, rfl⟩
  · rw [if_neg token, if_neg token]
    have zero := not_not.mp token
    cases env.createRelayIoaSockets family s.transport.toNat s.evenPort with
    | failed errCode reason => exact Or.inr ⟨rfl, rfl, Or.inr ⟨zero, rfl⟩⟩
    | opened r rtcp reservationToken =>
      dsimp only
      by_cases wrong : rtcp = true ∧ reservationToken = 0
      · rw [if_pos wrong, if_pos wrong]
        exact Or.inr ⟨rfl, rfl, Or.inr ⟨zero, rfl⟩⟩
      · rw [if_neg wrong, if_neg wrong]
        exact Or.inl ⟨_, r, rfl, rfl⟩

theorem createRelayConnection_sockets {ss : SuperSession} (connected : ss.connected = true)
    (registers : ∀ kept r, givenSocket server env ss.client s family = some (kept, r) →
      r.tcp = true ∨ env.registerCallback = true) :
    let result := createRelayConnection server env ss lifetime family s.transport s.evenPort s.inReservationToken
    result.1.flags = ss.flags ∧ match givenSocket server env ss.client s family with
      | none => result.2.failed = true ∧ ∀ g, getRelaySocket result.1 g = none ∨ getRelaySocket result.1 g = getRelaySocket ss g
      | some (kept, r) => result.2 = .ok ∧
          ∀ g, getRelaySocket result.1 g = if SameIndex kept g then some r else getRelaySocket ss g := by
  intro result
  rcases createRelayConnection_cases server env s lifetime family connected with
    ⟨kept, r, given, started⟩ | ⟨ungiven, failed, left⟩
  · rw [given, show result = _ from started]
    obtain ⟨ok, flags, sockets⟩ := startRelay_sockets server env (setRelaySession ss kept
      { RelayEndpointSession.zero with s := some r }) lifetime (registers kept r given)
    refine ⟨flags.trans (setRelaySession_flags ..), ok, fun g => ?_⟩
    rw [sockets, getRelaySocket_setRelaySession]
  · rw [ungiven]
    rcases left with same | ⟨_, cleared⟩
    · rw [show result.1 = ss from same]
      exact ⟨rfl, failed, fun g => Or.inr rfl⟩
    · rw [show result.1 = _ from cleared]
      refine ⟨setRelaySession_flags .., failed, fun g => ?_⟩
      rw [getRelaySocket_setRelaySession]
      split
      · exact Or.inl rfl
      · exact Or.inr rfl

/-- What an attempt to open a family leaves of a session, with the error: failures stay noted, and only a socket that is
given is new. -/
structure Attempted (ss : SuperSession) (given : Option (Family × RelaySocket)) (noted : Family)
    (result : SuperSession × Nat × Option String) : Prop where
  failures : FailuresNoted result.1
  client : result.1.client = ss.client
  isValid : result.1.alloc.isValid = ss.alloc.isValid
  sockets : ∀ g, getRelaySocket result.1 g = none ∨ getRelaySocket result.1 g = getRelaySocket ss g ∨
    result.2.1 = 0 ∧ ∃ kept r, given = some (kept, r) ∧ SameIndex kept g
  flagged : ∀ g, getRelaySessionFailure result.1 g = true →
    getRelaySessionFailure ss g = true ∨ given = none ∧ SameIndex noted g

namespace Attempted

variable {ss after : SuperSession} {noted : Family}

theorem refused (failures : FailuresNoted ss) (closed : getRelaySocket ss noted = none) (flags : after.flags = ss.flags)
    (sockets : ∀ g, getRelaySocket after g = none ∨ getRelaySocket after g = getRelaySocket ss g) (errCode : Nat)
    (reason : Option String) : Attempted ss none noted (setRelaySessionFailure after noted, errCode, reason) := by
  have failure := getRelaySessionFailure_of_flags flags
  simp only [SuperSession.flags, Prod.mk.injEq] at flags
  have kept (g : Family) : getRelaySocket (setRelaySessionFailure after noted) g = none ∨
      getRelaySocket (setRelaySessionFailure after noted) g = getRelaySocket ss g := by
    rw [getRelaySocket_setRelaySessionFailure]
    exact sockets g
  refine ⟨?_, (setRelaySessionFailure_standing after noted).1.trans flags.1,
    (setRelaySessionFailure_isValid after noted).trans flags.2.1, fun g => (kept g).imp_right Or.inl, ?_⟩
  · intro g flagged
    have before : getRelaySocket ss g = none := by
      rw [getRelaySessionFailure_set] at flagged
      split at flagged
      · rename_i same
        exact (getRelaySocket_congr ss same).symm.trans closed
      · exact failures g ((failure g).symm.trans flagged)
    rcases kept g with none | same
    · exact none
    · exact same.trans before
  · intro g flagged
    rw [getRelaySessionFailure_set] at flagged
    split at flagged
    · rename_i same
      exact Or.inr ⟨rfl, same⟩
    · exact Or.inl ((failure g).symm.trans flagged)

theorem opened (failures : FailuresNoted ss) {place : Family} {r : RelaySocket}
    (clear : getRelaySessionFailure ss place = false) (flags : after.flags = ss.flags)
    (sockets : ∀ g, getRelaySocket after g = if SameIndex place g then some r else getRelaySocket ss g)
    (reason : Option String) : Attempted ss (some (place, r)) noted (after, 0, reason) := by
  have failure := getRelaySessionFailure_of_flags flags
  simp only [SuperSession.flags, Prod.mk.injEq] at flags
  refine ⟨?_, flags.1, flags.2.1, ?_, fun g flagged => Or.inl ((failure g).symm.trans flagged)⟩
  · intro g flagged
    have flaggedBefore := (failure g).symm.trans flagged
    rw [sockets, if_neg]
    · exact failures g flaggedBefore
    · intro same
      rw [getRelaySessionFailure_congr ss same, flaggedBefore] at clear
      cases clear
  · intro g
    rw [sockets]
    split
    · rename_i same
      exact Or.inr (Or.inr ⟨rfl, place, r, rfl, same⟩)
    · exact Or.inr (Or.inl rfl)

end Attempted

theorem allocateFamily_attempted {ss : SuperSession} {noted : Family} (fallback : Nat) (failures : FailuresNoted ss)
    (closed : givenSocket server env ss.client s family = none → getRelaySocket ss noted = none)
    (afresh : ss.connected = true → ∀ kept r, givenSocket server env ss.client s family = some (kept, r) →
      getRelaySessionFailure ss kept = false ∧ (r.tcp = true ∨ env.registerCallback = true)) :
    Attempted ss (givenSocket server env ss.client s family) noted
      (allocateFamily server env ss s lifetime family noted fallback) := by
  unfold allocateFamily
  cases connected : ss.connected with
  | false =>
    rw [createRelayConnection, if_pos connected]
    exact ⟨failures, rfl, rfl, fun g => Or.inr (Or.inl rfl), fun g flagged => Or.inl flagged⟩
  | true =>
    obtain ⟨flags, outcome⟩ := createRelayConnection_sockets server env s lifetime family connected
      (fun kept r given => (afresh connected kept r given).2)
    dsimp only
    cases given : givenSocket server env ss.client s family with
    | none =>
      rw [given] at outcome
      rw [if_pos outcome.1]
      exact .refused failures (closed given) flags outcome.2 _ _
    | some socket =>
      rw [given] at outcome
      obtain ⟨ok, sockets⟩ := outcome
      rw [ok, if_neg (by decide)]
      exact .opened failures (afresh connected _ _ given).1 flags sockets _

theorem givenSocket_family {s : AllocateScan} {family kept : Family}
    (given : givenSocket server env client s (some family) = some (kept, r)) :
    kept = family ∨ ∀ other, givenSocket server env client s other = some (kept, r) := by
  unfold givenSocket at given ⊢
  by_cases token : s.inReservationToken ≠ 0
  · rw [if_pos token] at given
    right
    intro other
    rw [if_pos token]
    exact given
  · rw [if_neg token] at given
    left
    split at given
    · cases given
    · split at given
      · cases given
      · cases Option.some.inj given
        rfl

theorem givenSocket_kept {s : AllocateScan} {family kept : Family} {other : Option Family}
    (given : givenSocket server env client s (some family) = some (kept, r))
    (ungiven : givenSocket server env client s other = none) : kept = family := by
  rcases givenSocket_family server env given with asked | reserved
  · exact asked
  · rw [reserved] at ungiven
    cases ungiven

/-- The relay sockets of an Allocate of an unopened session: failures stay noted, and an error leaves it unopened. -/
theorem allocateRelays_sockets {ss : SuperSession} {s : AllocateScan} (failures : FailuresNoted ss)
    (unopened : Unopened ss) (afresh : ss.connected = true → ∀ family ∈ attempts server ss.client s, ∀ kept r,
      givenSocket server env ss.client s family = some (kept, r) →
        getRelaySessionFailure ss kept = false ∧ (r.tcp = true ∨ env.registerCallback = true)) :
    let result := allocateRelays server env ss s lifetime
    FailuresNoted result.1 ∧ result.1.alloc.isValid = ss.alloc.isValid ∧ (result.2.1 ≠ 0 → Unopened result.1) := by
  have single (family : Option Family) (noted : Family) (fallback : Nat)
      (tried : family ∈ attempts server ss.client s) :
      let result := allocateFamily server env ss s lifetime family noted fallback
      FailuresNoted result.1 ∧ result.1.alloc.isValid = ss.alloc.isValid ∧ (result.2.1 ≠ 0 → Unopened result.1) := by
    have attempted := allocateFamily_attempted server env s lifetime family fallback failures
      (fun _ => unopened noted) (fun connected => afresh connected family tried)
    refine ⟨attempted.failures, attempted.isValid, ?_⟩
    intro failed g
    rcases attempted.sockets g with none | same | ⟨succeeded, _⟩
    · exact none
    · exact same.trans (unopened g)
    · exact absurd succeeded failed
  unfold allocateRelays attempts at *
  cases four : s.af4 <;> cases six : s.af6 <;> simp only [four, six] at single afresh ⊢
  · exact single _ _ _ (.head _)
  · exact single _ _ _ (.head _)
  · exact single _ _ _ (.head _)
  -- the second attempt starts with the socket and the failure of the first
  · have attempted4 := allocateFamily_attempted server env s lifetime (some .inet) 440 failures
      (fun _ => unopened .inet) (fun connected => afresh connected _ (.head _))
    generalize allocateFamily server env ss s lifetime (some .inet) .inet 440 = first at *
    have closed6 (ungiven : givenSocket server env ss.client s (some .inet6) = none) :
        getRelaySocket first.1 .inet6 = none := by
      rcases attempted4.sockets .inet6 with none | same | ⟨_, kept, r, given, index⟩
      · exact none
      · exact same.trans (unopened .inet6)
      · rw [givenSocket_kept server env given ungiven] at index
        exact absurd index (by decide)
    have afresh6 (connected : ss.connected = true) (kept : Family) (r : RelaySocket)
        (given : givenSocket server env ss.client s (some .inet6) = some (kept, r)) :
        getRelaySessionFailure first.1 kept = false ∧ (r.tcp = true ∨ env.registerCallback = true) := by
      obtain ⟨clear, registers⟩ := afresh connected _ (.tail _ (.head _)) kept r given
      refine ⟨Bool.eq_false_iff.mpr (fun flagged => ?_), registers⟩
      rcases attempted4.flagged kept flagged with earlier | ⟨ungiven, index⟩
      · rw [clear] at earlier
        cases earlier
      · rw [givenSocket_kept server env given ungiven] at index
        exact absurd index (by decide)
    have client := attempted4.client
    have attempted6 := allocateFamily_attempted server env s lifetime (some .inet6) 440 attempted4.failures
      (client.symm ▸ closed6) (SuperSession.connected_congr client ▸ client.symm ▸ afresh6)
    generalize allocateFamily server env first.1 s lifetime (some .inet6) .inet6 440 = second at *
    have valid := attempted6.isValid.trans attempted4.isValid
    split
    · rename_i both
      have unopened6 : Unopened second.1 := by
        intro g
        rcases attempted6.sockets g with none | same | ⟨succeeded, _⟩
        · exact none
        · rcases attempted4.sockets g with none | before | ⟨succeeded, _⟩
          · exact same.trans none
          · exact same.trans (before.trans (unopened g))
          · exact absurd succeeded both.1
        · exact absurd succeeded both.2
      split <;> exact ⟨attempted6.failures, valid, fun _ => unopened6⟩
    · exact ⟨attempted6.failures, valid, fun failed => absurd rfl failed⟩

theorem incQuota_relays (username : List UInt8) : (incQuota server env ss username).2.relays = ss.relays := by
  unfold incQuota
  split
  · rfl
  · split
    · rfl
    · split <;> rfl

theorem allocateBandwidth_relays (bps : Nat) : (allocateBandwidth env ss bps).1.relays = ss.relays := by
  unfold allocateBandwidth
  dsimp only
  split <;> rfl

theorem chargedSession_relays : (chargedSession server env ss m).relays = ss.relays := by
  unfold chargedSession
  dsimp only
  rw [allocateBandwidth_relays, incQuota_relays]
  rfl

/-- The session of an Allocate behind its relay sockets. -/
def allocated (m : Request) (opened : SuperSession × Nat × Option String) : SuperSession :=
  if opened.2.1 ≠ 0 then opened.1
  else { opened.1 with alloc := { opened.1.alloc with isValid := true, tid := m.tid } }

theorem allocateCharged_relays (s : AllocateScan) (lifetime : Nat) :
    (allocateCharged server env ss m s lifetime).1.relays = ss.relays ∧
        (allocateCharged server env ss m s lifetime).2.errCode ≠ 0 ∨
      ((allocateBandwidth env ss s.bps).2 = true ∧
          ¬ ((s.af4 = true ∧ s.af6 = true) ∧ (0 < s.evenPort ∨ server.externalIpSet = true))) ∧
        (allocateCharged server env ss m s lifetime).1 =
          allocated m (allocateRelays server env (allocateBandwidth env ss s.bps).1 s lifetime) := by
  have conflict := dualConflict_errCode server s (bif (allocateBandwidth env ss s.bps).2 then 0 else 486)
    (bif (allocateBandwidth env ss s.bps).2 then none else some "Allocation Bandwidth Quota Reached")
  unfold allocateCharged allocated
  dsimp only
  split
  · exact Or.inl ⟨allocateBandwidth_relays env ss s.bps, allocateError_errCode _ _ _⟩
  · rename_i allowed
    obtain ⟨enough, supported⟩ := conflict.mp (not_not.mp allowed)
    have paid : (allocateBandwidth env ss s.bps).2 = true := by
      cases bandwidth : (allocateBandwidth env ss s.bps).2 with
      | true => rfl
      | false => simp [bandwidth] at enough
    refine Or.inr ⟨⟨paid, supported⟩, ?_⟩
    split <;> rfl

/-- An Allocate of an unallocated session leaves the relay part alone, or it was admitted to its relay sockets. -/
theorem handleTurnAllocate_relays {ss : SuperSession} (unallocated : ss.alloc.isValid = false) :
    (handleTurnAllocate server env ss m).1.relays = ss.relays ∧ (handleTurnAllocate server env ss m).2.errCode ≠ 0 ∨
      Admitted server env ss m ∧ (handleTurnAllocate server env ss m).1 =
        allocated m (allocateRelays server env (chargedSession server env ss m) (allocateScanned server ss m)
          (allocateLifetime server ss m)) := by
  have fresh : ¬ ss.alloc.isValid = true := by rw [unallocated]; decide
  unfold handleTurnAllocate
  rw [if_neg fresh]
  change (allocateChecked server env _ m (allocateScanned server ss m)).1.relays = _ ∧
    (allocateChecked server env _ m (allocateScanned server ss m)).2.errCode ≠ 0 ∨ _ ∧
    (allocateChecked server env _ m (allocateScanned server ss m)).1 = _
  unfold allocateChecked
  split
  · exact Or.inl ⟨rfl, allocateError_errCode _ _ _⟩
  · rename_i transport
    split
    · exact Or.inl ⟨rfl, allocateError_errCode _ _ _⟩
    · rename_i known
      split
      · exact Or.inl ⟨rfl, allocateError_errCode _ _ _⟩
      · rename_i accepted
        split
        · exact Or.inl ⟨rfl, allocateError_errCode _ _ _⟩
        · rename_i compatible
          unfold allocateAccepted
          dsimp only
          split
          · exact Or.inl ⟨incQuota_relays server env _ _, allocateError_errCode _ _ _⟩
          · rename_i granted
            rcases allocateCharged_relays server env _ m (allocateScanned server ss m) _ with
              ⟨untouched, failed⟩ | ⟨⟨paid, supported⟩, opened⟩
            · exact Or.inl ⟨untouched.trans (incQuota_relays server env _ _), failed⟩
            · have quota := (incQuota_granted server env _ _).mp (Bool.eq_true_of_not_eq_false granted)
              refine Or.inr ⟨⟨unallocated, transport, ⟨not_not.mp accepted, not_not.mp known⟩, compatible, quota, ?_,
                supported⟩, opened⟩
              obtain ⟨_, realm, bps⟩ := incQuota_frame server env _ _
              have enough := (allocateBandwidth_enough env _ _).mp paid
              rw [realm, bps] at enough
              exact enough

end Sockets

/-- What Allocate requests keep of a session. -/
structure SocketsNoted (ss : SuperSession) : Prop where
  failures : FailuresNoted ss
  unopened : ss.alloc.isValid = false → Unopened ss

theorem getRelaySocket_of_relays {ss after : SuperSession} (same : after.relays = ss.relays) (family : Family) :
    getRelaySocket after family = getRelaySocket ss family := by
  simp only [SuperSession.relays, Prod.mk.injEq] at same
  cases family with
  | inet6 => exact congrArg RelayEndpointSession.s same.2.2.1
  | _ => exact congrArg RelayEndpointSession.s same.2.1

theorem getRelaySessionFailure_of_relays {ss after : SuperSession} (same : after.relays = ss.relays) (family : Family) :
    getRelaySessionFailure after family = getRelaySessionFailure ss family := by
  simp only [SuperSession.relays, Prod.mk.injEq] at same
  cases family with
  | inet6 => exact same.2.2.2.2
  | _ => exact same.2.2.2.1

theorem SocketsNoted.of_relays {ss after : SuperSession} (kept : SocketsNoted ss) (same : after.relays = ss.relays) :
    SocketsNoted after := by
  have socket := getRelaySocket_of_relays same
  have valid : after.alloc.isValid = ss.alloc.isValid := congrArg Prod.fst same
  constructor
  · intro family flagged
    rw [getRelaySessionFailure_of_relays same] at flagged
    exact (socket family).trans (kept.failures family flagged)
  · intro invalid family
    exact (socket family).trans (kept.unopened (valid.symm.trans invalid) family)

theorem SocketsNoted.allocate {server : TurnServer} {ss : SuperSession} {m : Request} (kept : SocketsNoted ss)
    (afresh : GivenAfresh server ss (.allocate m sur)) : SocketsNoted (handleTurnAllocate server sur.env ss m).1 := by
  cases valid : ss.alloc.isValid with
  | true =>
    unfold handleTurnAllocate
    rw [if_pos valid]
    exact kept
  | false =>
    rcases handleTurnAllocate_relays server sur.env m valid with ⟨untouched, _⟩ | ⟨admitted, opened⟩
    · exact kept.of_relays untouched
    · have relays := chargedSession_relays server sur.env ss m
      have charged := kept.of_relays relays
      have unopened := charged.unopened ((congrArg Prod.fst relays).trans valid)
      obtain ⟨failures, invalid, error⟩ := allocateRelays_sockets server sur.env (allocateLifetime server ss m)
        charged.failures unopened (by
          rw [SuperSession.connected_congr (chargedSession_client server sur.env ss m), chargedSession_client]
          intro connected family tried place r given
          rw [getRelaySessionFailure_of_relays relays]
          exact afresh admitted connected family tried place r given)
      rw [opened]
      unfold allocated
      split
      · rename_i failed
        exact ⟨failures, fun _ => error failed⟩
      · refine ⟨failures, ?_⟩
        intro invalid
        cases invalid

theorem relayedAddr_of_noted {server : TurnServer} {failure : Bool} {r : RelayEndpointSession} {s : RelaySocket}
    {addr : IoaAddr} (opened : r.s = some s) (unfailed : failure = true → r.s = none)
    (reported : relayedAddr server sur failure r = some addr) : addr = boundAddr server sur s := by
  unfold relayedAddr at reported
  split at reported
  · rename_i failed
    rw [unfailed failed] at opened
    cases opened
  · rw [opened] at reported
    exact (Option.some.inj reported).symm

/-- In every run in which relay sockets are given to families without a failure only, each Allocate success reports
the addresses of the open relay sockets. -/
theorem relayed_address_is_bound {server : TurnServer} {ss ss' : SuperSession} {m : Request} {sur : Surroundings}
    {answer : AllocateAnswer} (reach : (allocateMachine server).Reach (GivenAfresh server) ss)
    (afresh : GivenAfresh server ss (.allocate m sur))
    (run : allocateStep server ss (.allocate m sur) = (ss', some answer)) : ReportsBound server sur ss' answer := by
  have kept : SocketsNoted ss := by
    refine reach.invariant (P := SocketsNoted) ?_ ?_
    · rintro ss ⟨id, client, relays⟩
      refine SocketsNoted.of_relays ⟨?_, ?_⟩ relays
      · intro family _
        cases family <;> rfl
      · intro _ family
        cases family <;> rfl
    · intro ss ss' ev o kept enabled afresh run
      have after : (allocateStep server ss ev).1 = ss' := congrArg Prod.fst (Option.some.inj run)
      rw [← after]
      cases ev with
      | allocate m sur => exact kept.allocate afresh
      | elsewhere after => exact kept.of_relays enabled
  have keptAfter := kept.allocate afresh
  unfold allocateStep at run
  obtain ⟨rfl, answered⟩ := Prod.mk.inj run
  split at answered
  · cases Option.some.inj answered
    intro family s opened addr reported
    cases family with
    | inet6 => exact relayedAddr_of_noted opened (keptAfter.failures .inet6) reported
    | _ => exact relayedAddr_of_noted opened (keptAfter.failures .inet) reported
  · cases answered

/-- The first Allocate of the example's session, which has a key already. -/
theorem relayed_address_is_bound_first :
    (allocateMachine exampleServer).Reach (GivenAfresh exampleServer) exampleKeyed ∧
      GivenAfresh exampleServer exampleKeyed (.allocate exampleOneName exampleSurroundings) ∧
      (allocateStep exampleServer exampleKeyed (.allocate exampleOneName exampleSurroundings)).2 =
        some ⟨some (.inet 0x0100000A 49152), none⟩ ∧
      ReportsBound exampleServer exampleSurroundings
        (allocateStep exampleServer exampleKeyed (.allocate exampleOneName exampleSurroundings)).1
        ⟨some (.inet 0x0100000A 49152), none⟩ := by
  have reach : (allocateMachine exampleServer).Reach (GivenAfresh exampleServer) exampleKeyed :=
    .start ⟨1, ⟨.inet, false, false⟩, rfl⟩
  have afresh : GivenAfresh exampleServer exampleKeyed (.allocate exampleOneName exampleSurroundings) := by
    intro _ _ family _ kept r given
    refine ⟨?_, Or.inr rfl⟩
    cases kept <;> rfl
  have answered : (allocateStep exampleServer exampleKeyed (.allocate exampleOneName exampleSurroundings)).2 =
      some ⟨some (.inet 0x0100000A 49152), none⟩ := by decide +kernel
  refine ⟨reach, afresh, answered, ?_⟩
  exact relayed_address_is_bound reach afresh (Prod.ext rfl answered)

/-- The surroundings of an Allocate that gets no relay socket. -/
def exampleNoSocket : Surroundings :=
  { exampleSurroundings with env := { exampleEnv with createRelayIoaSockets _ _ _ := .failed 0 none } }

/-- An Allocate fails, the next one opens a socket at 10.0.0.1:192: it is told the address 0.0.0.0:0. -/
theorem retried_allocate_reports_any :
    ¬ ∀ (server : TurnServer) (ss ss' : SuperSession) (m : Request) (sur : Surroundings) (answer : AllocateAnswer),
      (allocateMachine server).Reach (fun _ _ => True) ss →
      allocateStep server ss (.allocate m sur) = (ss', some answer) → ReportsBound server sur ss' answer := by
  intro claimed
  have start : (allocateMachine exampleServer).Reach (fun _ _ => True) exampleKeyed :=
    .start ⟨1, ⟨.inet, false, false⟩, rfl⟩
  have failed : (allocateMachine exampleServer).Reach (fun _ _ => True)
      (allocateStep exampleServer exampleKeyed (.allocate exampleOneName exampleNoSocket)).1 :=
    .next (e := .allocate exampleOneName exampleNoSocket) start trivial trivial rfl
  have answered : (allocateStep exampleServer
      (allocateStep exampleServer exampleKeyed (.allocate exampleOneName exampleNoSocket)).1
      (.allocate exampleOneName exampleSurroundings)).2 = some ⟨some .any, none⟩ := by decide +kernel
  have opened : getRelaySocket (allocateStep exampleServer
      (allocateStep exampleServer exampleKeyed (.allocate exampleOneName exampleNoSocket)).1
      (.allocate exampleOneName exampleSurroundings)).1 .inet = some ⟨.inet 0x0100000A 49152, false, false⟩ := by
    decide +kernel
  have bound := claimed exampleServer _ _ exampleOneName exampleSurroundings _ failed (Prod.ext rfl answered) .inet _ opened
    _ rfl
  exact absurd bound (by decide)

end Server
end TurnCluster
