import TurnCluster.Server.Expiry
import TurnCluster.Server.RejectedIdentity
import TurnCluster.Server.RelayedAddress

namespace TurnCluster
namespace Server

/-- What a success with a LIFETIME promises the client. -/
structure Promise where
  lifetime : Nat
  /-- `max_session_time_auth` of the session that made the request. -/
  maxSessionTime : Nat
  /-- The relay sessions that the request covers, as it leaves them. -/
  covered : List RelayEndpointSession

structure Promise.Truthful (server : TurnServer) (env : Env) (promise : Promise) : Prop where
  bounded : promise.lifetime ≤ server.maxAllocateLifetime
  session : promise.maxSessionTime ≠ 0 → promise.lifetime ≤ promise.maxSessionTime
  expires : ∀ r ∈ promise.covered, r.expirationTime = env.ctime + promise.lifetime

inductive LifetimeRequest where
  | allocate (m : Request)
  | refresh (m : Request) (canResume : Bool)

/-- The relay session of a family has a socket that is not to be closed. -/
def isOpen (ss : SuperSession) (family : Family) : Bool :=
  match getRelaySocket ss family with
  | none => false
  | some s => !s.toBeClosed

/-- The relay sessions of the given families that are open. -/
def openSessions (ss : SuperSession) (families : List Family) : List RelayEndpointSession :=
  (families.filter (isOpen ss)).map (getRelaySession ss)

/-- A relay socket that is given can be used: a TCP one listens, any other one is registered. -/
def Registers (env : Env) (r : RelaySocket) : Prop := r.tcp = true ∨ env.registerCallback = true

instance (env : Env) (r : RelaySocket) : Decidable (Registers env r) := inferInstanceAs (Decidable (_ ∨ _))

/-- The families under which an Allocate is given a relay socket that can be registered. -/
def openedFamilies (server : TurnServer) (env : Env) (ss : SuperSession) (s : AllocateScan) : List Family :=
  if ss.connected = false then []
  else (attempts server ss.client s).filterMap (fun family =>
    match givenSocket server env ss.client s family with
    | some (kept, r) => if Registers env r then some kept else none
    | none => none)

/-- The lifetime that `stun_set_allocate_response_str` reports. -/
def reportedLifetime (lifetime maxLifetime : Nat) : Nat :=
  if lifetime < 1 then stunDefaultAllocateLifetime else min lifetime maxLifetime

/-- The promise of a new Allocate. -/
def allocatePromise (server : TurnServer) (env : Env) (ss : SuperSession) (m : Request) : Option Promise :=
  let (after, reply) := handleTurnAllocate server env ss m
  if ss.alloc.isValid = false ∧ reply.errCode = 0 then
    some ⟨reportedLifetime (allocateLifetime server ss m) server.maxAllocateLifetime, ss.maxSessionTimeAuth,
      (openedFamilies server env ss (allocateScanned server ss m)).map (getRelaySession after)⟩
  else none

def refreshScanned (server : TurnServer) (ss : SuperSession) (m : Request) : RefreshScan :=
  scanAttrs RefreshScan.running (RefreshScan.body server ss (hasOpenRelay ss .inet) (hasOpenRelay ss .inet6)) .start m.attrs

/-- The families that a Refresh of the session's own allocation is about. -/
def namedFamilies (s : RefreshScan) : List Family :=
  if s.af4 = false ∧ s.af6 = false then [.inet, .inet6]
  else (if s.af4 = true then [.inet] else []) ++ (if s.af6 = true then [.inet6] else [])

/-- The promise of a Refresh: of the session's own allocation, or of the one that a mobility ticket transfers. -/
def refreshPromise (server : TurnServer) (env : Env) (node : Node) (m : Request) (canResume : Bool) : Option Promise :=
  let s := refreshScanned server node.ss m
  let outcome := handleTurnRefresh server env node m canResume
  let lifetime := refreshLifetime server outcome.node.ss s
  if node.ss.alloc.isValid = true then
    if outcome.reply.errCode = 0 ∧ outcome.reply.respConstructed = true then
      some ⟨lifetime, node.ss.maxSessionTimeAuth, openSessions outcome.node.ss (namedFamilies s)⟩
    else none
  else if outcome.passed = true ∧ outcome.reply.noResponse = true then
    (outcome.node.mobile env.randomMobileId).map (fun moved =>
      ⟨lifetime, outcome.node.ss.maxSessionTimeAuth, openSessions moved [.inet, .inet6]⟩)
  else none

def promiseOf (server : TurnServer) (env : Env) (node : Node) : LifetimeRequest → Option Promise
  | .allocate m => allocatePromise server env node.ss m
  | .refresh m canResume => refreshPromise server env node m canResume

/-- The default lifetime is within the server's limit, or not used, or cut by the limit of the session. -/
def DefaultWithin (server : TurnServer) (lifetime maxSessionTime : Nat) : Prop :=
  stunDefaultAllocateLifetime ≤ server.maxAllocateLifetime ∨ stunMinAllocateLifetime ≤ lifetime ∨
    maxSessionTime ≠ 0 ∧ maxSessionTime ≤ server.maxAllocateLifetime

/-- The `max_session_time_auth` with which a session takes over another. -/
def borrowedSessionTime (ss origSs : SuperSession) : Nat :=
  if ss.hmackeySet = true then ss.maxSessionTimeAuth else origSs.maxSessionTimeAuth

/-- Each open relay session of the transferred allocation has a counterpart in the session that takes it over, or
happens to expire at the right time already. -/
def RelaysMatched (server : TurnServer) (env : Env) (ss origSs : SuperSession) (lifetime : Nat) : Prop :=
  ∀ family ∈ [Family.inet, .inet6], isOpen origSs family = true → hasOpenRelay ss family = true ∨
    (getRelaySession origSs family).expirationTime = env.ctime +
      stunAdjustAllocateLifetime lifetime server.maxAllocateLifetime (borrowedSessionTime ss origSs)

/-- The relay sockets that are opened for an Allocate are of the families of the relay sessions that keep them. -/
def OpensInPlace (server : TurnServer) (env : Env) (ss : SuperSession) (s : AllocateScan) : Prop :=
  ss.connected = true → ∀ family ∈ attempts server ss.client s, ∀ kept r,
    givenSocket server env ss.client s family = some (kept, r) → Registers env r → SameIndex r.localAddr.family kept

/-- When a granted lifetime is kept. -/
def LifetimeKept (server : TurnServer) (env : Env) (node : Node) : LifetimeRequest → Prop
  | .allocate m => OpensInPlace server env node.ss (allocateScanned server node.ss m)
  | .refresh m _ =>
    let s := refreshScanned server node.ss m
    if node.ss.alloc.isValid = true then
      DefaultWithin server s.lifetime node.ss.maxSessionTimeAuth ∧
        (s.af4 = false → s.af6 = false → RelaysMatched server env node.ss node.ss s.lifetime)
    else ∀ origSs, node.mobile s.mid = some origSs →
      DefaultWithin server s.lifetime (borrowedSessionTime node.ss origSs) ∧ RelaysMatched server env node.ss origSs s.lifetime

section Adjusted

variable (server : TurnServer) (lifetime maxSessionTime : Nat)

theorem stunAdjustAllocateLifetime_eq :
    ∃ base, base = (if lifetime < stunMinAllocateLifetime then stunDefaultAllocateLifetime
        else min lifetime server.maxAllocateLifetime) ∧
      stunAdjustAllocateLifetime lifetime server.maxAllocateLifetime maxSessionTime =
        if maxSessionTime ≠ 0 ∧ maxSessionTime < base then maxSessionTime else base := by
  have base : (if lifetime = 0 then stunDefaultAllocateLifetime
      else if lifetime < stunMinAllocateLifetime then stunMinAllocateLifetime
      else if server.maxAllocateLifetime < lifetime then server.maxAllocateLifetime else lifetime) =
      if lifetime < stunMinAllocateLifetime then stunDefaultAllocateLifetime
      else min lifetime server.maxAllocateLifetime := by
    unfold stunMinAllocateLifetime stunDefaultAllocateLifetime
    grind
  refine ⟨_, rfl, ?_⟩
  unfold stunAdjustAllocateLifetime
  rw [base]

theorem stunAdjustAllocateLifetime_session (limited : maxSessionTime ≠ 0) :
    stunAdjustAllocateLifetime lifetime server.maxAllocateLifetime maxSessionTime ≤ maxSessionTime := by
  obtain ⟨base, _, adjusted⟩ := stunAdjustAllocateLifetime_eq server lifetime maxSessionTime
  rw [adjusted]
  split <;> omega

theorem stunAdjustAllocateLifetime_pos (positive : 1 ≤ server.maxAllocateLifetime) :
    1 ≤ stunAdjustAllocateLifetime lifetime server.maxAllocateLifetime maxSessionTime := by
  obtain ⟨base, shape, adjusted⟩ := stunAdjustAllocateLifetime_eq server lifetime maxSessionTime
  have least : stunMinAllocateLifetime = 600 := rfl
  have default : stunDefaultAllocateLifetime = 600 := rfl
  rw [adjusted]
  split at shape <;> split <;> omega

theorem stunAdjustAllocateLifetime_bounded_iff :
    stunAdjustAllocateLifetime lifetime server.maxAllocateLifetime maxSessionTime ≤ server.maxAllocateLifetime ↔
      DefaultWithin server lifetime maxSessionTime := by
  obtain ⟨base, shape, adjusted⟩ := stunAdjustAllocateLifetime_eq server lifetime maxSessionTime
  have least : stunMinAllocateLifetime = 600 := rfl
  have default : stunDefaultAllocateLifetime = 600 := rfl
  unfold DefaultWithin
  rw [adjusted]
  split at shape <;> split <;> omega

end Adjusted

section Sessions

variable (server : TurnServer) (env : Env)

theorem getRelaySession_setRelaySession (ss : SuperSession) (f g : Family) (r : RelayEndpointSession) :
    getRelaySession (setRelaySession ss f r) g = if SameIndex f g then r else getRelaySession ss g := by
  cases f <;> cases g <;> rfl

theorem getRelaySession_setRelaySessionFailure (ss : SuperSession) (f g : Family) :
    getRelaySession (setRelaySessionFailure ss f) g = getRelaySession ss g := by
  cases f <;> cases g <;> rfl

theorem SameIndex.symm {f g : Family} (same : SameIndex f g) : SameIndex g f := Iff.symm same

theorem SameIndex.trans {f g h : Family} (first : SameIndex f g) (second : SameIndex g h) : SameIndex f h :=
  Iff.trans first second

/-- When the relay session of a family expires. -/
def expiry (ss : SuperSession) (family : Family) : Nat := (getRelaySession ss family).expirationTime

theorem expiry_setRelaySession (ss : SuperSession) (f g : Family) (r : RelayEndpointSession) :
    expiry (setRelaySession ss f r) g = if SameIndex f g then r.expirationTime else expiry ss g := by
  rw [expiry, getRelaySession_setRelaySession]
  split <;> rfl

/-- The timer of a new relay session is that of the family of its socket. It runs for the lifetime that is reported. -/
theorem startRelay_expiry (ss : SuperSession) (r : RelaySocket) (lifetime : Nat) (g : Family) :
    expiry (startRelay server env ss r lifetime).1 g =
      if Registers env r ∧ SameIndex r.localAddr.family g then
        env.ctime + reportedLifetime lifetime server.maxAllocateLifetime
      else expiry ss g := by
  have reported : reportedLifetime lifetime server.maxAllocateLifetime =
      (if lifetime < 1 then stunDefaultAllocateLifetime
        else if server.maxAllocateLifetime < lifetime then server.maxAllocateLifetime else lifetime) := by
    unfold reportedLifetime
    split
    · rfl
    · split <;> omega
  rw [reported]
  unfold startRelay setAllocationLifetimeEv
  by_cases unregistered : r.tcp = false ∧ env.registerCallback = false
  · have off : ¬ (Registers env r ∧ SameIndex r.localAddr.family g) := by
      rintro ⟨registers, _⟩
      rw [Registers, unregistered.1, unregistered.2] at registers
      simp at registers
    rw [if_pos unregistered, if_neg off]
  · have on : Registers env r := by
      unfold Registers
      cases tcp : r.tcp <;> cases registered : env.registerCallback <;> simp_all
    rw [if_neg unregistered]
    dsimp only
    rw [expiry_setRelaySession]
    simp only [on, true_and]

section Attempts

variable {server env} {ss : SuperSession} {s : AllocateScan} {family : Option Family} {kept : Family} {r : RelaySocket}

theorem getRelaySession_allocateFamily (lifetime : Nat) (noted : Family) (fallback : Nat) (g : Family) :
    getRelaySession (allocateFamily server env ss s lifetime family noted fallback).1 g =
      getRelaySession (createRelayConnection server env ss lifetime family s.transport s.evenPort
        s.inReservationToken).1 g := by
  unfold allocateFamily
  dsimp only
  split
  · exact getRelaySession_setRelaySessionFailure _ _ _
  · rfl

/-- An attempt that is given a socket clears the relay session that keeps it, and sets the timer of its family. -/
theorem allocateFamily_given (connected : ss.connected = true)
    (given : givenSocket server env ss.client s family = some (kept, r)) (lifetime : Nat) (noted : Family)
    (fallback : Nat) (g : Family) :
    expiry (allocateFamily server env ss s lifetime family noted fallback).1 g =
      if Registers env r ∧ SameIndex r.localAddr.family g then
        env.ctime + reportedLifetime lifetime server.maxAllocateLifetime
      else if SameIndex kept g then 0 else expiry ss g := by
  rw [expiry, getRelaySession_allocateFamily]
  rcases createRelayConnection_cases server env s lifetime family connected with
    ⟨kept', r', given', started⟩ | ⟨ungiven, _⟩
  · cases given.symm.trans given'
    rw [started]
    refine (startRelay_expiry server env _ r lifetime g).trans ?_
    rw [expiry_setRelaySession]
    rfl
  · cases given.symm.trans ungiven

theorem allocateFamily_ungiven (connected : ss.connected = true)
    (ungiven : givenSocket server env ss.client s family = none) (lifetime : Nat) (noted : Family) (fallback : Nat)
    {g : Family} (other : ¬ SameIndex (getFamily server ss.client family) g) :
    expiry (allocateFamily server env ss s lifetime family noted fallback).1 g = expiry ss g := by
  rw [expiry, getRelaySession_allocateFamily]
  rcases createRelayConnection_cases server env s lifetime family connected with
    ⟨kept', r', given', _⟩ | ⟨_, _, same | ⟨_, cleared⟩⟩
  · cases ungiven.symm.trans given'
  · rw [same]
    rfl
  · rw [cleared, getRelaySession_setRelaySession, if_neg other]
    rfl

/-- Without a reservation a socket is kept where `get_family` says, with one where its own address does. -/
theorem givenSocket_place (given : givenSocket server env ss.client s family = some (kept, r)) :
    kept = if s.inReservationToken ≠ 0 then r.localAddr.family else getFamily server ss.client family := by
  unfold givenSocket at given
  split at given
  · rename_i token
    rw [if_pos token]
    split at given
    · cases given
    · split at given
      · cases given
      · cases Option.some.inj given
        rfl
  · rename_i none
    rw [if_neg none]
    split at given
    · cases given
    · split at given
      · cases given
      · cases Option.some.inj given
        rfl

theorem forall_openedFamilies {P : Family → Prop} :
    (∀ kept ∈ openedFamilies server env ss s, P kept) ↔ (ss.connected = true → ∀ family ∈ attempts server ss.client s,
      ∀ kept r, givenSocket server env ss.client s family = some (kept, r) → Registers env r → P kept) := by
  unfold openedFamilies
  cases connected : ss.connected with
  | false => simp
  | true =>
    simp only [Bool.true_eq_false, if_false, true_implies, List.mem_filterMap]
    constructor
    · intro all family tried kept r given registers
      exact all kept ⟨family, tried, by rw [given]; exact if_pos registers⟩
    · rintro all kept ⟨family, tried, result⟩
      split at result
      · rename_i place r given
        split at result
        · rename_i registers
          cases Option.some.inj result
          exact all family tried _ r given registers
        · cases result
      · cases result

/-- One attempt: its socket expires when it is reported exactly if it is of the family of its relay session. -/
theorem allocateFamily_expires_iff (connected : ss.connected = true)
    (given : givenSocket server env ss.client s family = some (kept, r)) (registers : Registers env r) {lifetime : Nat}
    (positive : 0 < reportedLifetime lifetime server.maxAllocateLifetime) (noted : Family) (fallback : Nat) :
    expiry (allocateFamily server env ss s lifetime family noted fallback).1 kept =
        env.ctime + reportedLifetime lifetime server.maxAllocateLifetime ↔ SameIndex r.localAddr.family kept := by
  rw [allocateFamily_given connected given]
  constructor
  · intro expires
    by_contra other
    rw [if_neg (fun both => other both.2), if_pos (show SameIndex kept kept from Iff.rfl)] at expires
    omega
  · intro same
    rw [if_pos ⟨registers, same⟩]

theorem both_expire_iff (connected : ss.connected = true) {lifetime : Nat}
    (positive : 0 < reportedLifetime lifetime server.maxAllocateLifetime) :
    let four := (allocateFamily server env ss s lifetime (some .inet) .inet 440).1
    let six := (allocateFamily server env four s lifetime (some .inet6) .inet6 440).1
    (∀ family ∈ [some Family.inet, some .inet6], ∀ kept r, givenSocket server env ss.client s family = some (kept, r) →
        Registers env r → expiry six kept = env.ctime + reportedLifetime lifetime server.maxAllocateLifetime) ↔
      ∀ family ∈ [some Family.inet, some .inet6], ∀ kept r, givenSocket server env ss.client s family = some (kept, r) →
        Registers env r → SameIndex r.localAddr.family kept := by
  intro four six
  have client : four.client = ss.client :=
    (allocateFamily_spec server env ss s lifetime .inet .inet (show 440 ≠ 0 by decide)).1
  have still : four.connected = true := (SuperSession.connected_congr client).trans connected
  have second {kept : Family} {r : RelaySocket} (given : givenSocket server env ss.client s (some .inet6) = some (kept, r))
      (registers : Registers env r) : expiry six kept = env.ctime + reportedLifetime lifetime server.maxAllocateLifetime ↔
        SameIndex r.localAddr.family kept :=
    allocateFamily_expires_iff still (client.symm ▸ given) registers positive .inet6 440
  by_cases token : s.inReservationToken ≠ 0
  · -- a reserved socket is kept by the family of its address, and both attempts take it
    have reserved (family : Option Family) :
        givenSocket server env ss.client s family = givenSocket server env ss.client s (some .inet6) := by
      unfold givenSocket
      rw [if_pos token, if_pos token]
    have placed {family : Option Family} {kept : Family} {r : RelaySocket}
        (given : givenSocket server env ss.client s family = some (kept, r)) : SameIndex r.localAddr.family kept := by
      rw [givenSocket_place given, if_pos token]
      exact Iff.rfl
    refine ⟨fun _ family _ kept r given _ => placed given, fun _ family _ kept r given registers => ?_⟩
    exact (second ((reserved family).symm.trans given) registers).mpr (placed given)
  · have place {family : Family} {kept : Family} {r : RelaySocket} (known : family = .inet ∨ family = .inet6)
        (given : givenSocket server env ss.client s (some family) = some (kept, r)) : kept = family := by
      rw [givenSocket_place given, if_neg token]
      rcases known with rfl | rfl <;> rfl
    have first {kept : Family} {r : RelaySocket} (given : givenSocket server env ss.client s (some .inet) = some (kept, r))
        (registers : Registers env r) : expiry four kept = env.ctime + reportedLifetime lifetime server.maxAllocateLifetime ↔
          SameIndex r.localAddr.family kept :=
      allocateFamily_expires_iff connected given registers positive .inet 440
    -- the second attempt leaves the IPv4 session alone, unless its own socket is of IPv4
    have apart (placed : ∀ kept r, givenSocket server env ss.client s (some .inet6) = some (kept, r) → Registers env r →
        SameIndex r.localAddr.family kept) : expiry six .inet = expiry four .inet := by
      cases given : givenSocket server env ss.client s (some .inet6) with
      | none =>
        have elsewhere : ¬ SameIndex (getFamily server four.client (some .inet6)) .inet := by
          show ¬ SameIndex .inet6 .inet
          decide
        exact allocateFamily_ungiven still (client.symm ▸ given) lifetime .inet6 440 elsewhere
      | some result =>
        obtain ⟨kept, r⟩ := result
        have at6 := place (Or.inr rfl) given
        have own : ¬ (Registers env r ∧ SameIndex r.localAddr.family .inet) := by
          rintro ⟨registers, four⟩
          have six := placed kept r given registers
          rw [at6] at six
          exact absurd (four.symm.trans six) (by decide)
        refine (allocateFamily_given still (client.symm ▸ given) lifetime .inet6 440 .inet).trans ?_
        rw [if_neg own, at6, if_neg (by decide)]
    simp only [List.forall_mem_cons, List.not_mem_nil, false_implies, implies_true, and_true]
    constructor
    · rintro ⟨expires4, expires6⟩
      have placed6 : ∀ kept r, givenSocket server env ss.client s (some .inet6) = some (kept, r) → Registers env r →
          SameIndex r.localAddr.family kept :=
        fun kept r given registers => (second given registers).mp (expires6 kept r given registers)
      refine ⟨fun kept r given registers => (first given registers).mp ?_, placed6⟩
      have expires := expires4 kept r given registers
      rw [place (Or.inl rfl) given] at expires ⊢
      rwa [← apart placed6]
    · rintro ⟨placed4, placed6⟩
      refine ⟨fun kept r given registers => ?_, fun kept r given registers => (second given registers).mpr
        (placed6 kept r given registers)⟩
      have expires := (first given registers).mpr (placed4 kept r given registers)
      rw [place (Or.inl rfl) given] at expires ⊢
      rwa [apart placed6]

/-- The relay sessions that an Allocate opens all expire when it reports exactly if its sockets are in place. -/
theorem allocateRelays_expire_iff {lifetime : Nat} (positive : 0 < reportedLifetime lifetime server.maxAllocateLifetime) :
    (∀ kept ∈ openedFamilies server env ss s, expiry (allocateRelays server env ss s lifetime).1 kept =
        env.ctime + reportedLifetime lifetime server.maxAllocateLifetime) ↔ OpensInPlace server env ss s := by
  rw [forall_openedFamilies]
  unfold OpensInPlace
  refine forall_congr' fun connected => ?_
  have single (asked : Option Family) (noted : Family) (fallback : Nat) :
      (∀ family ∈ [asked], ∀ kept r, givenSocket server env ss.client s family = some (kept, r) → Registers env r →
        expiry (allocateFamily server env ss s lifetime asked noted fallback).1 kept =
          env.ctime + reportedLifetime lifetime server.maxAllocateLifetime) ↔
        ∀ family ∈ [asked], ∀ kept r, givenSocket server env ss.client s family = some (kept, r) → Registers env r →
          SameIndex r.localAddr.family kept := by
    simp only [List.mem_singleton, forall_eq]
    exact forall_congr' fun kept => forall_congr' fun r => forall_congr' fun given => forall_congr' fun registers =>
      allocateFamily_expires_iff connected given registers positive noted fallback
  unfold allocateRelays attempts
  cases s.af4 <;> cases s.af6 <;> dsimp only
  · exact single _ _ _
  · exact single _ _ _
  · exact single _ _ _
  · refine Iff.trans ?_ (both_expire_iff connected positive)
    split
    · split <;> exact Iff.rfl
    · exact Iff.rfl

end Attempts

theorem getRelaySession_allocated (m : Request) (opened : SuperSession × Nat × Option String) (g : Family) :
    getRelaySession (allocated m opened) g = getRelaySession opened.1 g := by
  unfold allocated
  split
  · rfl
  · cases g <;> rfl

variable {ss : SuperSession} {node : Node} {m : Request} {after before : SuperSession} {canResume : Bool}
  {lifetime : Nat} {s : RefreshScan} {asked : Family → Bool} {origSs : SuperSession} {promise : Promise}

theorem allocatePromise_truthful_iff (positive : 1 ≤ server.maxAllocateLifetime)
    (promised : allocatePromise server env ss m = some promise) :
    promise.Truthful server env ↔ OpensInPlace server env ss (allocateScanned server ss m) := by
  unfold allocatePromise at promised
  dsimp only at promised
  split at promised
  · rename_i success
    obtain ⟨unallocated, success⟩ := success
    cases Option.some.inj promised
    have least := stunAdjustAllocateLifetime_pos server (allocateScanned server ss m).lifetime ss.maxSessionTimeAuth positive
    have session := stunAdjustAllocateLifetime_session server (allocateScanned server ss m).lifetime ss.maxSessionTimeAuth
    have reported : reportedLifetime (allocateLifetime server ss m) server.maxAllocateLifetime =
        min (allocateLifetime server ss m) server.maxAllocateLifetime := if_neg (Nat.not_lt.mpr least)
    have granted : 0 < reportedLifetime (allocateLifetime server ss m) server.maxAllocateLifetime := by
      rw [reported]
      exact Nat.lt_min.mpr ⟨least, positive⟩
    have client := chargedSession_client server env ss m
    have placed : OpensInPlace server env (chargedSession server env ss m) (allocateScanned server ss m) ↔
        OpensInPlace server env ss (allocateScanned server ss m) := by
      unfold OpensInPlace
      rw [SuperSession.connected_congr client, client]
    have opened : openedFamilies server env (chargedSession server env ss m) (allocateScanned server ss m) =
        openedFamilies server env ss (allocateScanned server ss m) := by
      unfold openedFamilies
      rw [SuperSession.connected_congr client, client]
    have expire : (∀ r ∈ (openedFamilies server env ss (allocateScanned server ss m)).map
        (getRelaySession (handleTurnAllocate server env ss m).1), r.expirationTime =
          env.ctime + reportedLifetime (allocateLifetime server ss m) server.maxAllocateLifetime) ↔
        OpensInPlace server env ss (allocateScanned server ss m) := by
      rcases handleTurnAllocate_relays server env m unallocated with ⟨_, failed⟩ | ⟨_, state⟩
      · exact absurd success failed
      · rw [← placed, ← allocateRelays_expire_iff granted, opened, state, List.forall_mem_map]
        simp only [getRelaySession_allocated]
        exact Iff.rfl
    refine ⟨fun truthful => expire.mp truthful.expires, fun inPlace => ⟨?_, ?_, expire.mpr inPlace⟩⟩
    · rw [reported]
      exact Nat.min_le_right _ _
    · intro limited
      rw [reported]
      exact (Nat.min_le_left _ _).trans (session limited)
  · cases promised

/-- The flag of a family. -/
def flagOf (af4 af6 : Bool) (family : Family) : Bool :=
  match family with
  | .inet6 => af6
  | _ => af4

/-- One family of a refresh, whether it is asked for or not. -/
structure RelaysRenewed (before after : SuperSession) (lifetime : Nat) (asked : Family → Bool) : Prop where
  socket : ∀ g, getRelaySocket after g = getRelaySocket before g
  expires : ∀ g, (getRelaySession after g).expirationTime =
    if asked g = true then env.ctime + lifetime else (getRelaySession before g).expirationTime
  valid : after.alloc = before.alloc
  time : after.maxSessionTimeAuth = before.maxSessionTimeAuth

theorem refreshRelayConnection_refreshed {family : Family}
    (run : refreshRelayConnection env ss lifetime family = some after) :
    RelaysRenewed env ss after (if lifetime < 1 then 1 else lifetime) (fun g => decide (SameIndex family g)) := by
  unfold refreshRelayConnection at run
  split at run
  · cases Option.some.inj run
    refine ⟨getRelaySocket_setAllocationLifetimeEv _ _ _ _, fun g => ?_, ?_, ?_⟩
    · unfold setAllocationLifetimeEv
      rw [getRelaySession_setRelaySession]
      by_cases same : SameIndex family g
      · rw [if_pos same, if_pos (decide_eq_true same)]
      · rw [if_neg same, if_neg (by rw [decide_eq_false same]; decide)]
    · cases family <;> rfl
    · cases family <;> rfl
  · cases run

theorem RelaysRenewed.none (ss : SuperSession) (lifetime : Nat) : RelaysRenewed env ss ss lifetime (fun _ => false) :=
  ⟨fun _ => rfl, fun _ => rfl, rfl, rfl⟩

theorem RelaysRenewed.and {ss₁ : SuperSession} {first second : Family → Bool}
    (one : RelaysRenewed env ss ss₁ lifetime first) (two : RelaysRenewed env ss₁ after lifetime second)
    (both : ∀ g, asked g = (second g || first g)) : RelaysRenewed env ss after lifetime asked := by
  refine ⟨fun g => (two.socket g).trans (one.socket g), fun g => ?_, two.valid.trans one.valid, two.time.trans one.time⟩
  rw [two.expires, one.expires, both]
  cases second g <;> cases first g <;> rfl

theorem refreshFamilies_refreshed {af4 af6 : Bool} (run : refreshFamilies env ss lifetime af4 af6 = (after, true)) :
    RelaysRenewed env ss after (if lifetime < 1 then 1 else lifetime) (flagOf af4 af6) := by
  have six {ss₁ : SuperSession} (second : refreshFamilies.refreshSix env ss₁ lifetime af6 = (after, true)) :
      RelaysRenewed env ss₁ after (if lifetime < 1 then 1 else lifetime) (fun g => af6 && decide (SameIndex .inet6 g)) := by
    unfold refreshFamilies.refreshSix at second
    clear run
    split at second
    · cases second
    · cases second
      exact .none env _ _
    · rename_i refreshed
      cases second
      exact refreshRelayConnection_refreshed env refreshed
  unfold refreshFamilies at run
  split at run
  · cases run
  · refine (RelaysRenewed.none env ss _).and env (six run) ?_
    intro g
    cases g <;> cases af6 <;> rfl
  · rename_i refreshed
    refine (refreshRelayConnection_refreshed env refreshed).and env (six run) ?_
    intro g
    cases g <;> cases af6 <;> rfl

theorem mem_openSessions {families : List Family} {r : RelayEndpointSession} :
    r ∈ openSessions ss families ↔ ∃ family ∈ families, isOpen ss family = true ∧ getRelaySession ss family = r := by
  unfold openSessions
  simp only [List.mem_map, List.mem_filter]
  constructor
  · rintro ⟨family, ⟨named, open'⟩, rfl⟩
    exact ⟨family, named, open', rfl⟩
  · rintro ⟨family, named, open', rfl⟩
    exact ⟨family, ⟨named, open'⟩, rfl⟩

theorem RelaysRenewed.isOpen (refreshed : RelaysRenewed env before after lifetime asked) (family : Family) :
    Server.isOpen after family = Server.isOpen before family := by
  unfold Server.isOpen
  rw [refreshed.socket]

/-- The flags with which a Refresh of the session's own allocation goes through the families. -/
def ownFlags (ss : SuperSession) (s : RefreshScan) : Family → Bool :=
  flagOf (bif !s.af4 && !s.af6 then hasOpenRelay ss .inet else s.af4)
    (bif !s.af4 && !s.af6 then hasOpenRelay ss .inet6 else s.af6)

theorem refreshLifetime_congr (same : after.maxSessionTimeAuth = ss.maxSessionTimeAuth) (s : RefreshScan) :
    refreshLifetime server after s = refreshLifetime server ss s := by
  unfold refreshLifetime
  rw [same]

theorem handleTurnRefresh_own (valid : node.ss.alloc.isValid = true)
    (success : (handleTurnRefresh server env node m canResume).reply.errCode = 0) :
    ∃ af4 af6, flagOf af4 af6 = ownFlags node.ss (refreshScanned server node.ss m) ∧
      refreshFamilies env node.ss (refreshLifetime server node.ss (refreshScanned server node.ss m)) af4 af6 =
        ((handleTurnRefresh server env node m canResume).node.ss, true) := by
  have usable : ¬ (node.ss.alloc.isValid = false ∧ server.mobility = false) := by
    rw [valid]
    rintro ⟨invalid, _⟩
    cases invalid
  unfold handleTurnRefresh at success ⊢
  dsimp only at success ⊢
  rw [if_neg usable] at success ⊢
  change (refreshChecked server env node m (refreshScanned server node.ss m) _ _ canResume).reply.errCode = 0 at success
  change ∃ af4 af6, _ ∧ _ = ((refreshChecked server env node m (refreshScanned server node.ss m) _ _ canResume).node.ss, true)
  unfold refreshChecked at success ⊢
  split at success
  · cases success
  · rename_i known
    rw [if_neg known]
    split at success
    · rename_i failed
      exact absurd success failed
    · rename_i fine
      have allocated : ¬ node.ss.alloc.isValid = false := by rw [valid]; decide
      rw [if_neg allocated] at success
      rw [if_neg fine, if_neg allocated]
      refine ⟨_, _, rfl, ?_⟩
      unfold refreshOwn at success ⊢
      dsimp only at success ⊢
      split at success
      · rename_i done
        rw [if_pos done]
        exact Prod.ext rfl done
      · cases success

theorem refreshLifetime_of_pos (positive : 0 < refreshLifetime server ss s) :
    refreshLifetime server ss s = stunAdjustAllocateLifetime s.lifetime server.maxAllocateLifetime ss.maxSessionTimeAuth := by
  unfold refreshLifetime at positive ⊢
  split at positive
  · cases positive
  · rename_i kept
    exact if_neg kept

/-- The open sessions of some families all expire at the new time exactly if each of them is asked for or expires then
already. -/
theorem renewed_expire_iff (renewed : RelaysRenewed env before after lifetime asked) (families : List Family) :
    (∀ r ∈ openSessions after families, r.expirationTime = env.ctime + lifetime) ↔
      ∀ family ∈ families, isOpen before family = true → asked family = true ∨
        (getRelaySession before family).expirationTime = env.ctime + lifetime := by
  constructor
  · intro all family named open'
    have expires := all _ (mem_openSessions.mpr ⟨family, named, (renewed.isOpen env family).trans open', rfl⟩)
    rw [renewed.expires] at expires
    split at expires
    · rename_i asks
      exact Or.inl asks
    · exact Or.inr expires
  · intro matched r covered
    obtain ⟨family, named, open', rfl⟩ := mem_openSessions.mp covered
    rw [renewed.isOpen] at open'
    rw [renewed.expires]
    rcases matched family named open' with asks | already
    · rw [if_pos asks]
    · split
      · rfl
      · exact already

/-- A family that a Refresh names is asked for; if it names none, those are asked for that the session has sockets of. -/
theorem ownFlags_named {Q : Family → Prop} :
    (∀ family ∈ namedFamilies s, isOpen ss family = true → ownFlags ss s family = true ∨ Q family) ↔
      (s.af4 = false → s.af6 = false → ∀ family ∈ [Family.inet, .inet6], isOpen ss family = true →
        hasOpenRelay ss family = true ∨ Q family) := by
  unfold namedFamilies ownFlags
  cases four : s.af4 <;> cases six : s.af6 <;> simp [flagOf]

theorem ownPromise_truthful_iff (valid : node.ss.alloc.isValid = true) (positive : 0 < promise.lifetime)
    (promised : refreshPromise server env node m canResume = some promise) :
    promise.Truthful server env ↔
      DefaultWithin server (refreshScanned server node.ss m).lifetime node.ss.maxSessionTimeAuth ∧
        ((refreshScanned server node.ss m).af4 = false → (refreshScanned server node.ss m).af6 = false →
          RelaysMatched server env node.ss node.ss (refreshScanned server node.ss m).lifetime) := by
  unfold refreshPromise at promised
  dsimp only at promised
  rw [if_pos valid] at promised
  split at promised
  · rename_i success
    obtain ⟨af4, af6, flags, run⟩ := handleTurnRefresh_own server env valid success.1
    generalize handleTurnRefresh server env node m canResume = outcome at *
    cases Option.some.inj promised
    have refreshed := refreshFamilies_refreshed env run
    have lifetime := refreshLifetime_congr server refreshed.time (refreshScanned server node.ss m)
    dsimp only at positive
    rw [lifetime] at positive
    have adjusted := refreshLifetime_of_pos server positive
    rw [if_neg (Nat.not_lt.mpr positive), flags] at refreshed
    have own : borrowedSessionTime node.ss node.ss = node.ss.maxSessionTimeAuth := by
      unfold borrowedSessionTime
      split <;> rfl
    have expires := (renewed_expire_iff env refreshed (namedFamilies (refreshScanned server node.ss m))).trans ownFlags_named
    rw [adjusted] at expires
    have bounded := stunAdjustAllocateLifetime_bounded_iff server (refreshScanned server node.ss m).lifetime
      node.ss.maxSessionTimeAuth
    have session := stunAdjustAllocateLifetime_session server (refreshScanned server node.ss m).lifetime
      node.ss.maxSessionTimeAuth
    unfold RelaysMatched
    rw [own, ← expires, ← bounded]
    rw [lifetime, adjusted]
    exact ⟨fun truthful => ⟨truthful.bounded, truthful.expires⟩, fun kept => ⟨kept.1, session, kept.2⟩⟩
  · cases promised

theorem incQuota_maxSessionTimeAuth (ss : SuperSession) (username : List UInt8) :
    (incQuota server env ss username).2.maxSessionTimeAuth = ss.maxSessionTimeAuth := by
  unfold incQuota
  split
  · rfl
  · split
    · rfl
    · split <;> rfl

theorem checkStunAuth_maxSessionTimeAuth (ss : SuperSession) (m : Request) (method : UInt16) (canResume : Bool) :
    (checkStunAuth server env ss m method canResume).ss.maxSessionTimeAuth = ss.maxSessionTimeAuth := by
  obtain ⟨nonce, time, options, written | ⟨usname, written⟩⟩ := checkStunAuth_frame server env ss m method canResume
  · rw [written]
    rfl
  · rw [written]
    unfold renamed
    repeat' split
    all_goals rfl

theorem borrowCredentials_maxSessionTimeAuth (ss origSs : SuperSession) :
    (borrowCredentials server env ss origSs).maxSessionTimeAuth = borrowedSessionTime ss origSs := by
  unfold borrowCredentials borrowedSessionTime
  dsimp only
  split
  · rfl
  · unfold copyAuthParameters
    dsimp only
    rw [incQuota_maxSessionTimeAuth]

theorem getRelaySession_of_relays (same : after.relays = ss.relays) (family : Family) :
    getRelaySession after family = getRelaySession ss family := by
  simp only [SuperSession.relays, Prod.mk.injEq] at same
  cases family with
  | inet6 => exact same.2.2.1
  | _ => exact same.2.1

theorem copyAuthParameters_relays (origSs ss : SuperSession) :
    (copyAuthParameters server env origSs ss).relays = ss.relays := by
  unfold copyAuthParameters
  dsimp only
  rw [incQuota_relays]
  rfl

theorem transferSession_moved {mid : Nat}
    (answered : (transferSession server env node origSs mid).reply.noResponse = true) :
    (transferSession server env node origSs mid).node.ss.maxSessionTimeAuth = node.ss.maxSessionTimeAuth ∧
      ∃ moved, (transferSession server env node origSs mid).node.mobile env.randomMobileId = some moved ∧
        moved.relays = origSs.relays := by
  unfold transferSession at answered ⊢
  dsimp only at answered ⊢
  split at answered
  · cases answered
  · rename_i detached
    rw [if_neg detached]
    split at answered
    · cases answered
    · rename_i attached
      rw [if_neg attached]
      refine ⟨rfl, _, Function.update_self _ _ _, ?_⟩
      show (incQuota server env _ _).2.relays = _
      rw [incQuota_relays]
      split
      · rw [copyAuthParameters_relays]
        rfl
      · rfl

theorem refreshChosen_moved {af4c af6c : Bool} {auth : AuthResult}
    (passed : (refreshChosen server env node s af4c af6c origSs auth).passed = true)
    (answered : (refreshChosen server env node s af4c af6c origSs auth).reply.noResponse = true) :
    (refreshChosen server env node s af4c af6c origSs auth).node.ss.maxSessionTimeAuth = auth.ss.maxSessionTimeAuth ∧
      ∃ after moved, refreshFamilies env origSs (refreshLifetime server auth.ss s) af4c af6c = (after, true) ∧
        (refreshChosen server env node s af4c af6c origSs auth).node.mobile env.randomMobileId = some moved ∧
        moved.relays = after.relays := by
  unfold refreshChosen at passed answered ⊢
  cases waiting : auth.lookup with
  | some lookup =>
    simp only [waiting] at passed
    cases passed
  | none =>
    simp only [waiting] at passed answered ⊢
    split at passed
    · cases passed
    · rename_i fine
      rw [if_neg fine] at answered ⊢
      split at passed
      · rename_i done
        rw [if_pos done] at answered ⊢
        obtain ⟨time, moved, found, relays⟩ := transferSession_moved server env answered
        exact ⟨time, _, moved, Prod.ext rfl done, found, relays⟩
      · rename_i failed
        rw [if_neg failed] at answered
        cases answered

/-- A ticket that is honoured: the relay sessions of the session it names are refreshed for the families
of the session that shows it. -/
theorem handleTurnRefresh_transfer (invalid : ¬ node.ss.alloc.isValid = true)
    (passed : (handleTurnRefresh server env node m canResume).passed = true)
    (answered : (handleTurnRefresh server env node m canResume).reply.noResponse = true) :
    ∃ origSs after moved, node.mobile (refreshScanned server node.ss m).mid = some origSs ∧
      (handleTurnRefresh server env node m canResume).node.ss.maxSessionTimeAuth = borrowedSessionTime node.ss origSs ∧
      refreshFamilies env origSs (refreshLifetime server (handleTurnRefresh server env node m canResume).node.ss
        (refreshScanned server node.ss m)) (hasOpenRelay node.ss .inet) (hasOpenRelay node.ss .inet6) = (after, true) ∧
      (handleTurnRefresh server env node m canResume).node.mobile env.randomMobileId = some moved ∧
      moved.relays = after.relays := by
  have shape : handleTurnRefresh server env node m canResume = refreshTicket server env node m
      (refreshScanned server node.ss m) (hasOpenRelay node.ss .inet) (hasOpenRelay node.ss .inet6) canResume := by
    unfold handleTurnRefresh at passed ⊢
    dsimp only at passed ⊢
    split at passed
    · cases passed
    · rename_i mobile
      rw [if_neg mobile]
      unfold refreshChecked at passed ⊢
      split at passed
      · cases passed
      · rename_i known
        rw [if_neg known]
        split at passed
        · cases passed
        · rename_i fine
          rw [if_neg fine, if_pos (Bool.not_eq_true _ ▸ invalid)]
          rfl
  rw [shape] at passed answered ⊢
  obtain ⟨origSs, found, chosen⟩ := refreshTicket_passed passed
  rw [chosen] at passed answered ⊢
  obtain ⟨time, after, moved, run, put, relays⟩ := refreshChosen_moved server env passed answered
  have borrowed := (checkStunAuth_maxSessionTimeAuth server env (borrowCredentials server env node.ss origSs) m
    stunMethodRefresh canResume).trans (borrowCredentials_maxSessionTimeAuth server env node.ss origSs)
  refine ⟨origSs, after, moved, found, time.trans borrowed, ?_, put, relays⟩
  rw [← run]
  exact congrArg (fun lifetime => refreshFamilies env origSs lifetime _ _) (refreshLifetime_congr server time _)

/-- The same for the sessions that are taken over, which are asked for by what the session that takes them has. -/
theorem moved_expire_iff {moved : SuperSession}
    (renewed : RelaysRenewed env origSs after lifetime (flagOf (hasOpenRelay ss .inet) (hasOpenRelay ss .inet6)))
    (relays : moved.relays = after.relays) :
    (∀ r ∈ openSessions moved [.inet, .inet6], r.expirationTime = env.ctime + lifetime) ↔
      ∀ family ∈ [Family.inet, .inet6], isOpen origSs family = true → hasOpenRelay ss family = true ∨
        (getRelaySession origSs family).expirationTime = env.ctime + lifetime := by
  have session : getRelaySession moved = getRelaySession after := funext (getRelaySession_of_relays relays)
  have opened : isOpen moved = isOpen after := by
    funext family
    unfold isOpen
    rw [getRelaySocket_of_relays relays]
  have same : openSessions moved [.inet, .inet6] = openSessions after [.inet, .inet6] := by
    unfold openSessions
    rw [session, opened]
  rw [same, renewed_expire_iff env renewed]
  simp [flagOf]

theorem ticketPromise_truthful_iff (invalid : ¬ node.ss.alloc.isValid = true) (positive : 0 < promise.lifetime)
    (promised : refreshPromise server env node m canResume = some promise) :
    promise.Truthful server env ↔ ∀ origSs, node.mobile (refreshScanned server node.ss m).mid = some origSs →
      DefaultWithin server (refreshScanned server node.ss m).lifetime (borrowedSessionTime node.ss origSs) ∧
        RelaysMatched server env node.ss origSs (refreshScanned server node.ss m).lifetime := by
  unfold refreshPromise at promised
  dsimp only at promised
  rw [if_neg invalid] at promised
  split at promised
  · rename_i answered
    obtain ⟨origSs, after, moved, found, time, run, put, relays⟩ :=
      handleTurnRefresh_transfer server env invalid answered.1 answered.2
    generalize handleTurnRefresh server env node m canResume = outcome at *
    rw [put] at promised
    cases Option.some.inj promised
    dsimp only at positive
    have refreshed := refreshFamilies_refreshed env run
    have adjusted := refreshLifetime_of_pos server positive
    rw [if_neg (Nat.not_lt.mpr positive)] at refreshed
    rw [time] at adjusted
    generalize refreshLifetime server outcome.node.ss (refreshScanned server node.ss m) = lifetime at *
    have bounded : lifetime ≤ server.maxAllocateLifetime ↔ DefaultWithin server (refreshScanned server node.ss m).lifetime
        (borrowedSessionTime node.ss origSs) := by
      rw [adjusted]
      exact stunAdjustAllocateLifetime_bounded_iff ..
    have expires : (∀ r ∈ openSessions moved [.inet, .inet6], r.expirationTime = env.ctime + lifetime) ↔
        RelaysMatched server env node.ss origSs (refreshScanned server node.ss m).lifetime := by
      unfold RelaysMatched
      rw [← adjusted]
      exact moved_expire_iff env refreshed relays
    constructor
    · intro truthful other shown
      cases found.symm.trans shown
      exact ⟨bounded.mp truthful.bounded, expires.mp truthful.expires⟩
    · intro kept
      obtain ⟨within, matched⟩ := kept origSs found
      refine ⟨bounded.mpr within, ?_, expires.mpr matched⟩
      dsimp only
      rw [time, adjusted]
      exact stunAdjustAllocateLifetime_session server _ _
  · cases promised

end Sessions

/-- A lifetime that is promised is kept and within its limits exactly as `LifetimeKept` says: an Allocate opens sockets
of the families of its relay sessions, the default is not above the server's limit, and every open relay session that a
Refresh covers has its counterpart among the sockets by which the families are chosen. -/
theorem granted_lifetime_truthful_iff {server : TurnServer} {env : Env} {node : Node} {request : LifetimeRequest}
    {promise : Promise} (limit : 1 ≤ server.maxAllocateLifetime) (positive : 0 < promise.lifetime)
    (promised : promiseOf server env node request = some promise) :
    promise.Truthful server env ↔ LifetimeKept server env node request := by
  cases request with
  | allocate m => exact allocatePromise_truthful_iff server env limit promised
  | refresh m canResume =>
    unfold LifetimeKept
    dsimp only
    split
    · rename_i valid
      exact ownPromise_truthful_iff server env valid positive promised
    · rename_i invalid
      exact ticketPromise_truthful_iff server env invalid positive promised

/-- A Refresh without a LIFETIME. -/
def examplePlainRefresh : Request := .ofAttributes stunMethodRefresh []

/-- A server with a limit of 300 seconds. -/
def exampleShortServer : TurnServer := { exampleServer with maxAllocateLifetime := 300 }

theorem granted_lifetime_truthful_refreshed :
    ∃ promise, promiseOf exampleServer exampleEnv exampleAllocated (.refresh examplePlainRefresh true) = some promise ∧
      0 < promise.lifetime ∧ promise.Truthful exampleServer exampleEnv := by
  obtain ⟨promise, promised, lifetime⟩ : ∃ promise, promiseOf exampleServer exampleEnv exampleAllocated
      (.refresh examplePlainRefresh true) = some promise ∧ promise.lifetime = 600 :=
    Option.map_eq_some_iff.mp (by decide +kernel)
  have positive : 0 < promise.lifetime := by rw [lifetime]; decide
  refine ⟨promise, promised, positive, ?_⟩
  have counterpart : ∀ family ∈ [Family.inet, .inet6], isOpen exampleAllocated.ss family = true →
      hasOpenRelay exampleAllocated.ss family = true := by decide
  exact (granted_lifetime_truthful_iff (by decide) positive promised).mpr
    ⟨Or.inl (by decide), fun _ _ family known open' => Or.inl (counterpart family known open')⟩

/-- It answers a Refresh without a LIFETIME with 600. -/
theorem default_lifetime_above_limit :
    ¬ ∀ (server : TurnServer) (env : Env) (node : Node) (request : LifetimeRequest) (promise : Promise),
      1 ≤ server.maxAllocateLifetime → 0 < promise.lifetime → promiseOf server env node request = some promise →
      promise.Truthful server env := by
  intro claimed
  obtain ⟨promise, promised, lifetime⟩ : ∃ promise, promiseOf exampleShortServer exampleEnv exampleAllocated
      (.refresh examplePlainRefresh true) = some promise ∧ promise.lifetime = 600 :=
    Option.map_eq_some_iff.mp (by decide +kernel)
  have truthful := claimed exampleShortServer exampleEnv exampleAllocated _ promise (by decide)
    (by rw [lifetime]; decide) promised
  have bounded : promise.lifetime ≤ 300 := truthful.bounded
  omega

end Server
end TurnCluster
