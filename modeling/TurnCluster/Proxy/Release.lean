import TurnCluster.Proxy.Routes

namespace TurnCluster
namespace Proxy

open StunCustomHeader

/-- Key of a client in the table of allocations. -/
def Client.key (client : Client) : List Char := addrKey client.ip client.port

/-- Key of a relay address in the table that release notices look up. -/
def AddrInfo.relayKey (relay : AddrInfo) : List Char := addrKey relay.ip (nswap16 relay.port)

/-- A relay address in the hands of a client. -/
abbrev Lease := Client × AddrInfo

/-- The proxy among its clients, with the allocations that coturn holds and the
routes installed on them, newest first. -/
structure LeaseWorld where
  world : World
  leases : List Lease
  installed : List (List Char × Lease)

def LeaseWorld.init : LeaseWorld := ⟨.init, [], []⟩

/-- The allocation on which the current entry of a route was installed. -/
def LeaseWorld.installedBy (s : LeaseWorld) (key : List Char) : Option Lease :=
  (s.installed.find? (fun i => i.1 == key)).map Prod.snd

/-- The notice that coturn sends when a relay is released. -/
def Releases (relay : AddrInfo) (ev : Event) : Prop :=
  ev.origin = .notice ∧ frameKind ev.buf ev.len = .release ∧
    (read ev.buf).dstIp = relay.ip ∧ (read ev.buf).dstPort = relay.port

instance (relay : AddrInfo) (ev : Event) : Decidable (Releases relay ev) :=
  inferInstanceAs (Decidable (_ ∧ _ ∧ _ ∧ _))

/-- Exchanges of Allocate and CreatePermission that succeed, and releases. A
relay belongs to one client, and a client without one is granted nothing. -/
def LeaseExchange (cfg : Config) (s : LeaseWorld) (ev : Event) : Prop :=
  match ev.origin with
  | .outside _ _ => ∃ request ∈ ev.request cfg,
      request.method = stunMethodAllocate ∨ request.method = stunMethodCreatePermission
  | .grant request => ∃ l ∈ s.leases, l.1 = request.client
  | .reply request => frameKind ev.buf ev.len = .allocateSuccess ∧
      ∀ l ∈ s.leases, l.1 = request.client ↔ l.2 = relayInfo ev.buf ev.len
  | .notice => ∃ l ∈ s.leases, Releases l.2 ev
  | .data _ _ => False

/-- The route that a CreatePermission success installs, with the allocation it belongs to. -/
def LeaseWorld.installs (s : LeaseWorld) (request : Request) (buf : Memory) : List (List Char × Lease) :=
  match s.world.proxy.mapRequests (frameTid buf), s.leases.find? (fun l => l.1 == request.client) with
  | some pending, some lease => [(pending.routeKey, lease)]
  | _, _ => []

def leaseStep (cfg : Config) (s : LeaseWorld) (ev : Event) : Option (LeaseWorld × List Send) :=
  match deliver cfg s.world ev with
  | none => none
  | some (world, sends) =>
    match ev.origin with
    | .reply request => some (⟨world, (request.client, relayInfo ev.buf ev.len) :: s.leases, s.installed⟩, sends)
    | .grant request => some (⟨world, s.leases, s.installs request ev.buf ++ s.installed⟩, sends)
    | .notice =>
      some (⟨world, s.leases.filter (fun l => l.2.relayKey != releaseKey ev.buf),
        s.installed.filter (fun i => i.2.2.relayKey != releaseKey ev.buf)⟩, sends)
    | _ => some (⟨world, s.leases, s.installed⟩, sends)

def leaseMachine (cfg : Config) : Machine LeaseWorld Event (List Send) where
  init s := s = .init
  enabled s ev := Genuine cfg s.world ev ∧ LeaseExchange cfg s ev
  next := leaseStep cfg

/-- An Allocate success reports the address of its client, and no text key
stands for two clients or two relays; a CreatePermission success settles the
client's own request, and all those of an allocation are for one peer. -/
def SingleRoute (s : LeaseWorld) (ev : Event) : Prop :=
  match ev.origin with
  | .reply request =>
    mappedKey ev.buf ev.len = request.client.key ∧
      ∀ l ∈ s.leases, (l.1.key = request.client.key → l.1 = request.client) ∧
        (l.2.relayKey = (relayInfo ev.buf ev.len).relayKey → l.2 = relayInfo ev.buf ev.len)
  | .grant request =>
    ∀ pending ∈ s.world.proxy.mapRequests (frameTid ev.buf), pending.client = request.client ∧
      ∀ i ∈ s.installed, i.2.1 = request.client → i.1 = pending.routeKey
  | _ => True

instance (cfg : Config) (s : LeaseWorld) (ev : Event) : Decidable (LeaseExchange cfg s ev) :=
  match ev with
  | ⟨.outside ip port, buf, n⟩ =>
    inferInstanceAs (Decidable (∃ request ∈ Event.request cfg ⟨.outside ip port, buf, n⟩,
      request.method = stunMethodAllocate ∨ request.method = stunMethodCreatePermission))
  | ⟨.grant request, _, _⟩ => inferInstanceAs (Decidable (∃ l ∈ s.leases, l.1 = request.client))
  | ⟨.reply request, buf, n⟩ =>
    inferInstanceAs (Decidable (frameKind buf n = .allocateSuccess ∧
      ∀ l ∈ s.leases, l.1 = request.client ↔ l.2 = relayInfo buf n))
  | ⟨.data _ _, _, _⟩ => inferInstanceAs (Decidable False)
  | ⟨.notice, buf, n⟩ => inferInstanceAs (Decidable (∃ l ∈ s.leases, Releases l.2 ⟨.notice, buf, n⟩))

instance (s : LeaseWorld) (ev : Event) : Decidable (SingleRoute s ev) :=
  match ev with
  | ⟨.outside _ _, _, _⟩ => inferInstanceAs (Decidable True)
  | ⟨.grant request, buf, _⟩ =>
    inferInstanceAs (Decidable (∀ pending ∈ s.world.proxy.mapRequests (frameTid buf),
      pending.client = request.client ∧
        ∀ i ∈ s.installed, i.2.1 = request.client → i.1 = pending.routeKey))
  | ⟨.reply request, buf, n⟩ =>
    inferInstanceAs (Decidable (mappedKey buf n = request.client.key ∧
      ∀ l ∈ s.leases, (l.1.key = request.client.key → l.1 = request.client) ∧
        (l.2.relayKey = (relayInfo buf n).relayKey → l.2 = relayInfo buf n)))
  | ⟨.data _ _, _, _⟩ => inferInstanceAs (Decidable True)
  | ⟨.notice, _, _⟩ => inferInstanceAs (Decidable True)

instance (cfg : Config) (s : LeaseWorld) (ev : Event) : Decidable ((leaseMachine cfg).enabled s ev) :=
  inferInstanceAs (Decidable (_ ∧ _))

/-- What the tables hold for one allocation: nothing but the recorded relay
until the first permission, then the one peer that all its routes are for. -/
structure LeaseTracked (st : State) (installed : List (List Char × Lease)) (lease : Lease) : Prop where
  recorded : ∀ relay, st.mapAllocInfo lease.1.key = some relay → relay = lease.2
  before : st.mapLocalRemote lease.2.relayKey = none →
    st.mapAllocInfo lease.1.key = some lease.2 ∧ ∀ i ∈ installed, i.2 ≠ lease
  after : ∀ peer, st.mapLocalRemote lease.2.relayKey = some peer →
    (addrKey peer.ip peer.port, lease) ∈ installed ∧
      ∀ i ∈ installed, i.2 = lease → i.1 = addrKey peer.ip peer.port

structure LeasesTracked (s : LeaseWorld) : Prop where
  tracked : ∀ lease ∈ s.leases, LeaseTracked s.world.proxy s.installed lease
  released : ∀ key peer, s.world.proxy.mapLocalRemote key = some peer → ∃ l ∈ s.leases, l.2.relayKey = key
  owned : ∀ i ∈ s.installed, i.2 ∈ s.leases
  clients : ∀ l ∈ s.leases, ∀ l' ∈ s.leases, l.1.key = l'.1.key → l = l'
  relays : ∀ l ∈ s.leases, ∀ l' ∈ s.leases, l.2.relayKey = l'.2.relayKey → l = l'

variable {cfg : Config} {s : LeaseWorld} {st : State} {s' : LeaseWorld} {installed : List (List Char × Lease)}
  {buf : Memory} {lease : Lease} (tid : List UInt8) {port : UInt16} {n : Nat} {ev : Event} {peer : AddrInfo}
  {pending : RequestInfo} {relay : AddrInfo} {sends : List Send}

theorem releaseKey_of_releases (release : Releases relay ev) : releaseKey ev.buf = relay.relayKey := by
  obtain ⟨_, _, ip, port⟩ := release
  simp [releaseKey, AddrInfo.relayKey, addrKey, getDstIntIp, getDstPort, ip, port]

theorem installedBy_mem {key : List Char} (current : s.installedBy key = some lease) : (key, lease) ∈ s.installed := by
  unfold LeaseWorld.installedBy at current
  obtain ⟨i, found, same⟩ := Option.map_eq_some_iff.mp current
  have here := List.find?_some found
  rw [beq_iff_eq] at here
  rw [← here, ← same]
  exact List.mem_of_find?_eq_some found

theorem LeasesTracked.init : LeasesTracked .init where
  tracked := by
    intro lease member
    cases member
  released := by
    intro key peer found
    cases found
  owned := by
    intro i member
    cases member
  clients := by
    intro l member
    cases member
  relays := by
    intro l member
    cases member

theorem leaseStep_some (run : leaseStep cfg s ev = some (s', sends)) :
    deliver cfg s.world ev = some (s'.world, sends) := by
  unfold leaseStep at run
  split at run
  · cases run
  · rename_i world sent delivered
    split at run
    all_goals
      obtain ⟨state, same⟩ := Prod.mk.inj (Option.some.inj run)
      rw [delivered, ← state, same]

theorem installPermission_forgets_relay (st : State) (tid : List UInt8) (request : RequestInfo) :
    (installPermission st tid request).mapAllocInfo =
      Function.update st.mapAllocInfo request.client.key none := by
  unfold installPermission
  dsimp only
  split
  · rename_i missing
    have same : st.mapAllocInfo request.client.key = none := missing
    rw [← same, Function.update_eq_self]
  · rfl

theorem installPermission_localRemote_of_unrecorded {request : RequestInfo}
    (missing : st.mapAllocInfo request.client.key = none) :
    (installPermission st tid request).mapLocalRemote = st.mapLocalRemote := by
  have lookup : st.mapAllocInfo (addrKey request.srcip request.srcport) = none := missing
  simp only [installPermission, lookup]

theorem installPermission_localRemote_of_recorded {request : RequestInfo}
    (recorded : st.mapAllocInfo request.client.key = some relay) :
    (installPermission st tid request).mapLocalRemote =
      if (st.mapLocalRemote relay.relayKey).isSome then st.mapLocalRemote
      else Function.update st.mapLocalRemote relay.relayKey (some ⟨request.peerip, request.peerport⟩) := by
  have lookup : st.mapAllocInfo (addrKey request.srcip request.srcport) = some relay := recorded
  simp only [installPermission, lookup]
  rfl

theorem LeaseTracked.congr {st' : State} (tracked : LeaseTracked st installed lease)
    (recorded : st'.mapAllocInfo lease.1.key = st.mapAllocInfo lease.1.key)
    (remote : st'.mapLocalRemote lease.2.relayKey = st.mapLocalRemote lease.2.relayKey) :
    LeaseTracked st' installed lease where
  recorded := by
    rw [recorded]
    exact tracked.recorded
  before := by
    rw [recorded, remote]
    exact tracked.before
  after := by
    rw [remote]
    exact tracked.after

theorem leaseStep_request (s : LeaseWorld) {ip : UInt32} {request : Request}
    (asks : request ∈ Event.request cfg ⟨.outside ip port, buf, n⟩) :
    ∃ s' sends, leaseStep cfg s ⟨.outside ip port, buf, n⟩ = some (s', sends) ∧
      s'.leases = s.leases ∧ s'.installed = s.installed ∧ s'.world.asked = request :: s.world.asked ∧
      s'.world.proxy.mapLocalRemote = s.world.proxy.mapLocalRemote ∧
      s'.world.proxy.mapAllocInfo = s.world.proxy.mapAllocInfo := by
  have fromClient : port ≠ cfg.coturnPort := by
    intro same
    simp [Event.request, same] at asks
  obtain ⟨st, sent, outsideRun, _, remote, alloc, _⟩ :=
    packetCallbackAsync_outside s.world.proxy ip buf n fromClient
  have delivered : ∃ w, deliver cfg s.world ⟨.outside ip port, buf, n⟩ = some (w, sent) ∧ w.proxy = st := by
    simp only [deliver, Event.sourceIp, Event.sourcePort, outsideRun]
    exact ⟨_, rfl, rfl⟩
  obtain ⟨w, step, table⟩ := delivered
  refine ⟨⟨w, s.leases, s.installed⟩, sent, by simp only [leaseStep, step], rfl, rfl, ?_, ?_, ?_⟩
  · rw [deliver_asked step, request_eq_singleton asks, List.singleton_append]
  · rw [table, remote]
  · rw [table, alloc]

/-- Whatever leaves the allocations, their routes and both tables alone keeps them tracked. -/
theorem LeasesTracked.congr (inv : LeasesTracked s) (leases : s'.leases = s.leases)
    (installed : s'.installed = s.installed) (remote : s'.world.proxy.mapLocalRemote = s.world.proxy.mapLocalRemote)
    (alloc : s'.world.proxy.mapAllocInfo = s.world.proxy.mapAllocInfo) : LeasesTracked s' := by
  constructor
  · rw [leases, installed]
    intro lease member
    exact (inv.tracked lease member).congr (by rw [alloc]) (by rw [remote])
  · rw [leases, remote]
    exact inv.released
  · rw [leases, installed]
    exact inv.owned
  · rw [leases]
    exact inv.clients
  · rw [leases]
    exact inv.relays

theorem LeasesTracked.request {ip : UInt32} (inv : LeasesTracked s)
    (exchange : LeaseExchange cfg s ⟨.outside ip port, buf, n⟩)
    (run : leaseStep cfg s ⟨.outside ip port, buf, n⟩ = some (s', sends)) : LeasesTracked s' := by
  obtain ⟨request, asks, _⟩ := exchange
  obtain ⟨s₁, sent, step, leases, installed, _, remote, alloc⟩ := leaseStep_request s asks
  cases Option.some.inj (step.symm.trans run)
  exact inv.congr leases installed remote alloc

theorem deliver_allocation {w w' : World} (fromPort : ev.sourcePort cfg = cfg.coturnPort)
    (kind : frameKind ev.buf ev.len = .allocateSuccess) (run : deliver cfg w ev = some (w', sends)) :
    w.proxy.mapAllocInfo (mappedKey ev.buf ev.len) = none ∧ w'.proxy = recordAllocation w.proxy ev.buf ev.len := by
  obtain ⟨proxyRun, _, _⟩ := deliver_some run
  unfold packetCallbackAsync at proxyRun
  rw [if_pos fromPort, handlePacketFromCoturn_eq] at proxyRun
  simp only [kind] at proxyRun
  split at proxyRun
  · cases proxyRun
  · rename_i missing
    obtain ⟨state, -⟩ := Prod.mk.inj (Option.some.inj proxyRun)
    exact ⟨Option.not_isSome_iff_eq_none.mp missing, state.symm⟩

/-- A key that tells the members of a list apart still does so behind a new one, if it tells that one too. -/
theorem eq_of_key_cons {α κ : Type} {key : α → κ} {a : α} {l : List α}
    (old : ∀ x ∈ l, ∀ y ∈ l, key x = key y → x = y) (new : ∀ x ∈ l, key x = key a → x = a) :
    ∀ x ∈ a :: l, ∀ y ∈ a :: l, key x = key y → x = y := by
  intro x memberX y memberY same
  rcases List.mem_cons.mp memberX with hereX | oldX <;> rcases List.mem_cons.mp memberY with hereY | oldY
  · rw [hereX, hereY]
  · rw [hereX] at same ⊢
    exact (new y oldY same.symm).symm
  · rw [hereY] at same ⊢
    exact new x oldX same
  · exact old x oldX y oldY same

theorem LeasesTracked.record (inv : LeasesTracked s) (alloc : st.mapAllocInfo lease.1.key = some lease.2)
    (remote : st.mapLocalRemote = s.world.proxy.mapLocalRemote)
    (sameRelay : ∀ l ∈ s.leases, l.2.relayKey = lease.2.relayKey → l = lease) : LeaseTracked st s.installed lease := by
  constructor
  · intro relay found
    exact (Option.some.inj (alloc.symm.trans found)).symm
  · intro unpaired
    refine ⟨alloc, ?_⟩
    intro i member here
    rw [remote] at unpaired
    have held := inv.owned i member
    rw [here] at held
    exact ((inv.tracked _ held).before unpaired).2 i member here
  · intro peer paired
    rw [remote] at paired
    obtain ⟨l, member, key⟩ := inv.released _ peer paired
    rw [sameRelay l member key] at member
    exact (inv.tracked _ member).after peer paired

theorem LeasesTracked.allocate {request : Request} (inv : LeasesTracked s)
    (exchange : LeaseExchange cfg s ⟨.reply request, buf, n⟩) (single : SingleRoute s ⟨.reply request, buf, n⟩)
    (run : leaseStep cfg s ⟨.reply request, buf, n⟩ = some (s', sends)) : LeasesTracked s' := by
  have delivered := leaseStep_some run
  obtain ⟨kind, oneRelay⟩ := exchange
  obtain ⟨mapped, distinct⟩ := single
  obtain ⟨_, table⟩ := deliver_allocation rfl kind delivered
  dsimp only at oneRelay mapped distinct table
  have ghosts : s'.leases = (request.client, relayInfo buf n) :: s.leases ∧ s'.installed = s.installed := by
    simp only [leaseStep, delivered, Option.some.injEq, Prod.mk.injEq] at run
    rw [← run.1]
    exact ⟨rfl, rfl⟩
  obtain ⟨leases, installed⟩ := ghosts
  have alloc : s'.world.proxy.mapAllocInfo =
      Function.update s.world.proxy.mapAllocInfo request.client.key (some (relayInfo buf n)) := by
    rw [table, ← mapped]
    rfl
  have remote : s'.world.proxy.mapLocalRemote = s.world.proxy.mapLocalRemote := by
    rw [table]
    rfl
  have sameClient (l : Lease) (member : l ∈ s.leases) (key : l.1.key = request.client.key) :
      l = (request.client, relayInfo buf n) := by
    have client := (distinct l member).1 key
    exact Prod.ext client ((oneRelay l member).mp client)
  have sameRelay (l : Lease) (member : l ∈ s.leases) (key : l.2.relayKey = (relayInfo buf n).relayKey) :
      l = (request.client, relayInfo buf n) := by
    have relay := (distinct l member).2 key
    exact Prod.ext ((oneRelay l member).mpr relay) relay
  have new : LeaseTracked s'.world.proxy s.installed (request.client, relayInfo buf n) :=
    inv.record (by rw [alloc, Function.update_self]) remote sameRelay
  constructor
  · rw [leases, installed]
    intro lease member
    rcases List.mem_cons.mp member with here | old
    · rw [here]
      exact new
    · by_cases key : lease.1.key = request.client.key
      · rw [sameClient lease old key]
        exact new
      · exact (inv.tracked lease old).congr (by rw [alloc, Function.update_of_ne key]) (by rw [remote])
  · rw [leases, remote]
    intro key peer paired
    obtain ⟨l, member, same⟩ := inv.released key peer paired
    exact ⟨l, .tail _ member, same⟩
  · rw [leases, installed]
    intro i member
    exact .tail _ (inv.owned i member)
  · rw [leases]
    exact eq_of_key_cons inv.clients sameClient
  · rw [leases]
    exact eq_of_key_cons inv.relays sameRelay

theorem LeaseTracked.cons_other (tracked : LeaseTracked st installed lease) {i : List Char × Lease}
    (other : i.2 ≠ lease) :
    LeaseTracked st (i :: installed) lease where
  recorded := tracked.recorded
  before := by
    intro unpaired
    obtain ⟨found, none⟩ := tracked.before unpaired
    refine ⟨found, ?_⟩
    intro j member
    rcases List.mem_cons.mp member with here | old
    · rw [here]
      exact other
    · exact none j old
  after := by
    intro peer paired
    obtain ⟨first, all⟩ := tracked.after peer paired
    refine ⟨.tail _ first, ?_⟩
    intro j member same
    rcases List.mem_cons.mp member with here | old
    · rw [here] at same
      exact absurd same other
    · exact all j old same

theorem LeaseTracked.install_other (tracked : LeaseTracked st installed lease) (tid : List UInt8)
    (client : pending.client = lease.1) {key : List Char} (differ : key ≠ lease.2.relayKey) :
    (installPermission st tid pending).mapLocalRemote key = st.mapLocalRemote key := by
  cases found : st.mapAllocInfo pending.client.key with
  | none => rw [installPermission_localRemote_of_unrecorded tid found]
  | some relay =>
    have own : relay = lease.2 := by
      rw [client] at found
      exact tracked.recorded relay found
    rw [installPermission_localRemote_of_recorded tid found, own]
    split
    · rfl
    · rw [Function.update_of_ne differ]

theorem LeaseTracked.install_paired (tracked : LeaseTracked st installed lease) (tid : List UInt8)
    (client : pending.client = lease.1) (one : ∀ i ∈ installed, i.2 = lease → i.1 = pending.routeKey) :
    ∃ peer, (installPermission st tid pending).mapLocalRemote lease.2.relayKey = some peer ∧
      addrKey peer.ip peer.port = pending.routeKey := by
  cases paired : st.mapLocalRemote lease.2.relayKey with
  | none =>
    obtain ⟨recorded, _⟩ := tracked.before paired
    rw [← client] at recorded
    refine ⟨⟨pending.peerip, pending.peerport⟩, ?_, rfl⟩
    rw [installPermission_localRemote_of_recorded tid recorded]
    simp [paired]
  | some peer =>
    have same : addrKey peer.ip peer.port = pending.routeKey := one _ (tracked.after peer paired).1 rfl
    refine ⟨peer, ?_, same⟩
    cases found : st.mapAllocInfo pending.client.key with
    | none => rw [installPermission_localRemote_of_unrecorded tid found, paired]
    | some relay =>
      have own : relay = lease.2 := by
        rw [client] at found
        exact tracked.recorded relay found
      rw [installPermission_localRemote_of_recorded tid found, own, paired]
      simp [paired]

theorem LeaseTracked.install (tracked : LeaseTracked st installed lease) (tid : List UInt8)
    (client : pending.client = lease.1) (one : ∀ i ∈ installed, i.2 = lease → i.1 = pending.routeKey) :
    LeaseTracked (installPermission st tid pending) ((pending.routeKey, lease) :: installed) lease := by
  obtain ⟨partner, paired, key⟩ := tracked.install_paired tid client one
  constructor
  · intro relay found
    rw [installPermission_forgets_relay, client, Function.update_self] at found
    cases found
  · intro unpaired
    cases paired.symm.trans unpaired
  · intro peer found
    cases Option.some.inj (paired.symm.trans found)
    rw [key]
    refine ⟨.head _, ?_⟩
    intro i member same
    rcases List.mem_cons.mp member with here | old
    · rw [here]
    · exact one i old same

theorem leaseStep_grant {cfg : Config} (s : LeaseWorld) (request : Request) {buf : Memory} {n : Nat}
    (kind : frameKind buf n = .permissionSuccess) :
    ∃ s' sends, leaseStep cfg s ⟨.grant request, buf, n⟩ = some (s', sends) ∧
      s'.leases = s.leases ∧ s'.installed = s.installs request buf ++ s.installed ∧
      s'.world.proxy = settlePermission s.world.proxy (frameTid buf) := by
  have delivered : ∃ w, deliver cfg s.world ⟨.grant request, buf, n⟩ = some (w, [sendToEchoed cfg buf n]) ∧
      w.proxy = settlePermission s.world.proxy (frameTid buf) := by
    simp only [deliver, Event.sourceIp, Event.sourcePort, packetCallbackAsync, if_true,
      handlePacketFromCoturn_eq, kind]
    exact ⟨_, rfl, rfl⟩
  obtain ⟨w, step, table⟩ := delivered
  exact ⟨⟨w, s.leases, s.installs request buf ++ s.installed⟩, [sendToEchoed cfg buf n],
    by simp only [leaseStep, step], rfl, rfl, table⟩

theorem LeasesTracked.install (inv : LeasesTracked s) (held : lease ∈ s.leases) {tid : List UInt8}
    (own : pending.client = lease.1) (one : ∀ i ∈ s.installed, i.2 = lease → i.1 = pending.routeKey)
    (leases : s'.leases = s.leases) (installed : s'.installed = (pending.routeKey, lease) :: s.installed)
    (table : s'.world.proxy = installPermission s.world.proxy tid pending) : LeasesTracked s' := by
  have tracked := inv.tracked lease held
  constructor
  · rw [leases, installed, table]
    intro l member
    by_cases here : l = lease
    · rw [here]
      exact tracked.install _ own one
    · have otherClient : l.1.key ≠ pending.client.key := by
        rw [own]
        exact fun key => here (inv.clients l member lease held key)
      have otherRelay : l.2.relayKey ≠ lease.2.relayKey :=
        fun key => here (inv.relays l member lease held key)
      refine ((inv.tracked l member).congr ?_ ?_).cons_other (Ne.symm here)
      · rw [installPermission_forgets_relay, Function.update_of_ne otherClient]
      · exact tracked.install_other _ own otherRelay
  · rw [leases, table]
    intro key peer paired
    by_cases here : key = lease.2.relayKey
    · exact ⟨lease, held, here.symm⟩
    · rw [tracked.install_other _ own here] at paired
      exact inv.released key peer paired
  · rw [leases, installed]
    intro i member
    rcases List.mem_cons.mp member with new | old
    · rw [new]
      exact held
    · exact inv.owned i old
  · rw [leases]
    exact inv.clients
  · rw [leases]
    exact inv.relays

theorem LeasesTracked.grant {request : Request} (inv : LeasesTracked s)
    (genuine : Genuine cfg s.world ⟨.grant request, buf, n⟩) (exchange : LeaseExchange cfg s ⟨.grant request, buf, n⟩)
    (single : SingleRoute s ⟨.grant request, buf, n⟩)
    (run : leaseStep cfg s ⟨.grant request, buf, n⟩ = some (s', sends)) : LeasesTracked s' := by
  obtain ⟨s₁, sent, step, leases, installed, settled⟩ := @leaseStep_grant cfg s request buf n genuine.2.2
  cases Option.some.inj (step.symm.trans run)
  cases found : s.world.proxy.mapRequests (frameTid buf) with
  | none =>
    have table : s'.world.proxy = s.world.proxy := by
      rw [settled, settlePermission_of_unknown (by simp [found])]
    have nothing : s.installs request buf = [] := by simp [LeaseWorld.installs, found]
    rw [nothing, List.nil_append] at installed
    exact inv.congr leases installed (by rw [table]) (by rw [table])
  | some pending =>
    obtain ⟨client, onePeer⟩ := single pending found
    obtain ⟨lease, located⟩ : ∃ lease, s.leases.find? (fun l => l.1 == request.client) = some lease := by
      obtain ⟨l, member, holder⟩ := exchange
      rw [← Option.isSome_iff_exists, List.find?_isSome]
      exact ⟨l, member, by simp [holder]⟩
    have holder : lease.1 = request.client := by simpa using List.find?_some located
    have added : s.installs request buf = [(pending.routeKey, lease)] := by
      simp [LeaseWorld.installs, found, located]
    rw [added, List.singleton_append] at installed
    have table : s'.world.proxy = installPermission s.world.proxy (frameTid buf) pending := by
      rw [settled]
      simp only [settlePermission, found]
    refine inv.install (List.mem_of_find?_eq_some located) (client.trans holder.symm) ?_ leases installed table
    intro i member same
    exact onePeer i member (by rw [same, holder])

theorem leaseStep_release {cfg : Config} (s : LeaseWorld) {buf : Memory} {n : Nat}
    (kind : frameKind buf n = .release) :
    ∃ s' sends, leaseStep cfg s ⟨.notice, buf, n⟩ = some (s', sends) ∧
      s'.leases = s.leases.filter (fun l => l.2.relayKey != releaseKey buf) ∧
      s'.installed = s.installed.filter (fun i => i.2.2.relayKey != releaseKey buf) ∧
      s'.world.proxy = releaseRelay s.world.proxy (read buf) := by
  have delivered : ∃ w, deliver cfg s.world ⟨.notice, buf, n⟩ = some (w, []) ∧
      w.proxy = releaseRelay s.world.proxy (read buf) := by
    simp only [deliver, Event.sourceIp, Event.sourcePort, packetCallbackAsync, if_true,
      handlePacketFromCoturn_eq, kind]
    exact ⟨_, rfl, rfl⟩
  obtain ⟨w, step, table⟩ := delivered
  exact ⟨⟨w, s.leases.filter (fun l => l.2.relayKey != releaseKey buf),
    s.installed.filter (fun i => i.2.2.relayKey != releaseKey buf)⟩, [],
    by simp only [leaseStep, step], rfl, rfl, table⟩

theorem releaseRelay_localRemote (st : State) (buf : Memory) :
    (releaseRelay st (read buf)).mapLocalRemote = Function.update st.mapLocalRemote (releaseKey buf) none := by
  cases found : st.mapLocalRemote (releaseKey buf) with
  | none =>
    rw [releaseRelay_of_unknown (by simp [found]), ← found, Function.update_eq_self]
  | some peer =>
    unfold releaseKey at found ⊢
    simp only [releaseRelay, found]

theorem releaseRelay_allocInfo (st : State) (header : StunCustomHeader) :
    (releaseRelay st header).mapAllocInfo = st.mapAllocInfo := by
  unfold releaseRelay
  dsimp only
  split <;> rfl

theorem releaseRelay_unroutes (paired : st.mapLocalRemote (releaseKey buf) = some peer) :
    (releaseRelay st (read buf)).mapPeerInfo (addrKey peer.ip peer.port) = none := by
  unfold releaseKey at paired
  simp only [releaseRelay, paired, Function.update_self]

theorem releaseRelay_keeps (paired : st.mapLocalRemote (releaseKey buf) = some peer) {key : List Char}
    (other : key ≠ addrKey peer.ip peer.port) : (releaseRelay st (read buf)).mapPeerInfo key = st.mapPeerInfo key := by
  unfold releaseKey at paired
  simp only [releaseRelay, paired, Function.update_of_ne other]

theorem LeaseTracked.filter (tracked : LeaseTracked st installed lease) {key : List Char}
    (stays : lease.2.relayKey ≠ key) :
    LeaseTracked st (installed.filter (fun i => i.2.2.relayKey != key)) lease where
  recorded := tracked.recorded
  before := by
    intro unpaired
    obtain ⟨found, none⟩ := tracked.before unpaired
    exact ⟨found, fun i member => none i (List.mem_filter.mp member).1⟩
  after := by
    intro peer paired
    obtain ⟨first, all⟩ := tracked.after peer paired
    refine ⟨List.mem_filter.mpr ⟨first, by simp [stays]⟩, ?_⟩
    exact fun i member => all i (List.mem_filter.mp member).1

theorem LeasesTracked.release (inv : LeasesTracked s) (exchange : LeaseExchange cfg s ⟨.notice, buf, n⟩)
    (run : leaseStep cfg s ⟨.notice, buf, n⟩ = some (s', sends)) : LeasesTracked s' := by
  obtain ⟨_, _, _, kind, _⟩ := exchange
  obtain ⟨s₁, sent, step, leases, installed, table⟩ := @leaseStep_release cfg s buf n kind
  cases Option.some.inj (step.symm.trans run)
  have remains (l : Lease) (member : l ∈ s'.leases) : l ∈ s.leases ∧ l.2.relayKey ≠ releaseKey buf := by
    rw [leases] at member
    simpa using List.mem_filter.mp member
  constructor
  · intro lease member
    obtain ⟨old, stays⟩ := remains lease member
    rw [installed, table]
    refine ((inv.tracked lease old).congr ?_ ?_).filter stays
    · rw [releaseRelay_allocInfo]
    · rw [releaseRelay_localRemote, Function.update_of_ne stays]
  · rw [leases, table, releaseRelay_localRemote]
    intro key peer paired
    by_cases here : key = releaseKey buf
    · rw [here, Function.update_self] at paired
      cases paired
    · rw [Function.update_of_ne here] at paired
      obtain ⟨l, member, same⟩ := inv.released key peer paired
      exact ⟨l, List.mem_filter.mpr ⟨member, by simp [same, here]⟩, same⟩
  · rw [leases, installed]
    intro i member
    obtain ⟨old, stays⟩ := List.mem_filter.mp member
    exact List.mem_filter.mpr ⟨inv.owned i old, stays⟩
  · intro l member l' member' key
    exact inv.clients l (remains l member).1 l' (remains l' member').1 key
  · intro l member l' member' key
    exact inv.relays l (remains l member).1 l' (remains l' member').1 key

theorem leases_tracked (reach : (leaseMachine cfg).Reach SingleRoute s) : LeasesTracked s := by
  refine Machine.Reach.invariant (P := LeasesTracked) ?_ ?_ reach
  · rintro s rfl
    exact .init
  · intro s s' ev sends inv enabled single run
    obtain ⟨genuine, exchange⟩ := enabled
    obtain ⟨origin, buf, n⟩ := ev
    cases origin with
    | outside ip port => exact inv.request exchange run
    | grant request => exact inv.grant genuine exchange single run
    | reply request => exact inv.allocate exchange single run
    | data client peer => exact exchange.elim
    | notice => exact inv.release exchange run

/-- No route that was installed on the allocation is left, nor the pairing of its relay. -/
def ReleaseComplete (s s' : LeaseWorld) (lease : Lease) : Prop :=
  (∀ key, s.installedBy key = some lease → s'.world.proxy.mapPeerInfo key = none) ∧
    s'.world.proxy.mapLocalRemote lease.2.relayKey = none

/-- In every run whose allocations keep to one peer each, the release of a relay
removes every route installed on it. -/
theorem release_removes_routes {cfg : Config} {s s' : LeaseWorld} {ev : Event} {sends : List Send}
    {lease : Lease} (reach : (leaseMachine cfg).Reach SingleRoute s) (held : lease ∈ s.leases)
    (release : Releases lease.2 ev) (run : (leaseMachine cfg).next s ev = some (s', sends)) :
    ReleaseComplete s s' lease := by
  have tracked := (leases_tracked reach).tracked lease held
  have named := releaseKey_of_releases release
  have table : s'.world.proxy = releaseRelay s.world.proxy (read ev.buf) := by
    obtain ⟨origin, buf, n⟩ := ev
    obtain ⟨notice, kind, _⟩ := release
    cases notice
    obtain ⟨s₁, sent, step, _, _, table⟩ := @leaseStep_release cfg s buf n kind
    cases Option.some.inj (step.symm.trans run)
    exact table
  constructor
  · intro key current
    have member := installedBy_mem current
    cases paired : s.world.proxy.mapLocalRemote lease.2.relayKey with
    | none => exact absurd rfl ((tracked.before paired).2 _ member)
    | some peer =>
      have same : key = addrKey peer.ip peer.port := (tracked.after peer paired).2 _ member rfl
      rw [table, same]
      rw [← named] at paired
      exact releaseRelay_unroutes paired
  · rw [table, releaseRelay_localRemote, named, Function.update_self]

/-- The relay 10.0.0.1:49152 of the example client. -/
def exampleLease : Lease := (exampleClient, ⟨0x0100000A, nswap16 49152⟩)

def releaseNotice : List UInt8 :=
  (StunCustomHeader.mk customReleaseIdentifier 0 0 exampleLease.2.ip exampleLease.2.port).bytes

def relayReleased : Event := ⟨.notice, .ofList releaseNotice, releaseNotice.length⟩

theorem release_removes_routes_single :
    ∃ s s' sends, (leaseMachine exampleConfig).Reach SingleRoute s ∧ exampleLease ∈ s.leases ∧
      s.installedBy (peerKey sharedPeer) = some exampleLease ∧
      (leaseMachine exampleConfig).next s relayReleased = some (s', sends) ∧
      ReleaseComplete s s' exampleLease := by
  obtain ⟨s, reach, passed⟩ : ∃ s, (leaseMachine exampleConfig).Reach SingleRoute s ∧
      (decide (exampleLease ∈ s.leases) &&
        (decide (s.installedBy (peerKey sharedPeer) = some exampleLease) &&
          (leaseStep exampleConfig s relayReleased).isSome)) = true :=
    Machine.Reach.exists_of_replay LeaseWorld.init
      [allocateAsked, allocateAnswered, permissionAsked exampleClient, permissionGranted exampleClient] rfl
      (by decide)
  simp only [Bool.and_eq_true, decide_eq_true_eq, Option.isSome_iff_exists] at passed
  obtain ⟨held, current, ⟨s', sends⟩, run⟩ := passed
  have release : Releases exampleLease.2 relayReleased := by decide
  have step : (leaseMachine exampleConfig).next s relayReleased = some (s', sends) := run
  exact ⟨s, s', sends, reach, held, current, step, release_removes_routes reach held release step⟩

/-- A CreatePermission request for the second peer alone. -/
def laterRequest : List UInt8 :=
  [0x00, 0x08, 0x00, 0x0C, 0x21, 0x12, 0xA4, 0x42] ++ exampleTid ++
    [0x00, 0x12, 0x00, 0x08, 0x00, 0x01, 0x2E, 0xB2, 0x2B, 0x12, 0xA4, 0x4A]

def laterAsked : Event :=
  ⟨.outside exampleClient.ip exampleClient.port, .ofList laterRequest, laterRequest.length⟩

def laterGranted : Event :=
  ⟨.grant ⟨exampleClient, exampleTid, stunMethodCreatePermission, [secondPeer]⟩,
    .ofList (permissionAnswer exampleClient), (permissionAnswer exampleClient).length⟩

def laterPermission : Request := ⟨exampleClient, exampleTid, stunMethodCreatePermission, [secondPeer]⟩

/-- From an allocation that is paired with the shared peer, a permission for the second peer
leads to a state where its route is installed and the pairing is as it was. -/
theorem reach_second_route (reach : (leaseMachine exampleConfig).Reach (fun _ _ => True) s)
    (located : s.leases.find? (fun l => l.1 == exampleClient) = some exampleLease)
    (unrecorded : s.world.proxy.mapAllocInfo exampleClient.key = none) :
    ∃ s', (leaseMachine exampleConfig).Reach (fun _ _ => True) s' ∧ exampleLease ∈ s'.leases ∧
      s'.installedBy (peerKey secondPeer) = some exampleLease ∧
      (s'.world.proxy.mapPeerInfo (peerKey secondPeer)).isSome ∧
      s'.world.proxy.mapLocalRemote = s.world.proxy.mapLocalRemote := by
  have held := List.mem_of_find?_eq_some located
  have asks : laterPermission ∈ Event.request exampleConfig laterAsked := by decide
  obtain ⟨s₁, sent₁, step₁, leases₁, _, asked, remote₁, alloc₁⟩ := leaseStep_request s asks
  have genuine₁ : Genuine exampleConfig s.world laterAsked := by
    change ¬ (exampleClient.ip = exampleConfig.coturnIp ∧ exampleClient.port = exampleConfig.coturnPort)
    decide
  have reach₁ : (leaseMachine exampleConfig).Reach (fun _ _ => True) s₁ :=
    .next reach ⟨genuine₁, laterPermission, asks, .inr rfl⟩ trivial step₁
  have requests := (deliver_request asks (leaseStep_some step₁)).2
  rw [if_pos (show laterPermission.method = stunMethodCreatePermission from rfl)] at requests
  have kind : frameKind laterGranted.buf laterGranted.len = .permissionSuccess := by decide
  have tid : frameTid laterGranted.buf = laterPermission.tid := by decide
  obtain ⟨s₂, sent₂, step₂, leases₂, installed₂, settled⟩ :=
    @leaseStep_grant exampleConfig s₁ laterPermission _ _ kind
  have genuine₂ : Genuine exampleConfig s₁.world laterGranted := by
    refine ⟨?_, by decide, kind⟩
    rw [asked]
    exact .head _
  have reach₂ : (leaseMachine exampleConfig).Reach (fun _ _ => True) s₂ :=
    .next reach₁ ⟨genuine₂, exampleLease, by rw [leases₁]; exact held, rfl⟩ trivial step₂
  obtain ⟨pending, found, client, key⟩ : ∃ pending,
      s₁.world.proxy.mapRequests (frameTid laterGranted.buf) = some pending ∧
        pending.client = exampleClient ∧ pending.routeKey = peerKey secondPeer := by
    rw [tid, requests, Function.update_self]
    exact ⟨_, rfl, rfl, by decide⟩
  refine ⟨s₂, reach₂, by rw [leases₂, leases₁]; exact held, ?_, ?_, ?_⟩
  · have added : s₁.installs laterPermission laterGranted.buf = [(peerKey secondPeer, exampleLease)] := by
      have holder : s₁.leases.find? (fun l => l.1 == laterPermission.client) = some exampleLease := by
        rw [leases₁]
        exact located
      simp only [LeaseWorld.installs, found, holder, key]
    rw [LeaseWorld.installedBy, installed₂, added]
    simp
  · rw [settled, ← key]
    exact settlePermission_routes found
  · have missing : s₁.world.proxy.mapAllocInfo pending.client.key = none := by
      rw [client, alloc₁, unrecorded]
    rw [settled, settlePermission, found, ← remote₁]
    exact installPermission_localRemote_of_unrecorded _ missing

/-- The route of the second permission on an allocation outlives its release. -/
theorem second_route_outlives_release :
    ¬ ∀ (cfg : Config) (s s' : LeaseWorld) (ev : Event) (sends : List Send) (lease : Lease),
      (leaseMachine cfg).Reach (fun _ _ => True) s → lease ∈ s.leases → Releases lease.2 ev →
      (leaseMachine cfg).next s ev = some (s', sends) → ReleaseComplete s s' lease := by
  intro claimed
  obtain ⟨s, reach, passed⟩ : ∃ s, (leaseMachine exampleConfig).Reach (fun _ _ => True) s ∧
      (decide (s.leases.find? (fun l => l.1 == exampleClient) = some exampleLease) &&
        (decide (s.world.proxy.mapAllocInfo exampleClient.key = none) &&
          decide (s.world.proxy.mapLocalRemote (releaseKey relayReleased.buf) =
            some ⟨sharedPeer.ip4, sharedPeer.port⟩))) = true :=
    Machine.Reach.exists_of_replay LeaseWorld.init
      [allocateAsked, allocateAnswered, permissionAsked exampleClient, permissionGranted exampleClient] rfl
      (by decide)
  simp only [Bool.and_eq_true, decide_eq_true_eq] at passed
  obtain ⟨located, unrecorded, paired⟩ := passed
  obtain ⟨s₁, reach₁, held, current, routed, remote⟩ := reach_second_route reach located unrecorded
  have release : Releases exampleLease.2 relayReleased := by decide
  obtain ⟨s₂, sent, step, _, _, table⟩ := @leaseStep_release exampleConfig s₁ _ _ release.2.1
  have complete := claimed exampleConfig s₁ s₂ relayReleased sent exampleLease reach₁ held release step
  have gone := complete.1 _ current
  rw [← remote] at paired
  have other : peerKey secondPeer ≠ addrKey sharedPeer.ip4 sharedPeer.port := by decide
  rw [table, releaseRelay_keeps paired other] at gone
  rw [gone] at routed
  cases routed

end Proxy
end TurnCluster
