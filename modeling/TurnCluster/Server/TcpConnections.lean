import TurnCluster.Lib.Loop
import TurnCluster.Lib.Run
import TurnCluster.Stun.Addr

namespace TurnCluster
namespace Tcp

/-- A `tcp_connection`, as far as the tables of connections use it. -/
structure Connection where
  /-- The allocation. -/
  owner : Nat
  id : UInt32
  peerAddr : IoaAddr
  /-- It was handed out by `get_and_clean_tcp_connection_by_id`; no code reads this. -/
  bound : Bool
  deriving DecidableEq

/-- The connections in memory, the map of the server by id and the list of each allocation. Connections and
allocations are known by their addresses. -/
structure Tables where
  conns : Nat → Option Connection
  tcpConnections : UInt32 → Option Nat
  tcs : Nat → List (Option Nat)

/-- What a call returns: a connection or none, and `err_code`. -/
structure Answer where
  tc : Option Nat
  errCode : Nat
  deriving DecidableEq

section NewId

/-- `newid`, and the random numbers used so far. -/
structure IdLoop where
  newid : UInt32
  drawn : Nat

def tcIdMask : UInt32 := 0x00FFFFFF

/-- A round of the inner loop of `set_new_tc_id`. -/
def idRound (serverId : UInt8) (random : Nat → UInt32) (l : IdLoop) : IdLoop :=
  let newid := random l.drawn
  if newid = 0 then ⟨0, l.drawn + 1⟩
  else if newid &&& tcIdMask = 0 then ⟨0, l.drawn + 1⟩
  else ⟨newid &&& tcIdMask ||| serverId.toUInt32 <<< 24, l.drawn + 1⟩

/-- The loops of `set_new_tc_id`; here `newid` is set to zero in every round of the outer one. -/
def newTcId (serverId : UInt8) (random : Nat → UInt32) (present : UInt32 → Bool) (fuel : Nat) : Option UInt32 :=
  (doWhile (fun l => whileLoop (fun l => l.newid == 0) (idRound serverId random) fuel { l with newid := 0 })
    (fun l => present l.newid) fuel ⟨0, 0⟩).map IdLoop.newid

theorem newTcId_fresh {serverId : UInt8} {random : Nat → UInt32} {present : UInt32 → Bool} {fuel : Nat} {id : UInt32}
    (returned : newTcId serverId random present fuel = some id) : present id = false := by
  obtain ⟨l, ran, rfl⟩ := Option.map_eq_some_iff.mp returned
  have stop := doWhile_stops ran
  exact stop

end NewId

/-- The first empty element takes the connection, or a new one behind the others. -/
def addElem (tc : Nat) : List (Option Nat) → List (Option Nat)
  | [] => [some tc]
  | none :: rest => some tc :: rest
  | some other :: rest => some other :: addElem tc rest

/-- The first element that is the connection is emptied. -/
def clearElem (tc : Nat) : List (Option Nat) → List (Option Nat)
  | [] => []
  | elem :: rest => if elem = some tc then none :: rest else elem :: clearElem tc rest

namespace Tables

/-- Before any connection is made. -/
def empty : Tables := ⟨fun _ => none, fun _ => none, fun _ => []⟩

/-- An element of a list is a connection with the peer. -/
def hasPeer (t : Tables) (peerAddr : IoaAddr) : Option Nat → Bool
  | none => false
  | some otc =>
    match t.conns otc with
    | none => false
    | some c => addrEq c.peerAddr peerAddr

/-- The new connection stands in memory, in the map and in the list of its allocation. -/
def enter (t : Tables) (a tc : Nat) (id : UInt32) (peerAddr : IoaAddr) : Tables where
  conns := Function.update t.conns tc (some ⟨a, id, peerAddr, false⟩)
  tcpConnections := Function.update t.tcpConnections id (some tc)
  tcs := Function.update t.tcs a (addElem tc (t.tcs a))

/-- `create_tcp_connection` with memory at `tc`; no result if no free id is drawn. -/
def createTcpConnection (t : Tables) (serverId : UInt8) (a tc : Nat) (peerAddr : IoaAddr) (random : Nat → UInt32)
    (fuel : Nat) : Option (Tables × Answer) :=
  if (t.tcs a).any (t.hasPeer peerAddr) = true then some (t, ⟨none, 446⟩)
  else
    match newTcId serverId random (fun id => (t.tcpConnections id).isSome) fuel with
    | none => none
    | some id => some (t.enter a tc id peerAddr, ⟨some tc, 0⟩)

/-- `delete_tcp_connection` removes whatever the map has under the id of the connection. -/
def deleteTcpConnection (t : Tables) (tc : Nat) : Tables :=
  match t.conns tc with
  | none => t
  | some c =>
    { conns := Function.update t.conns tc none
      tcpConnections := Function.update t.tcpConnections c.id none
      tcs := Function.update t.tcs c.owner (clearElem tc (t.tcs c.owner)) }

def getTcpConnectionById (t : Tables) (id : UInt32) : Option Nat := t.tcpConnections id

def getAndCleanTcpConnectionById (t : Tables) (id : UInt32) : Tables × Answer :=
  match t.tcpConnections id with
  | none => (t, ⟨none, 0⟩)
  | some tc =>
    ({ t with
        conns := Function.update t.conns tc ((t.conns tc).map (fun c => { c with bound := true }))
        tcpConnections := Function.update t.tcpConnections id none },
      ⟨some tc, 0⟩)

/-- An allocation has at most one connection to a peer. -/
def OnePerPeer (t : Tables) : Prop :=
  ∀ ⦃tc tc' c c'⦄, t.conns tc = some c → t.conns tc' = some c' → c.owner = c'.owner →
    addrEq c.peerAddr c'.peerAddr = true → tc = tc'

/-- A connection that was not bound is found under its id. -/
def Findable (t : Tables) : Prop :=
  ∀ ⦃tc c⦄, t.conns tc = some c → c.bound = false → t.getTcpConnectionById c.id = some tc

end Tables

inductive Call
  | create (a tc : Nat) (peerAddr : IoaAddr) (random : Nat → UInt32) (fuel : Nat)
  | bind (id : UInt32)
  | delete (tc : Nat)

/-- The calls on the connections of one server. A new connection gets free memory, and only one that exists is deleted. -/
def machine (serverId : UInt8) : Machine Tables Call Answer where
  init t := t = .empty
  enabled t
    | .create _ tc _ _ _ => t.conns tc = none
    | .bind _ => True
    | .delete tc => (t.conns tc).isSome = true
  next t
    | .create a tc peerAddr random fuel => t.createTcpConnection serverId a tc peerAddr random fuel
    | .bind id => some (t.getAndCleanTcpConnectionById id)
    | .delete tc => some (t.deleteTcpConnection tc, ⟨none, 0⟩)

/-- The id of a connection that is deleted is not the id of another one in the map. -/
def DeletesOwnEntry (t : Tables) : Call → Prop
  | .delete tc => ∀ c ∈ t.conns tc, ∀ other ∈ t.tcpConnections c.id, other = tc
  | _ => True

instance (serverId : UInt8) (t : Tables) : (e : Call) → Decidable ((machine serverId).enabled t e)
  | .create _ tc _ _ _ => inferInstanceAs (Decidable (t.conns tc = none))
  | .bind _ => inferInstanceAs (Decidable True)
  | .delete tc => inferInstanceAs (Decidable ((t.conns tc).isSome = true))

instance (t : Tables) : (e : Call) → Decidable (DeletesOwnEntry t e)
  | .create _ _ _ _ _ => inferInstanceAs (Decidable True)
  | .bind _ => inferInstanceAs (Decidable True)
  | .delete tc => inferInstanceAs (Decidable (∀ c ∈ t.conns tc, ∀ other ∈ t.tcpConnections c.id, other = tc))

section Lists

variable {tc other : Nat} {elems : List (Option Nat)}

theorem count_addElem :
    (addElem tc elems).count (some other) = elems.count (some other) + if tc = other then 1 else 0 := by
  induction elems with
  | nil => by_cases same : tc = other <;> simp [addElem, same]
  | cons elem rest ih =>
    cases elem with
    | none => by_cases same : tc = other <;> simp [addElem, same]
    | some first =>
      simp only [addElem, List.count_cons, ih]
      omega

theorem count_clearElem :
    (clearElem tc elems).count (some other) = elems.count (some other) - if tc = other then 1 else 0 := by
  induction elems with
  | nil => simp [clearElem]
  | cons elem rest ih =>
    unfold clearElem
    split
    · rename_i here
      by_cases same : tc = other <;> simp [here, same]
    · rename_i differs
      by_cases same : tc = other
      · subst same
        simpa [differs] using ih
      · simpa [List.count_cons, same] using ih

end Lists

/-- What holds whatever is deleted: the lists hold each connection of their allocation once, and an entry of the map is
a connection with that id that is not bound. -/
structure Tables.Sound (t : Tables) : Prop where
  listed : ∀ a tc, (t.tcs a).count (some tc) = if (t.conns tc).map Connection.owner = some a then 1 else 0
  entry : ∀ {id tc}, t.tcpConnections id = some tc → ∃ c, t.conns tc = some c ∧ c.id = id ∧ c.bound = false
  single : t.OnePerPeer

namespace Tables

variable {t : Tables} {serverId : UInt8} {a tc : Nat} {id : UInt32} {peerAddr : IoaAddr} {c : Connection}

theorem mem_tcs_iff (sound : t.Sound) : some tc ∈ t.tcs a ↔ ∃ c, t.conns tc = some c ∧ c.owner = a := by
  rw [← List.count_pos_iff, sound.listed, ← Option.map_eq_some_iff]
  split <;> simp_all

theorem Sound.entry_other (sound : t.Sound) (there : t.conns tc = some c) {other : Nat} (differs : id ≠ c.id)
    (entry : t.tcpConnections id = some other) :
    other ≠ tc ∧ ∃ c', t.conns other = some c' ∧ c'.id = id ∧ c'.bound = false := by
  obtain ⟨c', there', equal, unbound⟩ := sound.entry entry
  refine ⟨?_, c', there', equal, unbound⟩
  rintro rfl
  rw [there] at there'
  cases there'
  exact differs equal.symm

/-- A connection is refused, or it gets an id that the map does not have and a peer that the allocation does not have. -/
theorem createTcpConnection_cases {random : Nat → UInt32} {fuel : Nat} {t' : Tables} {o : Answer}
    (run : t.createTcpConnection serverId a tc peerAddr random fuel = some (t', o)) :
    t' = t ∨ ∃ id, t' = t.enter a tc id peerAddr ∧ t.tcpConnections id = none ∧
      ∀ otc c, some otc ∈ t.tcs a → t.conns otc = some c → addrEq c.peerAddr peerAddr = false := by
  unfold createTcpConnection at run
  split at run
  · cases run
    exact Or.inl rfl
  · rename_i other
    split at run
    · cases run
    · rename_i id drawn
      cases run
      refine Or.inr ⟨id, rfl, ?_, ?_⟩
      · have fresh := newTcId_fresh drawn
        exact Option.not_isSome_iff_eq_none.mp (Bool.eq_false_iff.mp fresh)
      · intro otc c member there
        refine Bool.eq_false_iff.mpr fun equal => other (List.any_eq_true.mpr ⟨_, member, ?_⟩)
        simp only [hasPeer, there, equal]

variable {otc : Nat} {c' : Connection}

theorem enter_conns (there : (t.enter a tc id peerAddr).conns otc = some c') :
    otc = tc ∧ c' = ⟨a, id, peerAddr, false⟩ ∨ otc ≠ tc ∧ t.conns otc = some c' := by
  by_cases same : otc = tc
  · subst same
    simp only [enter, Function.update_self, Option.some.injEq] at there
    exact Or.inl ⟨rfl, there.symm⟩
  · simp only [enter, Function.update_of_ne same] at there
    exact Or.inr ⟨same, there⟩

theorem Sound.enter (sound : t.Sound) (free : t.conns tc = none)
    (other : ∀ otc c, some otc ∈ t.tcs a → t.conns otc = some c → addrEq c.peerAddr peerAddr = false) :
    (t.enter a tc id peerAddr).Sound where
  listed a' tc' := by
    have before := sound.listed a' tc'
    by_cases same : tc = tc'
    · subst same
      rw [free] at before
      by_cases here : a' = a
      · subst here
        simp [Tables.enter, count_addElem, before]
      · simp [Tables.enter, Function.update_of_ne here, before, Ne.symm here]
    · by_cases here : a' = a
      · subst here
        simp [Tables.enter, count_addElem, before, same, Function.update_of_ne (Ne.symm same)]
      · simp [Tables.enter, Function.update_of_ne here, before, Function.update_of_ne (Ne.symm same)]
  entry {id' tc'} found := by
    by_cases same : id' = id
    · subst same
      simp only [Tables.enter, Function.update_self, Option.some.injEq] at found
      subst found
      exact ⟨_, Function.update_self .., rfl, rfl⟩
    · simp only [Tables.enter, Function.update_of_ne same] at found
      obtain ⟨c, there, equal, unbound⟩ := sound.entry found
      have apart : tc' ≠ tc := fun same => by simp [same, free] at there
      exact ⟨c, (Function.update_of_ne apart ..).trans there, equal, unbound⟩
  single tc₁ tc₂ c₁ c₂ first second owner equal := by
    rcases enter_conns first with ⟨rfl, rfl⟩ | ⟨_, old₁⟩
    · rcases enter_conns second with ⟨rfl, rfl⟩ | ⟨_, old₂⟩
      · rfl
      · have differs := other _ _ ((mem_tcs_iff sound).mpr ⟨_, old₂, owner.symm⟩) old₂
        rw [addrEq_symm equal] at differs
        cases differs
    · rcases enter_conns second with ⟨rfl, rfl⟩ | ⟨_, old₂⟩
      · have differs := other _ _ ((mem_tcs_iff sound).mpr ⟨_, old₁, owner⟩) old₁
        rw [equal] at differs
        cases differs
      · exact sound.single old₁ old₂ owner equal

theorem Findable.enter (findable : t.Findable) (free : t.tcpConnections id = none) :
    (t.enter a tc id peerAddr).Findable := by
  intro tc' c' there unbound
  rcases enter_conns there with ⟨rfl, rfl⟩ | ⟨_, old⟩
  · exact Function.update_self ..
  · have found := findable old unbound
    have apart : c'.id ≠ id := fun same => by
      rw [same, getTcpConnectionById, free] at found
      cases found
    exact (Function.update_of_ne apart ..).trans found

theorem bound_conns (found : t.tcpConnections id = some tc)
    (there : (t.getAndCleanTcpConnectionById id).1.conns otc = some c') :
    ∃ c, t.conns otc = some c ∧ c' = { c with bound := c'.bound } ∧
      (otc = tc ∧ c'.bound = true ∨ otc ≠ tc ∧ c'.bound = c.bound) := by
  simp only [getAndCleanTcpConnectionById, found] at there
  by_cases same : otc = tc
  · subst same
    rw [Function.update_self] at there
    obtain ⟨c, old, rfl⟩ := Option.map_eq_some_iff.mp there
    exact ⟨c, old, rfl, Or.inl ⟨rfl, rfl⟩⟩
  · rw [Function.update_of_ne same] at there
    exact ⟨c', there, rfl, Or.inr ⟨same, rfl⟩⟩

theorem Sound.bind (sound : t.Sound) (id : UInt32) : (t.getAndCleanTcpConnectionById id).1.Sound := by
  cases found : t.tcpConnections id with
  | none =>
    simp only [getAndCleanTcpConnectionById, found]
    exact sound
  | some tc =>
    refine ⟨?_, ?_, ?_⟩
    · intro a tc'
      have owner : ((t.getAndCleanTcpConnectionById id).1.conns tc').map Connection.owner =
          (t.conns tc').map Connection.owner := by
        simp only [getAndCleanTcpConnectionById, found]
        by_cases same : tc' = tc
        · subst same
          simp [Option.map_map, Function.comp_def]
        · rw [Function.update_of_ne same]
      rw [owner, ← sound.listed a tc']
      simp only [getAndCleanTcpConnectionById, found]
    · intro id' tc' entry
      simp only [getAndCleanTcpConnectionById, found] at entry ⊢
      by_cases same : id' = id
      · subst same
        rw [Function.update_self] at entry
        cases entry
      · rw [Function.update_of_ne same] at entry
        obtain ⟨c₀, there₀, equal₀, _⟩ := sound.entry found
        obtain ⟨apart, c, there, equal⟩ := sound.entry_other there₀ (equal₀ ▸ same) entry
        exact ⟨c, (Function.update_of_ne apart ..).trans there, equal⟩
    · intro tc₁ tc₂ c₁ c₂ first second owner equal
      obtain ⟨d₁, old₁, same₁, _⟩ := bound_conns found first
      obtain ⟨d₂, old₂, same₂, _⟩ := bound_conns found second
      rw [same₁, same₂] at owner equal
      exact sound.single old₁ old₂ owner equal

theorem Findable.bind (findable : t.Findable) (id : UInt32) : (t.getAndCleanTcpConnectionById id).1.Findable := by
  cases found : t.tcpConnections id with
  | none =>
    simp only [getAndCleanTcpConnectionById, found]
    exact findable
  | some tc =>
    intro tc' c' there unbound
    obtain ⟨c, old, same, ⟨_, marked⟩ | ⟨apart, kept⟩⟩ := bound_conns found there
    · rw [marked] at unbound
      cases unbound
    · have entry := findable old (kept.symm.trans unbound)
      have other : c.id ≠ id := fun equal => by
        rw [equal, getTcpConnectionById, found] at entry
        exact apart (Option.some.inj entry).symm
      rw [same]
      simp only [getAndCleanTcpConnectionById, found, getTcpConnectionById, Function.update_of_ne other]
      exact entry

theorem delete_conns {c : Connection} (there : t.conns tc = some c) :
    (t.deleteTcpConnection tc).conns otc = some c' ↔ otc ≠ tc ∧ t.conns otc = some c' := by
  simp only [deleteTcpConnection, there]
  by_cases same : otc = tc
  · subst same
    simp
  · simp [same]

theorem Sound.delete (sound : t.Sound) (tc : Nat) : (t.deleteTcpConnection tc).Sound := by
  cases there : t.conns tc with
  | none =>
    simp only [deleteTcpConnection, there]
    exact sound
  | some c =>
    refine ⟨?_, ?_, ?_⟩
    · intro a tc'
      have before := sound.listed a tc'
      simp only [deleteTcpConnection, there]
      by_cases same : tc = tc'
      · subst same
        rw [there] at before
        by_cases here : a = c.owner
        · subst here
          simp [count_clearElem, before]
        · simp [Function.update_of_ne here, before, Ne.symm here]
      · by_cases here : a = c.owner
        · subst here
          simp [count_clearElem, before, same, Function.update_of_ne (Ne.symm same)]
        · simp [Function.update_of_ne here, before, Function.update_of_ne (Ne.symm same)]
    · intro id' tc' entry
      simp only [deleteTcpConnection, there] at entry
      by_cases same : id' = c.id
      · subst same
        rw [Function.update_self] at entry
        cases entry
      · rw [Function.update_of_ne same] at entry
        obtain ⟨apart, c', old, equal⟩ := sound.entry_other there same entry
        exact ⟨c', (delete_conns there).mpr ⟨apart, old⟩, equal⟩
    · intro tc₁ tc₂ c₁ c₂ first second owner equal
      exact sound.single ((delete_conns there).mp first).2 ((delete_conns there).mp second).2 owner equal

/-- The others are still found exactly if none of them had the id of the deleted connection. -/
theorem findable_delete_iff (sound : t.Sound) (findable : t.Findable) (there : t.conns tc = some c) :
    (t.deleteTcpConnection tc).Findable ↔ ∀ other ∈ t.tcpConnections c.id, other = tc := by
  constructor
  · intro after other entry
    by_contra apart
    obtain ⟨c', old, equal, unbound⟩ := sound.entry entry
    have found := after ((delete_conns there).mpr ⟨apart, old⟩) unbound
    simp only [getTcpConnectionById, deleteTcpConnection, there, equal, Function.update_self] at found
    cases found
  · intro own tc' c' left unbound
    obtain ⟨apart, old⟩ := (delete_conns there).mp left
    have found := findable old unbound
    have other : c'.id ≠ c.id := fun equal => by
      rw [equal] at found
      exact apart (own tc' found)
    simp only [getTcpConnectionById, deleteTcpConnection, there, Function.update_of_ne other]
    exact found

theorem sound_empty : Tables.empty.Sound where
  listed a tc := by simp [Tables.empty]
  entry found := by cases found
  single tc tc' c c' first := by cases first

end Tables

section Runs

variable {serverId : UInt8} {t t' : Tables} {e : Call} {o : Answer}

theorem sound_step (sound : t.Sound) (enabled : (machine serverId).enabled t e)
    (run : (machine serverId).next t e = some (t', o)) : t'.Sound := by
  cases e with
  | create a tc peerAddr random fuel =>
    rcases Tables.createTcpConnection_cases run with rfl | ⟨id, rfl, _, other⟩
    · exact sound
    · exact sound.enter enabled other
  | bind id =>
    obtain rfl : (t.getAndCleanTcpConnectionById id).1 = t' := congrArg Prod.fst (Option.some.inj run)
    exact sound.bind id
  | delete tc =>
    cases run
    exact sound.delete tc

theorem findable_step_iff (sound : t.Sound) (findable : t.Findable) (enabled : (machine serverId).enabled t e)
    (run : (machine serverId).next t e = some (t', o)) : t'.Findable ↔ DeletesOwnEntry t e := by
  cases e with
  | create a tc peerAddr random fuel =>
    refine iff_of_true ?_ trivial
    rcases Tables.createTcpConnection_cases run with rfl | ⟨id, rfl, free, _⟩
    · exact findable
    · exact findable.enter free
  | bind id =>
    obtain rfl : (t.getAndCleanTcpConnectionById id).1 = t' := congrArg Prod.fst (Option.some.inj run)
    exact iff_of_true (findable.bind id) trivial
  | delete tc =>
    cases run
    obtain ⟨c, there⟩ := Option.isSome_iff_exists.mp enabled
    rw [Tables.findable_delete_iff sound findable there, DeletesOwnEntry, there]
    simp

theorem reach_sound (reach : (machine serverId).Reach DeletesOwnEntry t) : t.Sound ∧ t.Findable := by
  refine reach.invariant (P := fun t => t.Sound ∧ t.Findable) ?_ ?_
  · rintro s rfl
    exact ⟨Tables.sound_empty, fun tc c there => by cases there⟩
  · intro s s' e o held enabled guarded run
    exact ⟨sound_step held.1 enabled run, (findable_step_iff held.1 held.2 enabled run).mpr guarded⟩

end Runs

/-- In every history of calls in which a deleted connection never shares its id with another one in the map, each
allocation has at most one connection per peer and every connection that is not bound is found by its id; and a next
call keeps this so exactly if it does not delete such a connection either. A bound connection has left the map, so its id
can be drawn again. -/
theorem pending_connections_findable_iff {serverId : UInt8} {t t' : Tables} {e : Call} {o : Answer}
    (reach : (machine serverId).Reach DeletesOwnEntry t) (enabled : (machine serverId).enabled t e)
    (run : (machine serverId).next t e = some (t', o)) :
    (t.OnePerPeer ∧ t.Findable) ∧ (t'.OnePerPeer ∧ t'.Findable ↔ DeletesOwnEntry t e) := by
  obtain ⟨sound, findable⟩ := reach_sound reach
  refine ⟨⟨sound.single, findable⟩, ?_⟩
  rw [← findable_step_iff sound findable enabled run]
  exact and_iff_right (sound_step sound enabled run).single

/-- The id that a connection of the server with id 1 gets for the random number 5. -/
def exampleId : UInt32 := 0x01000005

/-- A bound connection is deleted while another one is pending under another id. -/
theorem pending_connections_findable_iff_bound :
    ∃ t t' o, (machine 1).Reach DeletesOwnEntry t ∧ (machine 1).next t (.delete 1) = some (t', o) ∧
      DeletesOwnEntry t (.delete 1) ∧ t'.OnePerPeer ∧ t'.Findable := by
  obtain ⟨t, reach, deletes⟩ : ∃ t, (machine 1).Reach DeletesOwnEntry t ∧
      decide ((machine 1).enabled t (.delete 1) ∧ DeletesOwnEntry t (.delete 1)) = true :=
    Machine.Reach.exists_of_replay Tables.empty
      [.create 0 1 (.inet 1 1) (fun _ => 5) 3, .bind exampleId, .create 0 2 (.inet 2 2) (fun _ => 6) 3] rfl (by decide)
  obtain ⟨enabled, own⟩ := of_decide_eq_true deletes
  have safe := (pending_connections_findable_iff reach enabled rfl).2.mpr own
  exact ⟨t, _, _, reach, rfl, own, safe⟩

/-- A connection is bound, a second one draws its id, and the first one is deleted: the second one is lost. -/
theorem reused_id_hides_connection :
    ¬ ∀ t, (machine 1).Reach (fun _ _ => True) t → t.OnePerPeer ∧ t.Findable := by
  intro claimed
  obtain ⟨t, reach, lost⟩ : ∃ t, (machine 1).Reach (fun _ _ => True) t ∧
      decide (t.conns 2 = some ⟨0, exampleId, .inet 2 2, false⟩ ∧ t.getTcpConnectionById exampleId = none) = true :=
    Machine.Reach.exists_of_replay Tables.empty
      [.create 0 1 (.inet 1 1) (fun _ => 5) 3, .bind exampleId, .create 0 2 (.inet 2 2) (fun _ => 5) 3, .delete 1]
      rfl (by decide)
  obtain ⟨there, missing⟩ := of_decide_eq_true lost
  have found := (claimed t reach).2 there rfl
  rw [missing] at found
  cases found

end Tcp
end TurnCluster
