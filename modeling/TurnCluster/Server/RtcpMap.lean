import Mathlib.Algebra.Group.Nat.Defs
import Mathlib.Data.List.Nodup
import Mathlib.Logic.Function.Basic
import TurnCluster.Lib.Run

namespace TurnCluster
namespace Server

/-- `turn_time_before`: the sign of the 32-bit difference. -/
def turnTimeBefore (t1 t2 : UInt32) : Bool := decide (2 ^ 31 ≤ (t1 - t2).toNat)

/-- The comparison is the order of the numbers exactly while the clock has not run half way round between them. -/
theorem turnTimeBefore_eq_false_iff (t1 t2 : UInt32) :
    (turnTimeBefore t1 t2 = false ↔ t2.toNat ≤ t1.toNat) ↔
      t1.toNat < t2.toNat + 2 ^ 31 ∧ t2.toNat ≤ t1.toNat + 2 ^ 31 := by
  have bound1 := t1.toNat_lt
  have bound2 := t2.toNat_lt
  rw [turnTimeBefore, decide_eq_false_iff_not, UInt32.toNat_sub]
  omega

def rtcpTimeout : UInt32 := 300

def maxTokenDel : Nat := 1024

/-- `rtcp_alloc_type`. -/
structure RtcpAlloc (S : Type) where
  s : S
  t : UInt32
  token : UInt64
  deriving DecidableEq

/-- The map of a relay server, as the finite map that its `ur_map` is. -/
abbrev RtcpMap (S : Type) : Type := UInt64 → Option (RtcpAlloc S)

/-- What `timeout_check` collects while it is called for every entry. -/
structure TimeoutCheck where
  tokens : List UInt64
  t : UInt32

variable {S : Type}

/-- The lock section of `rtcp_map_put`; the time was read before the lock. -/
def rtcpMapPut (map : RtcpMap S) (token : UInt64) (s : S) (now : UInt32) : RtcpMap S :=
  Function.update map token (some ⟨s, now + rtcpTimeout, token⟩)

/-- `rtcp_map_get` and `rtcp_map_del` both take the entry out. The one returns its socket, the
other closes it. -/
def rtcpMapDel (map : RtcpMap S) (token : UInt64) : Option (RtcpAlloc S) × RtcpMap S :=
  (map token, Function.update map token none)

def timeoutCheck (map : RtcpMap S) (c : TimeoutCheck) (token : UInt64) : TimeoutCheck :=
  match map token with
  | none => c
  | some rat =>
    if turnTimeBefore rat.t c.t = true ∧ c.tokens.length < maxTokenDel then { c with tokens := c.tokens ++ [token] }
    else c

/-- The first lock section of `rtcp_map_timeout_handler`, with the entries in the order in which
`ur_map_foreach_arg` finds them. -/
def rtcpMapTimeoutCollect (map : RtcpMap S) (order : List UInt64) (now : UInt32) : TimeoutCheck :=
  order.foldl (timeoutCheck map) ⟨[], now⟩

/-- A socket that the handler closed, with the time that its run had sampled. -/
structure Closing (S : Type) where
  rat : RtcpAlloc S
  sampled : UInt32

/-- The map, the runs of the handler that have still tokens to delete, and what has happened so far. -/
structure RtcpWorld (S : Type) where
  map : RtcpMap S
  handlers : List TimeoutCheck
  puts : List (RtcpAlloc S)
  returned : List (RtcpAlloc S)
  closed : List (Closing S)

/-- One lock section of some thread. -/
inductive RtcpEvent (S : Type)
  /-- `allocated` says whether `malloc` gave an entry; without one nothing is put. -/
  | put (token : UInt64) (s : S) (now : UInt32) (allocated : Bool)
  | get (token : UInt64)
  | collect (order : List UInt64) (now : UInt32)
  /-- The next `rtcp_map_del` of a run of the handler. -/
  | delete (handler : Nat)

namespace RtcpWorld

def put (w : RtcpWorld S) (token : UInt64) (s : S) (now : UInt32) : RtcpWorld S :=
  { w with map := rtcpMapPut w.map token s now, puts := ⟨s, now + rtcpTimeout, token⟩ :: w.puts }

def get (w : RtcpWorld S) (token : UInt64) : RtcpWorld S :=
  let (taken, map) := rtcpMapDel w.map token
  { w with map := map, returned := taken.toList ++ w.returned }

def delete (w : RtcpWorld S) (handler : Nat) : RtcpWorld S :=
  match w.handlers[handler]? with
  | none => w
  | some c =>
    match c.tokens with
    | [] => w
    | token :: rest =>
      let (taken, map) := rtcpMapDel w.map token
      { w with
        map := map
        handlers := w.handlers.set handler { c with tokens := rest }
        closed := (taken.map (fun rat => ⟨rat, c.t⟩)).toList ++ w.closed }

def step (w : RtcpWorld S) : RtcpEvent S → RtcpWorld S
  | .put token s now allocated => if allocated = true then w.put token s now else w
  | .get token => w.get token
  | .collect order now => { w with handlers := rtcpMapTimeoutCollect w.map order now :: w.handlers }
  | .delete handler => w.delete handler

/-- Tokens are not put twice, and a walk over the map meets every entry once. -/
def Allows (w : RtcpWorld S) : RtcpEvent S → Prop
  | .put token _ _ _ => ∀ p ∈ w.puts, p.token ≠ token
  | .get _ => True
  | .collect order _ => order.Nodup ∧ ∀ token, token ∈ order ↔ (w.map token).isSome
  | .delete _ => True

end RtcpWorld

/-- All threads that use one map, at the granularity of its lock. -/
def rtcpMachine (S : Type) : Machine (RtcpWorld S) (RtcpEvent S) Unit where
  init w := w = ⟨fun _ => none, [], [], [], []⟩
  enabled := RtcpWorld.Allows
  next w ev := some (w.step ev, ())

theorem rtcpMachine_step {w : RtcpWorld S} (reach : (rtcpMachine S).Reach (fun _ _ => True) w) (ev : RtcpEvent S)
    (allowed : w.Allows ev) : (rtcpMachine S).Reach (fun _ _ => True) (w.step ev) :=
  .next reach allowed trivial rfl

variable [DecidableEq S]

/-- Whether a reservation is still in the map. -/
def RtcpWorld.Holds (w : RtcpWorld S) (p : RtcpAlloc S) : Prop := w.map p.token = some p

instance (w : RtcpWorld S) (p : RtcpAlloc S) : Decidable (w.Holds p) := inferInstanceAs (Decidable (_ = _))

/-- Every reservation that was put is in one place once: in the map, with the caller of a get, or closed. -/
structure RtcpKept (w : RtcpWorld S) : Prop where
  tokens : (w.puts.map RtcpAlloc.token).Nodup
  entries : ∀ token p, w.map token = some p → p ∈ w.puts ∧ p.token = token
  ledger : (w.puts.filter (fun p => w.Holds p) ++ w.returned ++ w.closed.map Closing.rat).Perm w.puts
  checked : ∀ c ∈ w.handlers, ∀ token ∈ c.tokens, ∃ p ∈ w.puts, p.token = token ∧ turnTimeBefore p.t c.t = true
  late : ∀ c ∈ w.closed, turnTimeBefore c.rat.t c.sampled = true

namespace RtcpKept

variable {w : RtcpWorld S}

theorem unique (kept : RtcpKept w) {p q : RtcpAlloc S} (inP : p ∈ w.puts) (inQ : q ∈ w.puts)
    (same : p.token = q.token) : p = q :=
  List.inj_on_of_nodup_map kept.tokens inP inQ same

theorem start {w : RtcpWorld S} (initial : (rtcpMachine S).init w) : RtcpKept w := by
  cases initial
  refine ⟨List.nodup_nil, nofun, List.Perm.refl _, nofun, nofun⟩

theorem put (kept : RtcpKept w) {token : UInt64} (new : ∀ p ∈ w.puts, p.token ≠ token) (s : S) (now : UInt32) :
    RtcpKept (w.put token s now) := by
  have same (p : RtcpAlloc S) (member : p ∈ w.puts) : (w.put token s now).Holds p ↔ w.Holds p := by
    show Function.update w.map token _ p.token = some p ↔ _
    rw [Function.update_of_ne (new p member)]
    rfl
  have held : (w.put token s now).Holds ⟨s, now + rtcpTimeout, token⟩ := Function.update_self ..
  constructor
  · refine List.nodup_cons.mpr ⟨?_, kept.tokens⟩
    intro member
    obtain ⟨p, put, equal⟩ := List.mem_map.mp member
    exact new p put equal
  · intro token' p found
    by_cases here : token' = token
    · have found : Function.update w.map token (some ⟨s, now + rtcpTimeout, token⟩) token = some p := here ▸ found
      rw [Function.update_self] at found
      cases Option.some.inj found
      exact ⟨.head _, here.symm⟩
    · have found : w.map token' = some p := (Function.update_of_ne here ..).symm.trans found
      obtain ⟨member, equal⟩ := kept.entries token' p found
      exact ⟨.tail _ member, equal⟩
  · have rest : w.puts.filter (fun p => (w.put token s now).Holds p) = w.puts.filter (fun p => w.Holds p) :=
      List.filter_congr fun p member => decide_eq_decide.mpr (same p member)
    show (List.filter _ (_ :: w.puts) ++ _ ++ _).Perm (_ :: w.puts)
    rw [List.filter_cons, if_pos (decide_eq_true held), rest]
    exact kept.ledger.cons _
  · intro c member token' due
    obtain ⟨p, put, equal⟩ := kept.checked c member token' due
    exact ⟨p, .tail _ put, equal⟩
  · exact kept.late

theorem taken (kept : RtcpKept w) (token : UInt64) :
    (w.puts.filter (fun p => w.Holds p)).Perm
      ((w.map token).toList ++ w.puts.filter (fun p => decide (Function.update w.map token none p.token = some p))) := by
  have other (p : RtcpAlloc S) (differ : p.token ≠ token) :
      Function.update w.map token none p.token = some p ↔ w.Holds p := by
    rw [Function.update_of_ne differ]
    rfl
  cases found : w.map token with
  | none =>
    have rest : w.puts.filter (fun p => decide (Function.update w.map token none p.token = some p)) =
        w.puts.filter (fun p => w.Holds p) := by
      refine List.filter_congr fun p _ => decide_eq_decide.mpr ?_
      by_cases here : p.token = token
      · unfold RtcpWorld.Holds
        rw [here, Function.update_self, found]
      · exact other p here
    rw [rest]
    exact .refl _
  | some q =>
    obtain ⟨member, here⟩ := kept.entries token q found
    have distinct : w.puts.Nodup := kept.tokens.of_map _
    have held : q ∈ w.puts.filter (fun p => w.Holds p) := by
      refine List.mem_filter.mpr ⟨member, decide_eq_true ?_⟩
      unfold RtcpWorld.Holds
      rw [here, found]
    have rest : w.puts.filter (fun p => decide (Function.update w.map token none p.token = some p)) =
        (w.puts.filter (fun p => w.Holds p)).erase q := by
      rw [(distinct.filter _).erase_eq_filter, List.filter_filter]
      refine List.filter_congr fun p put => ?_
      by_cases equal : p.token = token
      · have same : p = q := kept.unique put member (equal.trans here.symm)
        rw [equal, Function.update_self, same]
        simp
      · have differ : p ≠ q := fun same => equal (same ▸ here)
        simp [other p equal, differ]
    rw [rest]
    exact List.perm_cons_erase held

theorem entries_of_del (kept : RtcpKept w) (token token' : UInt64) (p : RtcpAlloc S)
    (found : Function.update w.map token none token' = some p) : p ∈ w.puts ∧ p.token = token' := by
  by_cases here : token' = token
  · rw [here, Function.update_self] at found
    cases found
  · rw [Function.update_of_ne here] at found
    exact kept.entries token' p found

theorem get (kept : RtcpKept w) (token : UInt64) : RtcpKept (w.get token) := by
  refine ⟨kept.tokens, kept.entries_of_del token, ?_, kept.checked, kept.late⟩
  refine List.perm_iff_count.mpr fun p => ?_
  have moved := (kept.taken token).count_eq p
  have total := kept.ledger.count_eq p
  simp only [List.count_append] at moved total
  show List.count p (w.puts.filter (fun q => decide (Function.update w.map token none q.token = some q)) ++
    ((w.map token).toList ++ w.returned) ++ w.closed.map Closing.rat) = List.count p w.puts
  simp only [List.count_append]
  omega

theorem timeoutCheck_due (kept : RtcpKept w) {c : TimeoutCheck}
    (due : ∀ token ∈ c.tokens, ∃ p ∈ w.puts, p.token = token ∧ turnTimeBefore p.t c.t = true) (token : UInt64) :
    ∀ token' ∈ (timeoutCheck w.map c token).tokens,
      ∃ p ∈ w.puts, p.token = token' ∧ turnTimeBefore p.t (timeoutCheck w.map c token).t = true := by
  unfold timeoutCheck
  split
  · exact due
  · rename_i rat found
    split
    · rename_i before
      obtain ⟨member, here⟩ := kept.entries token rat found
      intro token' noted
      rcases List.mem_append.mp noted with old | new
      · exact due token' old
      · cases List.mem_singleton.mp new
        exact ⟨rat, member, here, before.1⟩
    · exact due

theorem collect_due (kept : RtcpKept w) (order : List UInt64) {c : TimeoutCheck}
    (due : ∀ token ∈ c.tokens, ∃ p ∈ w.puts, p.token = token ∧ turnTimeBefore p.t c.t = true) :
    ∀ token ∈ (order.foldl (timeoutCheck w.map) c).tokens,
      ∃ p ∈ w.puts, p.token = token ∧ turnTimeBefore p.t (order.foldl (timeoutCheck w.map) c).t = true := by
  induction order generalizing c with
  | nil => exact due
  | cons token order next => exact next (kept.timeoutCheck_due due token)

theorem collect (kept : RtcpKept w) (order : List UInt64) (now : UInt32) :
    RtcpKept { w with handlers := rtcpMapTimeoutCollect w.map order now :: w.handlers } := by
  refine ⟨kept.tokens, kept.entries, kept.ledger, ?_, kept.late⟩
  intro c member
  rcases List.mem_cons.mp member with new | old
  · rw [new]
    exact kept.collect_due order (fun _ noted => absurd noted List.not_mem_nil)
  · exact kept.checked c old

/-- Between the walk and this section a get may have taken the entry. It cannot have been replaced,
because no token is put twice, so what is closed here is what the walk found due. -/
theorem delete (kept : RtcpKept w) (handler : Nat) : RtcpKept (w.delete handler) := by
  unfold RtcpWorld.delete
  split
  · exact kept
  · rename_i c running
    have member : c ∈ w.handlers := List.mem_of_getElem? running
    split
    · exact kept
    · rename_i token rest tokens
      refine ⟨kept.tokens, kept.entries_of_del token, ?_, ?_, ?_⟩
      · refine List.perm_iff_count.mpr fun p => ?_
        have moved := (kept.taken token).count_eq p
        have total := kept.ledger.count_eq p
        have records : (((w.map token).map (fun rat => (⟨rat, c.t⟩ : Closing S))).toList ++ w.closed).map Closing.rat =
            (w.map token).toList ++ w.closed.map Closing.rat := by
          cases w.map token <;> rfl
        simp only [List.count_append] at moved total
        show List.count p (w.puts.filter (fun q => decide (Function.update w.map token none q.token = some q)) ++
          w.returned ++ (((w.map token).map (fun rat => (⟨rat, c.t⟩ : Closing S))).toList ++ w.closed).map Closing.rat) =
            List.count p w.puts
        rw [records]
        simp only [List.count_append]
        omega
      · intro c' inSet token' noted
        rcases List.mem_or_eq_of_mem_set inSet with old | new
        · exact kept.checked c' old token' noted
        · rw [new] at noted ⊢
          refine kept.checked c member token' ?_
          rw [tokens]
          exact .tail _ noted
      · intro c' closed
        rcases List.mem_append.mp closed with new | old
        · obtain ⟨rat, found, rfl⟩ := Option.map_eq_some_iff.mp (Option.mem_toList.mp new)
          obtain ⟨put, here⟩ := kept.entries token rat found
          obtain ⟨p, checked, same, before⟩ := kept.checked c member token (by rw [tokens]; exact .head _)
          rw [kept.unique put checked (here.trans same.symm)]
          exact before
        · exact kept.late c' old

theorem step (kept : RtcpKept w) {ev : RtcpEvent S} (allowed : w.Allows ev) : RtcpKept (w.step ev) := by
  cases ev with
  | put token s now allocated =>
    show RtcpKept (if allocated = true then w.put token s now else w)
    split
    · exact kept.put allowed s now
    · exact kept
  | get token => exact kept.get token
  | collect order now => exact kept.collect order now
  | delete handler => exact kept.delete handler

end RtcpKept

/-- Each reserved socket is in one of three places, once: in the map, returned by a get, or closed by the
handler. A socket is there as often as it was put. -/
structure UsedOnce (w : RtcpWorld S) : Prop where
  once : ∀ p ∈ w.puts,
    (if w.Holds p then 1 else 0) + w.returned.count p + (w.closed.map Closing.rat).count p = 1
  sockets : ∀ s, w.puts.countP (fun p => p.s = s) = w.puts.countP (fun p => w.Holds p ∧ p.s = s) +
    w.returned.countP (fun p => p.s = s) + w.closed.countP (fun c => c.rat.s = s)
  late : ∀ c ∈ w.closed, turnTimeBefore c.rat.t c.sampled = true

theorem reserved_sockets_used_once {w : RtcpWorld S} (reach : (rtcpMachine S).Reach (fun _ _ => True) w) :
    UsedOnce w := by
  have kept : RtcpKept w := reach.invariant RtcpKept.start (fun kept allowed _ run => by
    cases Option.some.inj run
    exact kept.step allowed)
  refine ⟨?_, ?_, kept.late⟩
  · intro p put
    have total := kept.ledger.count_eq p
    have distinct : w.puts.Nodup := kept.tokens.of_map _
    simp only [List.count_append] at total
    rw [List.count_eq_one_of_mem distinct put] at total
    split
    · rename_i held
      have inMap : p ∈ w.puts.filter (fun q => w.Holds q) := List.mem_filter.mpr ⟨put, decide_eq_true held⟩
      rw [List.count_eq_one_of_mem (distinct.filter _) inMap] at total
      exact total
    · rename_i gone
      have absent : p ∉ w.puts.filter (fun q => w.Holds q) := fun member =>
        gone (of_decide_eq_true (List.mem_filter.mp member).2)
      rw [List.count_eq_zero_of_not_mem absent] at total
      exact total
  · intro s
    have total := kept.ledger.countP_eq (fun p => decide (p.s = s))
    rw [List.countP_append, List.countP_append, List.countP_filter, List.countP_map] at total
    rw [← total]
    simp [Function.comp_def, and_comm]

/-- Two reservations, for the sockets 1 and 2. -/
def exampleReserved : RtcpWorld Nat :=
  (⟨fun _ => none, [], [], [], []⟩ : RtcpWorld Nat) |>.step (.put 7 1 0 true) |>.step (.put 8 2 0 true)

theorem exampleReserved_reached : (rtcpMachine Nat).Reach (fun _ _ => True) exampleReserved := by
  refine rtcpMachine_step (rtcpMachine_step (.start rfl) (.put 7 1 0 true) ?_) (.put 8 2 0 true) ?_
  · intro p member
    cases member
  · intro p member
    cases List.mem_singleton.mp member
    decide

/-- Both are due when the handler walks the map, but a get takes the first one before it is deleted. -/
theorem reserved_sockets_used_once_raced : ∃ w, (rtcpMachine Nat).Reach (fun _ _ => True) w ∧
    w.returned.map RtcpAlloc.s = [1] ∧ w.closed.map (fun c => c.rat.s) = [2] ∧ UsedOnce w := by
  have walked : (rtcpMachine Nat).Reach (fun _ _ => True) (exampleReserved.step (.collect [7, 8] 301)) := by
    refine rtcpMachine_step exampleReserved_reached (.collect [7, 8] 301) ⟨by decide, fun token => ?_⟩
    show token ∈ [7, 8] ↔ (Function.update (Function.update (fun _ => none) 7 _) 8 _ token).isSome = true
    by_cases eight : token = 8
    · simp [eight]
    · by_cases seven : token = 7
      · simp [seven, Function.update]
      · simp [eight, seven, Function.update]
  have raced := rtcpMachine_step (rtcpMachine_step (rtcpMachine_step walked (.get 7) trivial) (.delete 0) trivial)
    (.delete 0) trivial
  exact ⟨_, raced, by decide, by decide, reserved_sockets_used_once raced⟩

end Server
end TurnCluster
