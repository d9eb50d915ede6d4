import TurnCluster.Relay.Response
import TurnCluster.Stun.Framing
import TurnCluster.Stun.Walk

namespace TurnCluster

variable {b : StunBuffer} {pos len : Nat} {attrs : List Attribute}

theorem AttrAt.attributeAt_eq {place : Nat} {a : Attribute} (there : AttrAt b pos place a.attrType a.value) :
    attributeAt (b.view pos) place = a := by
  have value : (b.view pos).slice (place + 4) a.value.length = a.value := by
    rw [view_slice, ← Nat.add_assoc]
    exact there.value
  unfold attributeAt
  rw [there.attrType, there.length, value]

theorem Laid.read {start stop : Nat} (laid : Laid b pos start attrs stop) :
    (placesFrom start attrs).map (attributeAt (b.view pos)) = attrs := by
  induction attrs generalizing start with
  | nil => rfl
  | cons a rest later =>
    obtain ⟨there, behind⟩ := laid
    rw [placesFrom, List.map_cons, there.attributeAt_eq, later behind]

theorem Composed.attributes_eq (composed : Composed b pos len attrs) : attributes (b.view pos) len = attrs := by
  rw [attributes, composed.stunAttrs_eq, composed.laid.read]

/-- The value that `stun_attr_add_str` returns. -/
def stunAttrAddReturns (b : StunBuffer) (pos len : Nat) (value : List UInt8) : Int :=
  if (stunAttrRoom b pos len value.length).isSome then 0 else -1

theorem MessageAt.addReturns (message : MessageAt b pos len) (value : List UInt8) :
    stunAttrAddReturns b pos len value = if maxStunMessageSize ≤ grownLength len value.length then -1 else 0 := by
  unfold stunAttrAddReturns
  rw [message.room]
  by_cases full : maxStunMessageSize ≤ grownLength len value.length
  · rw [if_pos full, if_pos full]
    rfl
  · rw [if_neg full, if_neg full]
    rfl

/-- A message in the making, and the attributes for which the calls returned 0. -/
structure Writing where
  b : StunBuffer
  len : Nat
  accepted : List Attribute

namespace Writing

def start (messageType : UInt16) (b : StunBuffer) (pos : Nat) (tid : List UInt8) : Writing :=
  ⟨(stunInitCommandStr messageType b pos tid).1, (stunInitCommandStr messageType b pos tid).2, []⟩

/-- One call of `stun_attr_add_str`. -/
def add (pos : Nat) (w : Writing) (a : Attribute) : Writing where
  b := (stunAttrAddBytes w.b pos w.len a.attrType a.value).1
  len := (stunAttrAddBytes w.b pos w.len a.attrType a.value).2
  accepted := if stunAttrAddReturns w.b pos w.len a.value = 0 then w.accepted ++ [a] else w.accepted

def addAll (pos : Nat) (w : Writing) (calls : List Attribute) : Writing := calls.foldl (add pos) w

theorem refused {w : Writing} {pos : Nat} {a : Attribute} (full : stunAttrAddReturns w.b pos w.len a.value ≠ 0) :
    stunAttrAddBytes w.b pos w.len a.attrType a.value = (w.b, w.len) := by
  unfold stunAttrAddReturns at full
  unfold stunAttrAddBytes
  cases room : stunAttrRoom w.b pos w.len a.value.length with
  | none => rfl
  | some places =>
    rw [room] at full
    exact absurd rfl full

theorem start_composed (messageType : UInt16) (b : StunBuffer) (pos : Nat) (tid : List UInt8) :
    Composed (start messageType b pos tid).b pos (start messageType b pos tid).len
      (start messageType b pos tid).accepted where
  message := stunInitCommandStr_message messageType b pos tid
  laid := rfl
  aligned := by
    show 20 % 4 = 0
    rfl

theorem add_composed {w : Writing} {pos : Nat} (composed : Composed w.b pos w.len w.accepted) (a : Attribute) :
    Composed (w.add pos a).b pos (w.add pos a).len (w.add pos a).accepted := by
  by_cases fits : grownLength w.len a.value.length < maxStunMessageSize
  · have returned : stunAttrAddReturns w.b pos w.len a.value = 0 := by
      rw [composed.message.addReturns, if_neg (Nat.not_le.mpr fits)]
    have accepted : (w.add pos a).accepted = w.accepted ++ [a] := if_pos returned
    rw [accepted]
    exact composed.grow a.attrType a.value fits
  · have returned : stunAttrAddReturns w.b pos w.len a.value ≠ 0 := by
      rw [composed.message.addReturns, if_pos (Nat.not_lt.mp fits)]
      decide
    have same : w.add pos a = w := by
      unfold add
      rw [refused returned, if_neg returned]
    rw [same]
    exact composed

/-- Induction on the calls. -/
theorem addAll_composed {w : Writing} {pos : Nat} (composed : Composed w.b pos w.len w.accepted)
    (calls : List Attribute) :
    Composed (w.addAll pos calls).b pos (w.addAll pos calls).len (w.addAll pos calls).accepted := by
  induction calls generalizing w with
  | nil => exact composed
  | cons a rest ih => exact ih (add_composed composed a)

theorem addAll_extended {w : Writing} {pos : Nat} (message : MessageAt w.b pos w.len) (calls : List Attribute) :
    Extended w.b pos w.len (w.addAll pos calls).b (w.addAll pos calls).len ∧
      SameBetween w.b (w.addAll pos calls).b pos (pos + 2) := by
  induction calls generalizing w with
  | nil => exact ⟨.refl message, .refl _ _ _⟩
  | cons a rest ih =>
    have step := stunAttrAddBytes_extended message a.attrType a.value
    obtain ⟨extended, typed⟩ := ih (w := w.add pos a) step.message
    exact ⟨step.trans extended step.grown, (stunAttrAddBytes_same_type message a.attrType a.value).trans typed⟩

theorem addAll_eq (w : Writing) (pos : Nat) (calls : List Attribute) :
    stunAttrAddAll w.b pos w.len calls = ((w.addAll pos calls).b, (w.addAll pos calls).len) := by
  induction calls generalizing w with
  | nil => rfl
  | cons a rest ih => exact ih (w.add pos a)

theorem addAll_accepted (w : Writing) (pos : Nat) (calls : List Attribute) :
    ∃ more, (w.addAll pos calls).accepted = w.accepted ++ more := by
  induction calls generalizing w with
  | nil => exact ⟨[], (List.append_nil _).symm⟩
  | cons a rest ih =>
    obtain ⟨more, later⟩ := ih (w.add pos a)
    have first : ∃ one, (w.add pos a).accepted = w.accepted ++ one := by
      unfold add
      dsimp only
      split
      · exact ⟨[a], rfl⟩
      · exact ⟨[], (List.append_nil _).symm⟩
    obtain ⟨one, accepted⟩ := first
    refine ⟨one ++ more, ?_⟩
    rw [← List.append_assoc, ← accepted]
    exact later

end Writing

/-- What was added to a message is what the iteration over it yields; a call that returns -1 changes nothing. -/
theorem attributes_written_are_read (messageType : UInt16) (b : StunBuffer) (pos : Nat) (tid : List UInt8)
    (calls : List Attribute) :
    let w := (Writing.start messageType b pos tid).addAll pos calls
    (∀ k, (nthAttr (w.b.view pos) w.len k).map (attributeAt (w.b.view pos)) = w.accepted[k]?) ∧
      (∀ a : Attribute, stunAttrAddReturns w.b pos w.len a.value = -1 →
        stunAttrAddBytes w.b pos w.len a.attrType a.value = (w.b, w.len)) ∧
      w.len = stunHeaderLength + lengthField (w.b.view pos) ∧ w.len % 4 = 0 := by
  intro w
  have composed : Composed w.b pos w.len w.accepted :=
    Writing.addAll_composed (Writing.start_composed messageType b pos tid) calls
  refine ⟨?_, ?_, ?_, composed.aligned⟩
  · intro k
    rw [← composed.attributes_eq, attributes, List.getElem?_map, stunAttrs_getElem?]
  · intro a full
    exact Writing.refused (by rw [full]; decide)
  · rw [Nat.add_comm]
    exact composed.message.2.symm

end TurnCluster
