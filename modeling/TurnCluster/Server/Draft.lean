import TurnCluster.Relay.Response
import TurnCluster.Server.Auth

namespace TurnCluster

/-- `stun_attr_add_integrity_str`: room for the HMAC first, and then the HMAC of what stands before it. -/
def stunAttrAddIntegrityStr (hmac : List UInt8 → List UInt8) (b : StunBuffer) (pos len : Nat) : StunBuffer × Nat :=
  match stunAttrRoom b pos len Server.sha1SizeBytes with
  | none => (b, len)
  | some (_, newlen) =>
    let b := (stunAttrAddBytes b pos len stunAttributeMessageIntegrity (List.replicate Server.sha1SizeBytes 0)).1
    let value := hmac ((b.view pos).slice 0 (newlen - 4 - Server.sha1SizeBytes))
    (b.write (pos + newlen - Server.sha1SizeBytes)
      ((value ++ List.replicate Server.sha1SizeBytes 0).take Server.sha1SizeBytes), newlen)

/-- Where the walk over the attributes of a message ends: behind the last one that it comes to. -/
def attrsEnd (buf : Memory) (len : Nat) : Nat :=
  match (stunAttrs buf len).getLast? with
  | none => stunHeaderLength
  | some attr => attr + 4 + roundUp4 (stunAttrGetLen buf attr)

variable (hmac : List UInt8 → List UInt8) {b : StunBuffer} {pos len : Nat}

theorem Laid.last {start stop : Nat} {a : Attribute} {rest : List Attribute}
    (laid : Laid b pos start (a :: rest) stop) :
    ∃ attr, (placesFrom start (a :: rest)).getLast? = some attr ∧
      attr + 4 + roundUp4 (stunAttrGetLen (b.view pos) attr) = stop := by
  induction rest generalizing start a with
  | nil =>
    obtain ⟨there, ends⟩ := laid
    refine ⟨start, rfl, ?_⟩
    rw [there.length]
    exact ends
  | cons next rest later =>
    obtain ⟨attr, found, ends⟩ := later laid.2
    refine ⟨attr, ?_, ends⟩
    rw [placesFrom, List.getLast?_cons, found]
    rfl

theorem Composed.attrsEnd_eq {attrs : List Attribute} (composed : Composed b pos len attrs) :
    attrsEnd (b.view pos) len = len := by
  unfold attrsEnd
  rw [composed.stunAttrs_eq]
  cases attrs with
  | nil => exact composed.laid
  | cons a rest =>
    obtain ⟨attr, found, ends⟩ := composed.laid.last
    rw [found]
    exact ends

theorem StunBuffer.data_congr {b' : StunBuffer} (offset : b'.offset = b.offset) (coffset : b'.coffset = b.coffset) :
    b'.data = b.data := by
  unfold StunBuffer.data StunBuffer.dataOrigin
  rw [offset, coffset]

/-- A call that adds at most one attribute to a message whose length it is told. -/
def Appending (call : StunBuffer → Nat → Nat → StunBuffer × Nat) : Prop :=
  ∀ {b : StunBuffer} {pos len : Nat} {attrs : List Attribute}, Composed b pos len attrs →
    (∃ attrs', Composed (call b pos len).1 pos (call b pos len).2 attrs') ∧
      (call b pos len).1.offset = b.offset ∧ (call b pos len).1.coffset = b.coffset

theorem appending_bytes (attr : UInt16) (value : List UInt8) :
    Appending (fun b pos len => stunAttrAddBytes b pos len attr value) := by
  intro b pos len attrs composed
  have extended := stunAttrAddBytes_extended composed.message attr value
  refine ⟨?_, extended.offset, extended.coffset⟩
  by_cases fits : grownLength len value.length < maxStunMessageSize
  · exact ⟨_, composed.grow attr value fits⟩
  · have full : stunAttrAddBytes b pos len attr value = (b, len) := by
      unfold stunAttrAddBytes
      rw [composed.message.room, if_pos (by omega)]
    refine ⟨attrs, ?_⟩
    dsimp only
    rw [full]
    exact composed

theorem appending_addr (mapping : AddrMapping) (attr : UInt16) (ca : IoaAddr) :
    Appending (fun b pos len => stunAttrAddAddrStr mapping b pos len attr ca) := by
  intro b pos len attrs composed
  obtain ⟨cfield, _, _, added⟩ := stunAttrAddAddrStr_eq mapping b pos len attr ca
  dsimp only
  rw [added]
  exact appending_bytes attr cfield composed

theorem stunAttrAddIntegrityStr_full (message : MessageAt b pos len)
    (full : maxStunMessageSize ≤ grownLength len Server.sha1SizeBytes) :
    stunAttrAddIntegrityStr hmac b pos len = (b, len) := by
  unfold stunAttrAddIntegrityStr
  rw [message.room, if_pos full]

theorem stunAttrAddIntegrityStr_room (message : MessageAt b pos len) (aligned : len % 4 = 0)
    (room : grownLength len Server.sha1SizeBytes < maxStunMessageSize) :
    ∃ value : List UInt8, value.length = Server.sha1SizeBytes ∧
      stunAttrAddIntegrityStr hmac b pos len = stunAttrAddBytes b pos len stunAttributeMessageIntegrity value ∧
      value = (hmac (((stunAttrAddBytes b pos len stunAttributeMessageIntegrity value).1.view pos).slice 0 len) ++
        List.replicate Server.sha1SizeBytes 0).take Server.sha1SizeBytes := by
  have grown : grownLength len Server.sha1SizeBytes = len + 24 := roundUp4_add (len + 4) 20 (by omega)
  have zeros : (List.replicate Server.sha1SizeBytes (0 : UInt8)).length = Server.sha1SizeBytes := List.length_replicate
  let made := (stunAttrAddBytes b pos len stunAttributeMessageIntegrity (List.replicate Server.sha1SizeBytes 0)).1
  let value := (hmac ((made.view pos).slice 0 len) ++ List.replicate Server.sha1SizeBytes 0).take Server.sha1SizeBytes
  have long : value.length = Server.sha1SizeBytes := by simp [value]
  have fits : grownLength len value.length < maxStunMessageSize := by
    rw [long]
    exact room
  have place : pos + grownLength len Server.sha1SizeBytes - Server.sha1SizeBytes = pos + len + 4 := by
    rw [grown]
    show pos + (len + 24) - 20 = pos + len + 4
    omega
  have covered : grownLength len Server.sha1SizeBytes - 4 - Server.sha1SizeBytes = len := by
    rw [grown]
    show len + 24 - 4 - 20 = len
    omega
  have written : stunAttrAddIntegrityStr hmac b pos len =
      (made.write (pos + len + 4) value, grownLength len Server.sha1SizeBytes) := by
    unfold stunAttrAddIntegrityStr
    rw [message.room, if_neg (Nat.not_le.mpr room)]
    dsimp only
    rw [covered, place]
  have length := stunAttrAddBytes_length message stunAttributeMessageIntegrity value fits
  rw [long] at length
  refine ⟨value, long, ?_, ?_⟩
  · rw [written, stunAttrAddBytes_overwrite message stunAttributeMessageIntegrity (zeros.trans long.symm) fits, ← length]
  · rw [stunAttrAddBytes_before message stunAttributeMessageIntegrity (zeros.trans long.symm) fits]

theorem stunAttrAddIntegrityStr_eq (message : MessageAt b pos len) (aligned : len % 4 = 0) :
    ∃ value : List UInt8, stunAttrAddIntegrityStr hmac b pos len =
      stunAttrAddBytes b pos len stunAttributeMessageIntegrity value := by
  rcases Nat.lt_or_ge (grownLength len Server.sha1SizeBytes) maxStunMessageSize with room | full
  · obtain ⟨value, _, added, _⟩ := stunAttrAddIntegrityStr_room hmac message aligned room
    exact ⟨value, added⟩
  · refine ⟨List.replicate Server.sha1SizeBytes 0, ?_⟩
    rw [stunAttrAddIntegrityStr_full hmac message full]
    unfold stunAttrAddBytes
    rw [List.length_replicate, message.room, if_pos full]

theorem appending_integrity : Appending (stunAttrAddIntegrityStr hmac) := by
  intro b pos len attrs composed
  obtain ⟨value, same⟩ := stunAttrAddIntegrityStr_eq hmac composed.message composed.aligned
  rw [same]
  exact appending_bytes stunAttributeMessageIntegrity value composed

namespace Server

/-- A response in the making. `calls` notes, for each call that adds an attribute, the
length it was told and the length that the header of the message had; no code reads it. -/
structure Draft where
  nbh : StunBuffer
  calls : List (Nat × Nat)

namespace Draft

def messageLen (d : Draft) : Nat := (net16 (d.nbh.view d.nbh.data) 2).toNat + stunHeaderLength

/-- A `stun_init_*` call; it does not read `len`. -/
def init (d : Draft) (messageType : UInt16) (tid : List UInt8) (cookie : UInt32) : Draft × Nat :=
  let (nbh, len) := oldStunInitCommandStr messageType d.nbh d.nbh.data tid cookie
  ({ d with nbh := nbh }, len)

/-- A `stun_attr_add_*` call. -/
def add (d : Draft) (len : Nat) (call : StunBuffer → Nat → Nat → StunBuffer × Nat) : Draft × Nat :=
  let (nbh, len') := call d.nbh d.nbh.data len
  (⟨nbh, d.calls ++ [(len, d.messageLen)]⟩, len')

def addStr (d : Draft) (len : Nat) (attr : UInt16) (value : List UInt8) : Draft × Nat :=
  d.add len (fun b pos len => stunAttrAddBytes b pos len attr value)

def addAddr (mapping : AddrMapping) (d : Draft) (len : Nat) (attr : UInt16) (ca : IoaAddr) : Draft × Nat :=
  d.add len (fun b pos len => stunAttrAddAddrStr mapping b pos len attr ca)

def addIntegrity (hmac : List UInt8 → List UInt8) (d : Draft) (len : Nat) : Draft × Nat :=
  d.add len (stunAttrAddIntegrityStr hmac)

def addFingerprint (nsCrc32 : List UInt8 → UInt32) (d : Draft) (len : Nat) : Draft × Nat :=
  d.add len (stunAttrAddFingerprintStr nsCrc32)

def setSize (d : Draft) (len : Nat) : Draft := { d with nbh := d.nbh.setSize len }

/-- A well-formed message, 14 bytes into the buffer, and every attribute was added at its end. -/
structure WellFormed (d : Draft) : Prop where
  place : d.nbh.data = stunChannelHeaderLength + stunCustomHeaderLen
  length : d.nbh.len = stunHeaderLength + (net16 (d.nbh.view d.nbh.data) 2).toNat
  walk : attrsEnd (d.nbh.view d.nbh.data) d.nbh.len = d.nbh.len
  calls : ∀ call ∈ d.calls, call.1 = call.2

/-- A buffer in which no call was wrong so far. -/
structure Clean (d : Draft) : Prop where
  offset : d.nbh.offset = 0
  coffset : d.nbh.coffset = 0
  calls : ∀ call ∈ d.calls, call.1 = call.2

/-- `len` is the length of the message as it stands. -/
structure Growing (d : Draft) (len : Nat) : Prop where
  clean : d.Clean
  composed : ∃ attrs, Composed d.nbh d.nbh.data len attrs

/-- The buffer knows the length of its message. -/
def Settled (d : Draft) : Prop := d.Growing d.nbh.len

/-- Some attribute was added elsewhere than at the end of the message. -/
def Spoiled (d : Draft) : Prop := ∃ call ∈ d.calls, call.1 ≠ call.2

variable {d : Draft} {len : Nat}

theorem Growing.messageLen (growing : d.Growing len) : d.messageLen = len := by
  obtain ⟨_, composed⟩ := growing.composed
  exact composed.message.2

theorem Growing.small (growing : d.Growing len) : len < 2 ^ 64 := by
  have announced := growing.messageLen
  have word := (net16 (d.nbh.view d.nbh.data) 2).toNat_lt
  have header : stunHeaderLength = 20 := rfl
  unfold Draft.messageLen at announced
  omega

theorem Clean.init (clean : d.Clean) (messageType : UInt16) (tid : List UInt8) (cookie : UInt32) :
    (d.init messageType tid cookie).1.Growing (d.init messageType tid cookie).2 where
  clean := ⟨clean.offset, clean.coffset, clean.calls⟩
  composed := ⟨[], oldStunInitCommandStr_message messageType d.nbh d.nbh.data tid cookie, rfl, show 20 % 4 = 0 from rfl⟩

theorem Growing.add (growing : d.Growing len) {call : StunBuffer → Nat → Nat → StunBuffer × Nat}
    (appending : Appending call) : (d.add len call).1.Growing (d.add len call).2 := by
  obtain ⟨attrs, composed⟩ := growing.composed
  obtain ⟨added, offset, coffset⟩ := appending composed
  have data : (call d.nbh d.nbh.data len).1.data = d.nbh.data := StunBuffer.data_congr offset coffset
  refine ⟨⟨offset.trans growing.clean.offset, coffset.trans growing.clean.coffset, ?_⟩, ?_⟩
  · intro c member
    rcases List.mem_append.mp member with earlier | last
    · exact growing.clean.calls c earlier
    · rw [List.mem_singleton.mp last]
      exact growing.messageLen.symm
  · obtain ⟨attrs', composed'⟩ := added
    refine ⟨attrs', ?_⟩
    show Composed (call d.nbh d.nbh.data len).1 (call d.nbh d.nbh.data len).1.data (call d.nbh d.nbh.data len).2 attrs'
    rw [data]
    exact composed'

theorem Growing.resize (growing : d.Growing len) : (d.setSize len).Growing len := by
  obtain ⟨attrs, composed⟩ := growing.composed
  have same : SameBetween d.nbh (d.setSize len).nbh 0 (d.nbh.data + len) := fun _ _ _ => ⟨rfl, rfl⟩
  exact ⟨⟨growing.clean.offset, growing.clean.coffset, growing.clean.calls⟩, attrs, composed.message,
    composed.laid.of_same same (Nat.zero_le _), composed.aligned⟩

theorem Growing.setSize (growing : d.Growing len) : (d.setSize len).Settled := by
  have size : (d.setSize len).nbh.len = len := Nat.mod_eq_of_lt growing.small
  unfold Settled
  rw [size]
  exact growing.resize

theorem Settled.wellFormed (settled : d.Settled) : d.WellFormed := by
  obtain ⟨attrs, composed⟩ := settled.composed
  refine ⟨?_, ?_, composed.attrsEnd_eq, settled.clean.calls⟩
  · unfold StunBuffer.data StunBuffer.dataOrigin
    rw [settled.clean.offset, settled.clean.coffset]
    rfl
  · rw [← settled.messageLen, messageLen, Nat.add_comm]

theorem Spoiled.not_wellFormed (spoiled : d.Spoiled) : ¬ d.WellFormed := by
  obtain ⟨call, member, wrong⟩ := spoiled
  exact fun wellFormed => wrong (wellFormed.calls call member)

theorem Spoiled.add (spoiled : d.Spoiled) (len : Nat) (call : StunBuffer → Nat → Nat → StunBuffer × Nat) :
    (d.add len call).1.Spoiled := by
  obtain ⟨noted, member, wrong⟩ := spoiled
  exact ⟨noted, List.mem_append_left _ member, wrong⟩

theorem Spoiled.setSize (spoiled : d.Spoiled) (len : Nat) : (d.setSize len).Spoiled := spoiled

/-- `ioa_network_buffer_get_size` of a finished message is 14 bytes short, so the next attribute goes astray. -/
theorem Settled.spoil (settled : d.Settled) (call : StunBuffer → Nat → Nat → StunBuffer × Nat) :
    (d.add d.nbh.getSize call).1.Spoiled := by
  obtain ⟨attrs, composed⟩ := settled.composed
  have long : 20 ≤ d.nbh.len := composed.message.1
  have small := settled.small
  refine ⟨(d.nbh.getSize, d.messageLen), List.mem_append_right _ (List.mem_singleton.mpr rfl), ?_⟩
  show d.nbh.getSize ≠ d.messageLen
  have short : d.nbh.getSize = (d.nbh.len + 2 ^ 64 - 14) % 2 ^ 64 := rfl
  rw [settled.messageLen]
  omega

end Draft
end Server
end TurnCluster
