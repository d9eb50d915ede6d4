import TurnCluster.Lib.BucketMap
import TurnCluster.Lib.Service
import TurnCluster.Listener.Sockets

namespace TurnCluster
namespace Listener

/-- A call of a `ur_addr_map`. -/
inductive AddrCall
  | put (key : IoaAddr) (value : Nat)
  | get (key : IoaAddr)
  | del (key : IoaAddr)
  deriving DecidableEq

/-- The key is an IPv4 or IPv6 address, and a value that is stored is not zero. -/
def AddrCall.Usable : AddrCall → Prop
  | .put key value => key.family ≠ .unspec ∧ value ≠ 0
  | .get key => key.family ≠ .unspec
  | .del key => key.family ≠ .unspec

instance : (c : AddrCall) → Decidable c.Usable
  | .put _ _ => inferInstanceAs (Decidable (_ ∧ _))
  | .get _ => inferInstanceAs (Decidable (_ ≠ _))
  | .del _ => inferInstanceAs (Decidable (_ ≠ _))

/-- `ur_addr_map_num_elements`: `addr_list_num_elements` of each row. -/
def urAddrMapNumElements (map : UrAddrMap) : Nat :=
  ((List.range addrMapSize).map (fun row => Buckets.countUsed (map row))).sum

/-- The values on which `addr_list_remove` calls the delete function, one for each slot that it clears. -/
def urAddrMapDeleted (map : UrAddrMap) (key : IoaAddr) : List Nat :=
  Buckets.removed addrEq key (map (addrMapIndex key))

def addrCall : Service UrAddrMap AddrCall (MapAnswer Nat)
  | map, .put key value => (urAddrMapPut map key value, ⟨0, none, 0, urAddrMapNumElements (urAddrMapPut map key value)⟩)
  | map, .get key => (map, ⟨foundCode (urAddrMapGet map key), urAddrMapGet map key, 0, urAddrMapNumElements map⟩)
  | map, .del key =>
    (urAddrMapDel map key,
      ⟨if 0 < (urAddrMapDeleted map key).length then 1 else 0, none, urAddrMapDeleted map key,
        urAddrMapNumElements (urAddrMapDel map key)⟩)

/-- What `addr_eq` compares: family, IP and port. -/
abbrev AddrKey := (Family × UInt32 × List UInt8) × UInt16

def addrKey (addr : IoaAddr) : AddrKey := (ipKey addr, addr.port)

/-- The finite map that a `ur_addr_map` is meant to be: an entry replaces the one of the same address, and a removed
value is handed to the delete function. -/
def finiteAddrCall : Service (FiniteMap AddrKey Nat) AddrCall (MapAnswer Nat)
  | m, .put key value =>
    (m.insert (addrKey key) value, ⟨0, none, 0, (m.insert (addrKey key) value).keys.card⟩)
  | m, .get key => (m, ⟨foundCode (m.lookup (addrKey key)), m.lookup (addrKey key), 0, m.keys.card⟩)
  | m, .del key =>
    (m.erase (addrKey key),
      ⟨foundCode (m.lookup (addrKey key)), none, (m.lookup (addrKey key)).toList, (m.erase (addrKey key)).keys.card⟩)

theorem addrEq_iff_addrKey {a b : IoaAddr} (known : a.family ≠ .unspec) : addrEq a b = true ↔ addrKey a = addrKey b := by
  unfold addrEq addrKey ipKey
  cases familyA : a.family <;> cases familyB : b.family <;> simp_all [and_comm]

theorem addr_keying : Buckets.Keying addrEq addrMapIndex addrKey (fun addr => addr.family ≠ .unspec) addrMapSize where
  same_iff known _ := addrEq_iff_addrKey known
  index_eq known _ equal := by
    unfold addrMapIndex
    rw [addrHash_congr ((addrEq_iff_addrKey known).mpr equal)]
  inside _ := Nat.mod_lt _ (by decide)

/-- The entries of the map are those of the finite map, each in the row of its address. -/
abbrev AddrMapRepresents (map : UrAddrMap) (m : FiniteMap AddrKey Nat) : Prop :=
  Buckets.Represents addrMapIndex addrKey (fun addr => addr.family ≠ .unspec) addrMapSize map m

theorem addrMapRepresents_init : AddrMapRepresents urAddrMapInit ∅ := by
  refine .empty ?_
  intro row slot member
  rw [List.eq_of_mem_replicate member]

theorem numElements_eq {map : UrAddrMap} {m : FiniteMap AddrKey Nat} (represents : AddrMapRepresents map m) :
    urAddrMapNumElements map = m.keys.card :=
  represents.card

theorem length_toList_pos (value : Option Nat) : (if 0 < value.toList.length then 1 else 0) = foundCode value := by
  cases value <;> rfl

theorem addrCall_simulates :
    Service.Simulates addrCall finiteAddrCall AddrCall.Usable (fun _ _ => True) AddrMapRepresents where
  call {map m c} represents usable _ := by
    cases c with
    | put key value =>
      have stored := represents.put addr_keying usable.1 usable.2
      refine ⟨stored, ?_⟩
      simp only [addrCall, finiteAddrCall]
      rw [← numElements_eq stored]
      rfl
    | get key =>
      refine ⟨represents, ?_⟩
      simp only [addrCall, finiteAddrCall, represents.lookup addr_keying usable, numElements_eq represents]
      rfl
    | del key =>
      obtain ⟨left, deleted⟩ := represents.del addr_keying usable
      refine ⟨left, ?_⟩
      have taken : urAddrMapDeleted map key = (m.lookup (addrKey key)).toList := deleted
      simp only [addrCall, finiteAddrCall, taken, length_toList_pos]
      rw [← numElements_eq left]
      rfl

/-- The answers of a `ur_addr_map` to any history of calls are those of a finite map with addresses as keys; the
delete function gets the removed value, once. -/
theorem addr_map_refines (calls : List AddrCall) (usable : ∀ c ∈ calls, c.Usable) :
    Service.trace addrCall urAddrMapInit calls = Service.trace finiteAddrCall ∅ calls :=
  (addrCall_simulates.run addrMapRepresents_init usable (Service.along_true _ _)).2

/-- Two addresses with one hash; the first one is entered again and then removed. -/
theorem addr_map_refines_collision :
    let first := IoaAddr.inet 1 2
    let second := IoaAddr.inet 2 1
    let calls : List AddrCall := [.put first 5, .put second 6, .put first 7, .del first, .get first, .get second]
    addrMapIndex first = addrMapIndex second ∧ (∀ c ∈ calls, c.Usable) ∧
      Service.trace addrCall urAddrMapInit calls = Service.trace finiteAddrCall ∅ calls :=
  ⟨by decide, by decide, addr_map_refines _ (by decide)⟩

end Listener
end TurnCluster
