import TurnCluster.Listener.Sockets

namespace TurnCluster
namespace Listener

open Buckets

/-- Every entry of the map leads to an open socket that knows the map and was
made for the address it is filed under. -/
def MapConsistent (l : RelayServer) : Prop :=
  ∀ key handle, Holds l.childrenSs key handle →
    (l.sockets handle).Open ∧ (l.sockets handle).contained = true ∧ (l.sockets handle).createdFor = key

/-- The entries of a socket are still filed under its remote address. -/
def FiledUnderRemote (l : RelayServer) (handle : SocketHandle) : Prop :=
  ∀ key, Holds l.childrenSs key handle → addrEq key (l.sockets handle).remoteAddr = true

/-- A socket leaves the map only while its remote address is the one it is filed under. -/
def LeavesFiled (l : RelayServer) : Event → Prop
  | .close handle => FiledUnderRemote l handle
  | .detach handle _ => (l.sockets handle).toBeClosed = false → FiledUnderRemote l handle
  | _ => True

structure Consistent (l : RelayServer) : Prop where
  placed : Placed addrMapIndex l.childrenSs
  entries : MapConsistent l

theorem addrMapIndex_congr (a b : IoaAddr) (same : addrEq a b = true) : addrMapIndex a = addrMapIndex b := by
  unfold addrMapIndex
  rw [addrHash_congr same]

variable {l : RelayServer} {handle fresh other : SocketHandle} {guard : RelayServer → Event → Prop} {key : IoaAddr}

theorem holds_urAddrMapDel {map : UrAddrMap} {key' : IoaAddr} (placed : Placed addrMapIndex map)
    (holds : Holds (urAddrMapDel map key) key' handle) : Holds map key' handle ∧ addrEq key' key = false :=
  holds_del addrMapIndex_congr placed holds

theorem setSocket_self (l : RelayServer) (handle : SocketHandle) (s : IoaSocket) :
    (setSocket l handle s).sockets handle = s := by
  simp [setSocket]

theorem setSocket_of_ne (l : RelayServer) (s : IoaSocket) (ne : other ≠ handle) :
    (setSocket l handle s).sockets other = l.sockets other := by
  simp [setSocket, ne]

/-- Two states of a socket that differ in nothing the map depends on. -/
def Alike (s s' : IoaSocket) : Prop :=
  s'.magic = s.magic ∧ s'.done = s.done ∧ s'.contained = s.contained ∧ s'.createdFor = s.createdFor

theorem Consistent.shrink {l' : RelayServer} (consistent : Consistent l) (placed : Placed addrMapIndex l'.childrenSs)
    (kept : ∀ key handle, Holds l'.childrenSs key handle →
      Holds l.childrenSs key handle ∧ Alike (l.sockets handle) (l'.sockets handle)) : Consistent l' := by
  refine ⟨placed, ?_⟩
  intro key handle holds
  obtain ⟨before, magic, done, contained, createdFor⟩ := kept key handle holds
  obtain ⟨isOpen, inMap, made⟩ := consistent.entries key handle before
  refine ⟨?_, contained.trans inMap, createdFor.trans made⟩
  unfold IoaSocket.Open
  rw [magic, done]
  exact isOpen

theorem Consistent.setSocket (consistent : Consistent l) {s : IoaSocket} (alike : Alike (l.sockets handle) s) :
    Consistent (setSocket l handle s) := by
  refine consistent.shrink consistent.placed ?_
  intro key other holds
  refine ⟨holds, ?_⟩
  by_cases same : other = handle
  · subst same
    rw [setSocket_self]
    exact alike
  · rw [setSocket_of_ne l s same]
    exact ⟨rfl, rfl, rfl, rfl⟩

/-- The map after a socket has left it. -/
def mapWithout (l : RelayServer) (handle : SocketHandle) : UrAddrMap :=
  if (l.sockets handle).contained = true then urAddrMapDel l.childrenSs (l.sockets handle).remoteAddr
  else l.childrenSs

theorem mapWithout_placed (consistent : Consistent l) (handle : SocketHandle) :
    Placed addrMapIndex (mapWithout l handle) := by
  unfold mapWithout
  split
  · exact consistent.placed.del
  · exact consistent.placed

theorem mapWithout_holds (consistent : Consistent l) (holds : Holds (mapWithout l handle) key other) :
    Holds l.childrenSs key other := by
  unfold mapWithout at holds
  split at holds
  · exact (holds_urAddrMapDel consistent.placed holds).1
  · exact holds

theorem mapWithout_gone (consistent : Consistent l) (filed : FiledUnderRemote l handle) (key : IoaAddr) :
    ¬ Holds (mapWithout l handle) key handle := by
  intro holds
  have before := mapWithout_holds consistent holds
  have inMap := (consistent.entries key handle before).2.1
  unfold mapWithout at holds
  rw [if_pos inMap] at holds
  have differs := (holds_urAddrMapDel consistent.placed holds).2
  rw [filed key before] at differs
  cases differs

theorem deleteSocketFromMap_childrenSs (l : RelayServer) (handle : SocketHandle) :
    (deleteSocketFromMap l handle).childrenSs = mapWithout l handle := by
  unfold deleteSocketFromMap mapWithout
  dsimp only
  split <;> rfl

theorem deleteSocketFromMap_of_ne (l : RelayServer) (ne : other ≠ handle) :
    (deleteSocketFromMap l handle).sockets other = l.sockets other := by
  unfold deleteSocketFromMap
  dsimp only
  split
  · exact setSocket_of_ne _ _ ne
  · rfl

theorem mapWithout_setSocket (l : RelayServer) {s : IoaSocket}
    (contained : s.contained = (l.sockets handle).contained)
    (remoteAddr : s.remoteAddr = (l.sockets handle).remoteAddr) :
    mapWithout (setSocket l handle s) handle = mapWithout l handle := by
  unfold mapWithout
  rw [setSocket_self, contained, remoteAddr]
  rfl

theorem closeIoaSocket_childrenSs (isOpen : (l.sockets handle).Open) :
    (closeIoaSocket l handle).childrenSs = mapWithout l handle := by
  unfold closeIoaSocket
  rw [if_neg (by simp [isOpen.1, isOpen.2])]
  exact (deleteSocketFromMap_childrenSs _ handle).trans (mapWithout_setSocket l rfl rfl)

theorem closeIoaSocket_of_ne (l : RelayServer) (ne : other ≠ handle) :
    (closeIoaSocket l handle).sockets other = l.sockets other := by
  unfold closeIoaSocket
  split
  · rfl
  · dsimp only
    rw [setSocket_of_ne _ _ ne, deleteSocketFromMap_of_ne _ ne, setSocket_of_ne _ _ ne]

theorem detachIoaSocket_childrenSs (fresh : SocketHandle) (active : (l.sockets handle).toBeClosed = false) :
    (detachIoaSocket l handle fresh).childrenSs = mapWithout l handle := by
  unfold detachIoaSocket
  dsimp only
  rw [if_neg (by simp [active])]
  exact (deleteSocketFromMap_childrenSs _ handle).trans (mapWithout_setSocket l rfl rfl)

theorem detachIoaSocket_of_ne (l : RelayServer) (ne : other ≠ handle) (old : other ≠ fresh) :
    (detachIoaSocket l handle fresh).sockets other = l.sockets other := by
  unfold detachIoaSocket
  dsimp only
  split
  · rfl
  · rw [setSocket_of_ne _ _ old, setSocket_of_ne _ _ ne, deleteSocketFromMap_of_ne _ ne, setSocket_of_ne _ _ ne]

theorem Consistent.close (consistent : Consistent l) (isOpen : (l.sockets handle).Open)
    (filed : FiledUnderRemote l handle) : Consistent (closeIoaSocket l handle) := by
  have left := closeIoaSocket_childrenSs isOpen
  refine consistent.shrink (left ▸ mapWithout_placed consistent handle) ?_
  intro key other holds
  rw [left] at holds
  have ne : other ≠ handle := by
    rintro rfl
    exact mapWithout_gone consistent filed key holds
  rw [closeIoaSocket_of_ne l ne]
  exact ⟨mapWithout_holds consistent holds, rfl, rfl, rfl, rfl⟩

theorem Consistent.detach (consistent : Consistent l) (free : Free l fresh)
    (filed : (l.sockets handle).toBeClosed = false → FiledUnderRemote l handle) :
    Consistent (detachIoaSocket l handle fresh) := by
  by_cases active : (l.sockets handle).toBeClosed = false
  · have left := detachIoaSocket_childrenSs fresh active
    refine consistent.shrink (left ▸ mapWithout_placed consistent handle) ?_
    intro key other holds
    rw [left] at holds
    have before := mapWithout_holds consistent holds
    have ne : other ≠ handle := by
      rintro rfl
      exact mapWithout_gone consistent (filed active) key holds
    have old : other ≠ fresh := by
      rintro rfl
      exact free.2 (consistent.entries key other before).1
    rw [detachIoaSocket_of_ne l ne old]
    exact ⟨before, rfl, rfl, rfl, rfl⟩
  · rw [Bool.not_eq_false] at active
    unfold detachIoaSocket
    dsimp only
    rw [if_pos active]
    exact consistent

theorem Consistent.newSocket (consistent : Consistent l) (free : Free l fresh) (srcAddr : IoaAddr) (handshake : Bool) :
    Consistent (newSocket l fresh srcAddr handshake) := by
  have absent : ∀ key other, Holds (urAddrMapDel l.childrenSs srcAddr) key other → addrEq key srcAddr = false :=
    fun _ _ holds => (holds_urAddrMapDel consistent.placed holds).2
  have childrenSs : (Listener.newSocket l fresh srcAddr handshake).childrenSs =
      urAddrMapPut (urAddrMapDel l.childrenSs srcAddr) srcAddr fresh := by
    simp [Listener.newSocket, addSocketToMap, Listener.setSocket, createIoaSocketFromFd]
  have made : (Listener.newSocket l fresh srcAddr handshake).sockets fresh =
      { createIoaSocketFromFd handshake srcAddr l.addr with contained := true } := by
    simp [Listener.newSocket, addSocketToMap, Listener.setSocket, createIoaSocketFromFd]
  have others : ∀ other, other ≠ fresh →
      (Listener.newSocket l fresh srcAddr handshake).sockets other = l.sockets other := by
    intro other ne
    simp [Listener.newSocket, addSocketToMap, Listener.setSocket, createIoaSocketFromFd, ne]
  refine ⟨?_, ?_⟩
  · rw [childrenSs]
    exact consistent.placed.del.put absent free.1
  · intro key handle holds
    rw [childrenSs] at holds
    rcases holds_put absent free.1 holds with ⟨rfl, rfl⟩ | old
    · rw [made]
      exact ⟨⟨rfl, rfl⟩, rfl, rfl⟩
    · have before := consistent.entries key handle (holds_urAddrMapDel consistent.placed old).1
      have ne : handle ≠ fresh := by
        rintro rfl
        exact free.2 before.1
      rw [others handle ne]
      exact before

theorem Consistent.existingSocket (consistent : Consistent l) {srcAddr : IoaAddr}
    (found : urAddrMapGet l.childrenSs srcAddr = some handle) (sslFails : Bool) :
    Consistent (existingSocket l handle srcAddr sslFails) := by
  unfold Listener.existingSocket
  split
  · obtain ⟨filed, holds, matched⟩ := holds_of_get found
    have entry := consistent.entries filed handle holds
    have left := closeIoaSocket_childrenSs entry.1
    have placed : Placed addrMapIndex (closeIoaSocket l handle).childrenSs := left ▸ mapWithout_placed consistent handle
    refine consistent.shrink placed.del ?_
    intro key other still
    obtain ⟨stays, differs⟩ := holds_urAddrMapDel placed still
    have before := mapWithout_holds consistent (left ▸ stays)
    have ne : other ≠ handle := by
      rintro rfl
      have same : filed = key := entry.2.2.symm.trans (consistent.entries key other before).2.2
      rw [← same, matched] at differs
      cases differs
    show Holds l.childrenSs key other ∧ Alike (l.sockets other) ((closeIoaSocket l handle).sockets other)
    rw [closeIoaSocket_of_ne l ne]
    exact ⟨before, rfl, rfl, rfl, rfl⟩
  · exact consistent

theorem Consistent.packet (consistent : Consistent l) (free : Free l fresh) (srcAddr : IoaAddr)
    (handshake sslFails : Bool) : Consistent (handleUdpPacket l srcAddr fresh handshake sslFails) := by
  unfold handleUdpPacket
  split
  · rename_i chs found
    dsimp only
    split
    · exact consistent.existingSocket found sslFails
    · exact consistent.newSocket free srcAddr handshake
  · exact consistent.newSocket free srcAddr handshake

theorem Consistent.reply (consistent : Consistent l) (handle : SocketHandle) (bandwidth sendFails : Bool) :
    Consistent (sendDataFromIoaSocketNbh l handle bandwidth sendFails) := by
  unfold sendDataFromIoaSocketNbh
  dsimp only
  split
  · exact consistent
  · split
    · exact consistent.setSocket ⟨rfl, rfl, rfl, rfl⟩
    · exact consistent.setSocket ⟨rfl, rfl, rfl, rfl⟩

theorem Consistent.step (consistent : Consistent l) {e : Event} (enabled : Enabled l e) (leaves : LeavesFiled l e) :
    Consistent (step l e) := by
  cases e with
  | packet sender header fresh handshake sslFails => exact consistent.packet enabled.2 _ handshake sslFails
  | reply handle bandwidth sendFails => exact consistent.reply handle bandwidth sendFails
  | resume handle header => exact consistent.setSocket ⟨rfl, rfl, rfl, rfl⟩
  | condemn handle => exact consistent.setSocket ⟨rfl, rfl, rfl, rfl⟩
  | detach handle fresh => exact consistent.detach enabled.2 leaves
  | close handle => exact consistent.close enabled leaves

theorem Consistent.init (addr : IoaAddr) : Consistent (initListener addr) := by
  have empty : ∀ row, ∀ slot ∈ (initListener addr).childrenSs row, slot.value = 0 := by
    intro row slot member
    rw [List.eq_of_mem_replicate member]
  refine ⟨fun row slot member used => absurd (empty row slot member) used, ?_⟩
  intro key handle holds
  obtain ⟨used, row, member⟩ := holds
  exact absurd (empty row _ member) used

theorem consistent_of_reach (reach : machine.Reach LeavesFiled l) : Consistent l := by
  refine reach.invariant ?_ ?_
  · rintro s ⟨addr, rfl⟩
    exact .init addr
  · intro s s' e o consistent enabled leaves run
    cases Option.some.inj run
    exact consistent.step enabled leaves

/-- In every run in which sockets leave the map only while their remote address
is the one they are filed under, the map is consistent, and no entry leads to a closed socket. -/
theorem children_map_consistent {l : RelayServer} (reach : machine.Reach LeavesFiled l) :
    MapConsistent l ∧ ∀ handle, ¬ (l.sockets handle).Open → ∀ key, ¬ Holds l.childrenSs key handle := by
  have consistent := consistent_of_reach reach
  refine ⟨consistent.entries, ?_⟩
  intro handle closed key holds
  exact closed (consistent.entries key handle holds).1

/-- The listener at 10.0.0.1, and a packet that names the client 10.0.0.2:5000. -/
def exampleListener : RelayServer := initListener (.inet 0x0100000A 0)
def exampleClient : IoaAddr := .inet 0x0200000A 5000
def examplePacket : Event := .packet (.inet 0x0100000A 44070) ⟨0, 0x0200000A, nswap16 5000, 0, 0⟩ 1 false false

theorem reach_step (reach : machine.Reach guard l) (e : Event) (enabled : Enabled l e) (allowed : guard l e) :
    machine.Reach guard (step l e) :=
  .next (e := e) reach enabled allowed rfl

theorem reach_examplePacket (allowed : guard exampleListener examplePacket) :
    machine.Reach guard (step exampleListener examplePacket) :=
  reach_step (.start ⟨_, rfl⟩) examplePacket ⟨by decide, by decide⟩ allowed

/-- A client sends a packet and its socket is closed before anything is sent to it. -/
theorem children_map_consistent_unanswered :
    FiledUnderRemote (step exampleListener examplePacket) 1 ∧
      MapConsistent (step (step exampleListener examplePacket) (.close 1)) := by
  have reach : machine.Reach LeavesFiled (step exampleListener examplePacket) := reach_examplePacket trivial
  have filed : FiledUnderRemote (step exampleListener examplePacket) 1 := by
    intro key holds
    rw [← ((consistent_of_reach reach).entries key 1 holds).2.2]
    decide
  have isOpen : ((step exampleListener examplePacket).sockets 1).Open := by decide
  exact ⟨filed, (children_map_consistent (reach_step reach (.close 1) isOpen filed)).1⟩

/-- One reply is enough for the entry to outlive the socket. -/
theorem answered_socket_stays_in_map :
    ¬ ∀ l, machine.Reach (fun _ _ => True) l → MapConsistent l := by
  intro claimed
  have isOpen : ((step exampleListener examplePacket).sockets 1).Open := by decide
  have first : machine.Reach (fun _ _ => True) (step exampleListener examplePacket) := reach_examplePacket trivial
  have answered := reach_step first (.reply 1 true false) isOpen trivial
  have stillOpen : ((step (step exampleListener examplePacket) (.reply 1 true false)).sockets 1).Open := by decide
  have consistent := claimed _ (reach_step answered (.close 1) stillOpen trivial)
  have found : urAddrMapGet
      (step (step (step exampleListener examplePacket) (.reply 1 true false)) (.close 1)).childrenSs
      exampleClient = some 1 := by decide
  obtain ⟨key, holds, -⟩ := holds_of_get found
  have closed : ¬ ((step (step (step exampleListener examplePacket) (.reply 1 true false))
      (.close 1)).sockets 1).Open := by decide
  exact closed (consistent key 1 holds).1

end Listener
end TurnCluster
