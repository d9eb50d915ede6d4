import TurnCluster.Lib.Buckets
import TurnCluster.Lib.Run
import TurnCluster.Proxy.Header

namespace TurnCluster
namespace Listener

def addrMapSize : Nat := 1024
def addrArraySize : Nat := 4

/-- `addr_map_index`. -/
def addrMapIndex (key : IoaAddr) : Nat := (addrHash key).toNat % addrMapSize

/-- `ur_addr_map`: the four slots of a row first, the extra ones behind them. -/
abbrev UrAddrMap := Buckets IoaAddr

def urAddrMapInit : UrAddrMap := fun _ => List.replicate addrArraySize ⟨.any, 0⟩

def urAddrMapGet (map : UrAddrMap) (key : IoaAddr) : Option Nat := Buckets.get addrEq addrMapIndex map key
def urAddrMapPut (map : UrAddrMap) (key : IoaAddr) (value : Nat) : UrAddrMap :=
  Buckets.put addrEq addrMapIndex map key value
def urAddrMapDel (map : UrAddrMap) (key : IoaAddr) : UrAddrMap := Buckets.del addrEq addrMapIndex map key

/-- A pointer to a socket. -/
abbrev SocketHandle := Nat

/-- What the listener, the send path and the close path use of `ioa_socket`. -/
structure IoaSocket where
  /-- `magic == SOCKET_MAGIC`. -/
  magic : Bool
  done : Bool
  toBeClosed : Bool
  ssl : Bool
  /-- `parent_s` is set, and with it the descriptor of the listener. -/
  child : Bool
  /-- `sockets_container` is the map of the listener. -/
  contained : Bool
  remoteAddr : IoaAddr
  localAddr : IoaAddr
  /-- The client the socket was made for; no code reads it. -/
  createdFor : IoaAddr
  deriving DecidableEq, Repr

/-- Memory that holds no socket. -/
def IoaSocket.freed : IoaSocket := ⟨false, true, false, false, false, false, .any, .any, .any⟩

def IoaSocket.Open (s : IoaSocket) : Prop := s.magic = true ∧ s.done = false

instance (s : IoaSocket) : Decidable s.Open := inferInstanceAs (Decidable (_ ∧ _))

def ioaSocketToBeClosed (s : IoaSocket) : Bool := !s.magic || s.done || s.toBeClosed

/-- The listener with its map of children and the sockets in memory. Memory that
was freed keeps what was last written to it until it is handed out again. -/
structure RelayServer where
  addr : IoaAddr
  childrenSs : UrAddrMap
  sockets : SocketHandle → IoaSocket

def setSocket (l : RelayServer) (handle : SocketHandle) (s : IoaSocket) : RelayServer :=
  { l with sockets := Function.update l.sockets handle s }

def createIoaSocketFromFd (ssl : Bool) (remoteAddr localAddr : IoaAddr) : IoaSocket :=
  ⟨true, false, false, ssl, true, false, remoteAddr, localAddr, remoteAddr⟩

def deleteSocketFromMap (l : RelayServer) (handle : SocketHandle) : RelayServer :=
  let s := l.sockets handle
  if s.contained = true then
    setSocket { l with childrenSs := urAddrMapDel l.childrenSs s.remoteAddr } handle { s with contained := false }
  else l

def addSocketToMap (l : RelayServer) (handle : SocketHandle) : RelayServer :=
  let s := l.sockets handle
  if s.contained = true then l
  else
    setSocket { l with
      childrenSs := urAddrMapPut (urAddrMapDel l.childrenSs s.remoteAddr) s.remoteAddr handle }
      handle { s with contained := true }

def closeIoaSocket (l : RelayServer) (handle : SocketHandle) : RelayServer :=
  if (l.sockets handle).magic = false ∨ (l.sockets handle).done = true then l
  else
    let l := setSocket l handle { l.sockets handle with done := true }
    let l := deleteSocketFromMap l handle
    setSocket l handle { l.sockets handle with child := false, magic := false }

/-- A packet of a client with a usable socket goes to it. If it is a DTLS socket
and the record cannot be read, the socket is closed. -/
def existingSocket (l : RelayServer) (handle : SocketHandle) (srcAddr : IoaAddr) (sslFails : Bool) : RelayServer :=
  if (l.sockets handle).ssl = true ∧ sslFails = true then
    let l := closeIoaSocket l handle
    { l with childrenSs := urAddrMapDel l.childrenSs srcAddr }
  else l

/-- A packet of a client without one makes a socket, at memory the allocator chooses. -/
def newSocket (l : RelayServer) (fresh : SocketHandle) (srcAddr : IoaAddr) (handshake : Bool) : RelayServer :=
  addSocketToMap (setSocket l fresh (createIoaSocketFromFd handshake srcAddr l.addr)) fresh

def handleUdpPacket (l : RelayServer) (srcAddr : IoaAddr) (fresh : SocketHandle) (handshake sslFails : Bool) :
    RelayServer :=
  match urAddrMapGet l.childrenSs srcAddr with
  | some chs =>
    let s := l.sockets chs
    if ioaSocketToBeClosed s = false ∧ s.contained = true ∧ s.magic = true then existingSocket l chs srcAddr sslFails
    else newSocket l fresh srcAddr handshake
  | none => newSocket l fresh srcAddr handshake

/-- The client that a header names; the family stays that of the sender. -/
def headerAddr (header : StunCustomHeader) (addr : IoaAddr) : IoaAddr :=
  { addr with port := nswap16 header.srcPort, ip4 := header.srcIp }

/-- `udp_server_input_handler` replaces the sender of a datagram by the client its header names. -/
def udpServerInputHandler (l : RelayServer) (sender : IoaAddr) (header : StunCustomHeader) (fresh : SocketHandle)
    (handshake sslFails : Bool) : RelayServer :=
  handleUdpPacket l (headerAddr header sender) fresh handshake sslFails

/-- `send_data_from_ioa_socket_nbh` without a destination: on a child of the
listener that is no DTLS socket, the remote address is overwritten with the proxy's. -/
def sendDataFromIoaSocketNbh (l : RelayServer) (handle : SocketHandle) (bandwidth sendFails : Bool) : RelayServer :=
  let s := l.sockets handle
  if s.done = true ∨ bandwidth = false ∨ ioaSocketToBeClosed s = true then l
  else if s.ssl = true ∨ s.child = false then
    setSocket l handle { s with toBeClosed := s.toBeClosed || sendFails }
  else
    setSocket l handle { s with
      remoteAddr := { s.remoteAddr with family := .inet, port := 44070, ip4 := s.localAddr.ip4 }
      toBeClosed := s.toBeClosed || sendFails }

/-- `resume_processing_after_username_check` writes the client of the request back. -/
def resumeRemoteAddr (l : RelayServer) (handle : SocketHandle) (header : StunCustomHeader) : RelayServer :=
  setSocket l handle { l.sockets handle with remoteAddr := headerAddr header (l.sockets handle).remoteAddr }

def setIoaSocketToBeClosed (l : RelayServer) (handle : SocketHandle) : RelayServer :=
  setSocket l handle { l.sockets handle with toBeClosed := true }

/-- `detach_ioa_socket`, as far as it succeeds: the socket leaves map and parent,
and a new one, with a descriptor of its own, takes its addresses over. -/
def detachIoaSocket (l : RelayServer) (handle fresh : SocketHandle) : RelayServer :=
  let s := l.sockets handle
  if s.toBeClosed = true then l
  else
    let l := setSocket l handle { s with toBeClosed := true }
    let l := deleteSocketFromMap l handle
    let l := setSocket l handle { l.sockets handle with child := false, ssl := false }
    setSocket l fresh ⟨true, false, false, s.ssl, false, false, s.remoteAddr, s.localAddr, s.createdFor⟩

inductive Event
  | packet (sender : IoaAddr) (header : StunCustomHeader) (fresh : SocketHandle) (handshake sslFails : Bool)
  | reply (handle : SocketHandle) (bandwidth sendFails : Bool)
  | resume (handle : SocketHandle) (header : StunCustomHeader)
  | condemn (handle : SocketHandle)
  | detach (handle fresh : SocketHandle)
  | close (handle : SocketHandle)

/-- Memory that the allocator may hand out. -/
def Free (l : RelayServer) (handle : SocketHandle) : Prop := handle ≠ 0 ∧ ¬ (l.sockets handle).Open

instance (l : RelayServer) (handle : SocketHandle) : Decidable (Free l handle) := inferInstanceAs (Decidable (_ ∧ _))

/-- Datagrams come from addresses of a known family, and the server uses only sockets it has open. -/
def Enabled (l : RelayServer) : Event → Prop
  | .packet sender _ fresh _ _ => sender.family ≠ .unspec ∧ Free l fresh
  | .reply handle _ _ => (l.sockets handle).Open
  | .resume handle _ => (l.sockets handle).Open
  | .condemn handle => (l.sockets handle).Open
  | .detach handle fresh => (l.sockets handle).Open ∧ Free l fresh
  | .close handle => (l.sockets handle).Open

def step (l : RelayServer) : Event → RelayServer
  | .packet sender header fresh handshake sslFails => udpServerInputHandler l sender header fresh handshake sslFails
  | .reply handle bandwidth sendFails => sendDataFromIoaSocketNbh l handle bandwidth sendFails
  | .resume handle header => resumeRemoteAddr l handle header
  | .condemn handle => setIoaSocketToBeClosed l handle
  | .detach handle fresh => detachIoaSocket l handle fresh
  | .close handle => closeIoaSocket l handle

def initListener (addr : IoaAddr) : RelayServer := ⟨addr, urAddrMapInit, fun _ => .freed⟩

def machine : Machine RelayServer Event Unit where
  init l := ∃ addr, l = initListener addr
  enabled := Enabled
  next l e := some (step l e, ())

end Listener
end TurnCluster
