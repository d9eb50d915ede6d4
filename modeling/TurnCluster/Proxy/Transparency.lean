import TurnCluster.Listener.Sockets
import TurnCluster.Proxy.Isolation

namespace TurnCluster
namespace Proxy

open StunCustomHeader

/-- A request as a STUN client writes it: the two leading bits are zero. -/
structure IsRequest (buf : Memory) (n : Nat) : Prop where
  header : 20 ≤ n
  stun : (buf 0).toNat < 64
  request : stunIsRequestStr buf n = true

/-- A buffer with a message behind the bytes of a header. -/
structure Framed (header message : List UInt8) (buf : Memory) (n : Nat) : Prop where
  length : n = header.length + message.length
  bytes : buf.slice 0 n = header ++ message

variable {message : List UInt8} {buf : Memory} {header : List UInt8} {n : Nat}

theorem Framed.header_slice (framed : Framed header message buf n) : buf.slice 0 header.length = header := by
  have split := Memory.slice_append buf 0 header.length message.length
  rw [← framed.length, framed.bytes] at split
  exact (List.append_inj_left split (by simp [Memory.slice])).symm

theorem Framed.message_slice (framed : Framed header message buf n) :
    buf.slice header.length message.length = message := by
  have split := Memory.slice_append buf 0 header.length message.length
  rw [← framed.length, framed.bytes, Nat.zero_add] at split
  exact (List.append_inj_right split (by simp [Memory.slice])).symm

theorem Framed.read_eq {header : StunCustomHeader} (framed : Framed header.bytes message buf n) : read buf = header :=
  read_of_bytes framed.header_slice

theorem IsRequest.not_relay (request : IsRequest buf n) : (read buf).isStunExtensionRelayHeader = false := by
  have low := request.stun
  have value : (le16 buf 0).toNat % 256 = (buf 0).toNat := by
    have first := (buf 0).toNat_lt
    rw [le16_toNat]
    omega
  rw [isStunExtensionRelayHeader, beq_eq_false_iff_ne]
  intro same
  change le16 buf 0 = customDataIdentifier at same
  rw [same] at value
  have wanted : customDataIdentifier.toNat % 256 = 128 := by decide
  omega

theorem handlePacketFromClient_sends (cfg : Config) (st : State) (client : Client) (buf : Memory)
    (fits : n + stunCustomHeaderLen < 1500) :
    (handlePacketFromClient cfg st client.ip client.port buf n).2 =
      [⟨hopIp cfg cfg.coturnIp, cfg.coturnPort, (n + stunCustomHeaderLen : Nat),
        (clientHeader cfg client.ip client.port).bytes ++ buf.slice 0 n⟩] := by
  have whole : ((clientHeader cfg client.ip client.port).bytes ++ buf.slice 0 n).length =
      n + stunCustomHeaderLen := by
    simp [Memory.slice, StunCustomHeader.bytes, bytes16, bytes32, stunCustomHeaderLen]
  unfold handlePacketFromClient
  simp only [fits, if_true, sendToByAddr, Int.toNat_natCast]
  rw [← whole, Memory.slice_ofList]

theorem payloadLen_of_framed {header : StunCustomHeader} (framed : Framed header.bytes message buf n)
    (small : n < 2 ^ 31) : payloadLen n = message.length := by
  have total := framed.length
  have fourteen : header.bytes.length = 14 := rfl
  have fits : n < 2 ^ 64 := by omega
  have within : stunCustomHeaderLen ≤ n := by
    rw [total, fourteen]
    exact Nat.le_add_right 14 _
  rw [payloadLen, sizeSub_of_le within fits, stunCustomHeaderLen]
  omega

theorem frameKind_of_response {buf : Memory} {n : Nat} (header : (read buf).identifier = customIdentifier)
    (response : stunIsSuccessResponseStr (payload buf) (payloadLen n) = true ∨
      stunIsErrorResponseStr (payload buf) (payloadLen n) = true) :
    frameKind buf n ∈
      [FrameKind.permissionSuccess, .allocateSuccess, .otherSuccess, .permissionError, .otherError] := by
  have extension : (read buf).isStunExtensionHeader = true := isStunExtensionHeader_iff.mpr header
  have notRelay : (read buf).isStunExtensionRelayHeader = false := by
    rw [isStunExtensionRelayHeader, header]
    decide
  have notChannel : isChannelMsgStr (payload buf) (payloadLen n) = false := by
    rcases response with success | error
    · exact not_isChannelMsgStr_of_class success
    · exact not_isChannelMsgStr_of_class error
  have notIndication : stunIsIndicationStr (payload buf) (payloadLen n) = false := by
    rw [Bool.eq_false_iff]
    intro indication
    rcases response with success | error
    · exact absurd (stunIsClassStr_unique indication success) (by decide)
    · exact absurd (stunIsClassStr_unique indication error) (by decide)
  simp only [frameKind, extension, notRelay, notChannel, notIndication, Bool.false_eq_true, if_true, if_false]
  rcases response with success | error
  · rw [if_pos success]
    split
    · simp
    · split <;> simp
  · have notSuccess : ¬ stunIsSuccessResponseStr (payload buf) (payloadLen n) = true := by
      intro success
      exact absurd (stunIsClassStr_unique success error) (by decide)
    rw [if_neg notSuccess, if_pos error]
    split <;> simp

theorem sendToEchoed_of_framed {cfg : Config} {client : Client} (direct : client.ip ≠ cfg.localUdpIp)
    (framed : Framed (clientHeader cfg client.ip client.port).bytes message buf n) (small : n < 2 ^ 31) :
    sendToEchoed cfg buf n = ⟨client.ip, client.port, message.length, message⟩ := by
  have total := framed.length
  have short : message.length < 2 ^ 31 := by omega
  have bytes : (payload buf).slice 0 message.length = message := by
    calc (payload buf).slice 0 message.length = buf.slice 14 message.length :=
          Memory.slice_congr (fun i _ => by rw [Nat.zero_add]; rfl)
      _ = message := framed.message_slice
  simp only [sendToEchoed, sendToByAddr, framed.read_eq, getSrcIntIp, getSrcPort, clientHeader,
    nswap32_nswap32, nswap16_nswap16, hopIp, if_neg direct, payloadLen_of_framed framed small,
    intOfSize_of_small short, Int.toNat_natCast, bytes]

/-- A request reaches coturn behind a header that names its client to the listener,
and every response behind the same header comes back to that client as coturn sent it. -/
theorem request_response_transparent {cfg : Config} (st : State) {client : Client} {buf : Memory} {n : Nat}
    (outside : client.port ≠ cfg.coturnPort) (direct : client.ip ≠ cfg.localUdpIp)
    (request : IsRequest buf n) (fits : n + stunCustomHeaderLen < 1500) :
    packetCallbackAsync cfg st client.ip client.port buf n =
        some (handlePacketFromClient cfg st client.ip client.port buf n) ∧
      (handlePacketFromClient cfg st client.ip client.port buf n).2 =
        [⟨hopIp cfg cfg.coturnIp, cfg.coturnPort, (n + stunCustomHeaderLen : Nat),
          (clientHeader cfg client.ip client.port).bytes ++ buf.slice 0 n⟩] ∧
      (∀ (elem : Memory) (l : Listener.RelayServer) (proxyIp : UInt32) (proxyPort : UInt16)
          (fresh : Listener.SocketHandle) (handshake sslFails : Bool),
        Framed (clientHeader cfg client.ip client.port).bytes (buf.slice 0 n) elem (n + stunCustomHeaderLen) →
        Listener.udpServerInputHandler l (.inet proxyIp proxyPort) (read elem) fresh handshake sslFails =
          Listener.handleUdpPacket l (.inet client.ip (nswap16 client.port)) fresh handshake sslFails) ∧
      ∀ (now st' : State) (response : List UInt8) (frame : Memory) (len : Nat) (sends : List Send),
        Framed (clientHeader cfg client.ip client.port).bytes response frame len → len < 2 ^ 31 →
        stunIsSuccessResponseStr (payload frame) response.length = true ∨
          stunIsErrorResponseStr (payload frame) response.length = true →
        packetCallbackAsync cfg now cfg.coturnIp cfg.coturnPort frame len = some (st', sends) →
        sends = [⟨client.ip, client.port, response.length, response⟩] := by
  refine ⟨?_, handlePacketFromClient_sends cfg st client buf fits, ?_, ?_⟩
  · rw [packetCallbackAsync, if_neg outside, request.not_relay]
    rfl
  · intro elem l proxyIp proxyPort fresh handshake sslFails framed
    rw [Listener.udpServerInputHandler, framed.read_eq]
    rfl
  · intro now st' response frame len sends framed small isResponse run
    rw [packetCallbackAsync, if_pos rfl] at run
    have kind := @frameKind_of_response frame len (by rw [framed.read_eq]; rfl)
      (by rwa [payloadLen_of_framed framed small])
    rw [answer_sends_echoed run kind, sendToEchoed_of_framed direct framed small]

/-- A Binding request and its success, each without attributes. -/
def bindingRequest : List UInt8 := [0x00, 0x01, 0, 0, 0x21, 0x12, 0xA4, 0x42] ++ List.replicate 12 7
def bindingSuccess : List UInt8 := [0x01, 0x01, 0, 0, 0x21, 0x12, 0xA4, 0x42] ++ List.replicate 12 7

/-- The success as coturn frames it for `otherClient`. -/
def bindingFrame : Memory :=
  .ofList ((clientHeader exampleConfig otherClient.ip otherClient.port).bytes ++ bindingSuccess)

theorem bindingRequest_isRequest : IsRequest (.ofList bindingRequest) 20 :=
  ⟨by decide, by decide, by decide⟩

theorem request_response_transparent_binding :
    (packetCallbackAsync exampleConfig .init otherClient.ip otherClient.port (.ofList bindingRequest) 20).map (·.2) =
        some [⟨exampleConfig.coturnIp, exampleConfig.coturnPort, 34,
          (clientHeader exampleConfig otherClient.ip otherClient.port).bytes ++ bindingRequest⟩] ∧
      ∃ st, packetCallbackAsync exampleConfig .init exampleConfig.coturnIp exampleConfig.coturnPort bindingFrame 34 =
        some (st, [⟨otherClient.ip, otherClient.port, 20, bindingSuccess⟩]) := by
  obtain ⟨dispatched, sent, _, answered⟩ := @request_response_transparent exampleConfig .init
    otherClient (.ofList bindingRequest) 20 (by decide) (by decide) bindingRequest_isRequest (by decide)
  constructor
  · rw [dispatched, Option.map_some, sent]
    rfl
  · have framed : Framed (clientHeader exampleConfig otherClient.ip otherClient.port).bytes bindingSuccess
        bindingFrame 34 := ⟨rfl, Memory.slice_ofList _⟩
    cases run : packetCallbackAsync exampleConfig .init exampleConfig.coturnIp exampleConfig.coturnPort
        bindingFrame 34 with
    | none => exact absurd run (by decide)
    | some result =>
      obtain ⟨st, sends⟩ := result
      have only := answered .init st bindingSuccess bindingFrame 34 sends framed (by decide)
        (Or.inl (by decide)) run
      exact ⟨st, by rw [only]; rfl⟩

end Proxy
end TurnCluster
