import TurnCluster.Proxy.Manager

namespace TurnCluster
namespace Proxy

open StunCustomHeader

/-- What `HandlePacketFromCoturn` makes of a frame. -/
inductive FrameKind where
  | relayed
  | channelData
  | dataIndication
  | allocateSuccess
  | permissionSuccess
  | otherSuccess
  | permissionError
  | otherError
  | release
  | ignored
  deriving DecidableEq, Repr

/-- A relay frame is forwarded when its payload is ChannelData or a Send indication. -/
def forwardable (buf : Memory) (n : Nat) : Bool :=
  isChannelMsgStr (payload buf) (payloadLen n) ||
    (stunIsIndicationStr (payload buf) (payloadLen n) && payloadMethod buf n == stunMethodSend)

def frameKind (buf : Memory) (n : Nat) : FrameKind :=
  if (read buf).isStunExtensionRelayHeader then
    if forwardable buf n then .relayed else .ignored
  else if (read buf).isStunExtensionHeader then
    if isChannelMsgStr (payload buf) (payloadLen n) then .channelData
    else if stunIsIndicationStr (payload buf) (payloadLen n) then
      if payloadMethod buf n = stunMethodData then .dataIndication else .ignored
    else if stunIsSuccessResponseStr (payload buf) (payloadLen n) then
      if payloadMethod buf n = stunMethodAllocate then .allocateSuccess
      else if payloadMethod buf n = stunMethodCreatePermission then .permissionSuccess
      else .otherSuccess
    else if stunIsErrorResponseStr (payload buf) (payloadLen n) then
      if payloadMethod buf n = stunMethodCreatePermission then .permissionError else .otherError
    else .ignored
  else if (read buf).isStunExtensionReleaseHeader then .release
  else .ignored

/-- Transaction id of the framed message. -/
def frameTid (buf : Memory) : List UInt8 := stunTidFromMessageStr (payload buf)

/-- Key under which an Allocate success is recorded: the mapped address it reports. -/
def mappedKey (buf : Memory) (n : Nat) : List Char :=
  let mapped := getStunAttrAddress (payload buf) (payloadLen n) stunAttributeXorMappedAddress
  addrKey mapped.ip4 (nswap16 mapped.port)

/-- The relay address that an Allocate success reports. -/
def relayInfo (buf : Memory) (n : Nat) : AddrInfo :=
  let relay := getStunAttrAddress (payload buf) (payloadLen n) stunAttributeXorRelayedAddress
  ⟨relay.ip4, relay.port⟩

/-- Routing key of a ChannelData frame: the peer that the header names. -/
def channelKey (buf : Memory) : List Char :=
  (read buf).getDstIp ++ decimal (read buf).getDstPort.toNat

/-- Routing key of a DATA indication: the peer that the indication names. -/
def dataKey (buf : Memory) (n : Nat) : List Char :=
  let peer := getStunAttrAddress (payload buf) (payloadLen n) stunAttributeXorPeerAddress
  addrKey peer.ip4 peer.port

/-- Key of the relay that a release notice names. -/
def releaseKey (buf : Memory) : List Char :=
  ip2string (nswap32 (read buf).getDstIntIp) ++ decimal (read buf).getDstPort.toNat

/-- A relay frame leaves as it came, for the destination in its header. -/
def forwarded (cfg : Config) (buf : Memory) (n : Nat) : Send :=
  sendToByAddr cfg (nswap32 (read buf).getDstIntIp) (read buf).getDstPort buf (intOfSize n)

def recordAllocation (st : State) (buf : Memory) (n : Nat) : State :=
  { st with mapAllocInfo := Function.update st.mapAllocInfo (mappedKey buf n) (some (relayInfo buf n)) }

def forgetRequest (st : State) (tid : List UInt8) : State :=
  { st with mapRequests := Function.update st.mapRequests tid none }

/-- The tables after a CreatePermission success, which counts only for a pending request. -/
def settlePermission (st : State) (tid : List UInt8) : State :=
  match st.mapRequests tid with
  | none => st
  | some request => installPermission st tid request

theorem handleSuccessResponse_eq (cfg : Config) (st : State) (buf : Memory) (n : Nat) :
    handleSuccessResponse cfg st (payloadMethod buf n) buf n =
      if payloadMethod buf n = stunMethodAllocate then
        if (st.mapAllocInfo (mappedKey buf n)).isSome then none
        else some (recordAllocation st buf n, [sendToEchoed cfg buf n])
      else if payloadMethod buf n = stunMethodCreatePermission then
        some (settlePermission st (frameTid buf), [sendToEchoed cfg buf n])
      else some (st, [sendToEchoed cfg buf n]) := by
  unfold handleSuccessResponse settlePermission frameTid
  split
  · rfl
  · split
    · dsimp only
      cases st.mapRequests (stunTidFromMessageStr (payload buf)) <;> rfl
    · rfl

theorem handlePacketFromCoturn_eq (cfg : Config) (st : State) (buf : Memory) (n : Nat) :
    handlePacketFromCoturn cfg st buf n =
      match frameKind buf n with
      | .relayed => some (st, [forwarded cfg buf n])
      | .channelData => some (st, sendToRoute cfg st (channelKey buf) buf n)
      | .dataIndication => some (st, sendToRoute cfg st (dataKey buf n) buf n)
      | .allocateSuccess =>
        if (st.mapAllocInfo (mappedKey buf n)).isSome then none
        else some (recordAllocation st buf n, [sendToEchoed cfg buf n])
      | .permissionSuccess => some (settlePermission st (frameTid buf), [sendToEchoed cfg buf n])
      | .otherSuccess => some (st, [sendToEchoed cfg buf n])
      | .permissionError => some (forgetRequest st (frameTid buf), [sendToEchoed cfg buf n])
      | .otherError => some (st, [sendToEchoed cfg buf n])
      | .release => some (releaseRelay st (read buf), [])
      | .ignored => some (st, []) := by
  unfold handlePacketFromCoturn frameKind forwardable
  dsimp only
  cases relay : (read buf).isStunExtensionRelayHeader with
  | true =>
    cases channel : isChannelMsgStr (payload buf) (payloadLen n) with
    | true => rfl
    | false =>
      cases indication : stunIsIndicationStr (payload buf) (payloadLen n) with
      | true => by_cases send : payloadMethod buf n = stunMethodSend <;> simp [send, forwarded]
      | false => rfl
  | false =>
    cases normal : (read buf).isStunExtensionHeader with
    | false => cases released : (read buf).isStunExtensionReleaseHeader <;> rfl
    | true =>
      cases channel : isChannelMsgStr (payload buf) (payloadLen n) with
      | true => rfl
      | false =>
        cases indication : stunIsIndicationStr (payload buf) (payloadLen n) with
        | true => by_cases data : payloadMethod buf n = stunMethodData <;> simp [data, dataKey]
        | false =>
          cases success : stunIsSuccessResponseStr (payload buf) (payloadLen n) with
          | true =>
            simp only [Bool.false_eq_true, if_true, if_false, handleSuccessResponse_eq]
            by_cases allocate : payloadMethod buf n = stunMethodAllocate
            · simp only [allocate, if_true]
            · by_cases permission : payloadMethod buf n = stunMethodCreatePermission
              · simp only [permission, if_true]
                rfl
              · simp only [allocate, permission, if_false]
          | false =>
            cases error : stunIsErrorResponseStr (payload buf) (payloadLen n) with
            | true =>
              by_cases permission : payloadMethod buf n = stunMethodCreatePermission <;>
                simp [permission, handleErrorResponse, forgetRequest, frameTid]
            | false => rfl

end Proxy
end TurnCluster
