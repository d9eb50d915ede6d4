import TurnCluster.Server.Peer

namespace TurnCluster
namespace Server

open StunCustomHeader

/-- Some permission of the allocation is for the IP of an address. -/
def HasPermission (a : Allocation) (addr : IoaAddr) : Prop :=
  ∃ row, ∃ info ∈ a.addrToPerm row, info.allocated = true ∧ addrEqNoPort info.addr addr = true

theorem hasPermission_of_found {a : Allocation} {addr : IoaAddr} {tinfo : SlotRef}
    (found : allocationGetPermission a addr = some tinfo) : HasPermission a addr := by
  obtain ⟨_, info, member, _, passes⟩ := SlotTable.find_some found
  rw [Bool.and_eq_true] at passes
  exact ⟨_, info, member, passes.1, passes.2⟩

theorem adjustData_srcAddr (nbh : StunBuffer) (srcAddr : IoaAddr) (ilen : Int) :
    (adjustData nbh srcAddr ilen).srcAddr = srcAddr := by
  unfold adjustData
  split
  · rfl
  · split <;> rfl

theorem adjust_srcAddr (nbh : StunBuffer) (srcAddr : IoaAddr) (ilen : Int) :
    (adjust nbh srcAddr ilen).srcAddr = adjustSrcAddr nbh srcAddr := by
  unfold adjust
  split
  · exact adjustData_srcAddr ..
  · rename_i plain
    unfold adjustSrcAddr
    dsimp only
    rw [if_neg plain]

/-- Nothing goes to the client for a datagram whose source, as the handler takes
it, has no permission. -/
theorem unpermitted_source_silent {ctx : PeerContext} {input : NetData}
    (noRelay : ctx.serverRelay = false)
    (unpermitted : ¬ HasPermission ctx.allocation (adjustSrcAddr input.nbh input.srcAddr)) :
    (peerInputHandler ctx input).frame = none := by
  unfold peerInputHandler
  dsimp only
  split
  · rfl
  · split
    · rfl
    · split
      · rename_i tinfo found
        rw [adjust_srcAddr] at found
        exact absurd (hasPermission_of_found found) unpermitted
      · rw [noRelay]
        rfl

/-- The permitted peer 10.0.0.9 and another host, 10.9.9.9. -/
def permittedPeer : IoaAddr := .inet 0x0900000A 0
def strangerAddr : IoaAddr := .inet 0x0909090A (nswap16 4000)

/-- An allocation with one permission and no channel. -/
def onePermission : Allocation :=
  { initAllocation with
    isValid := true
    addrToPerm := Function.update initAllocation.addrToPerm (permissionRow permittedPeer)
      [{ TurnPermissionInfo.zero with allocated := true, addr := permittedPeer }, .zero, .zero] }

def exampleContext : PeerContext where
  serverRelay := false
  fingerprint := false
  software := []
  mapping := []
  nsCrc32 := fun _ => 0
  tid := List.replicate stunTidSize 0
  sessionToBeClosed := false
  clientSocketOpen := true
  clientSocketStream := false
  relaySocketToBeClosed := false
  relaySessionOpen := true
  allocation := onePermission

/-- Fourteen bytes that name 10.0.0.9:4000 as their source. -/
def spoofedHeader : List UInt8 := [0x80, 0x01, 10, 0, 0, 9, 0x0F, 0xA0, 0, 0, 0, 0, 0, 0]

def spoofedData : NetData := ⟨.received (.ofList spoofedHeader) 14, strangerAddr, 64, 0⟩

theorem onePermission_only (addr : IoaAddr) (permitted : HasPermission onePermission addr) :
    addrEqNoPort permittedPeer addr = true := by
  obtain ⟨row, info, member, allocated, same⟩ := permitted
  by_cases here : row = permissionRow permittedPeer
  · rw [here] at member
    simp only [onePermission, Function.update_self, List.mem_cons, List.not_mem_nil, or_false] at member
    rcases member with rfl | rfl | rfl
    · exact same
    · cases allocated
    · cases allocated
  · simp only [onePermission, Function.update_of_ne here, initAllocation] at member
    rw [List.eq_of_mem_replicate member] at allocated
    cases allocated

theorem unpermitted_source_silent_stranger :
    ¬ HasPermission onePermission strangerAddr ∧
      (peerInputHandler exampleContext ⟨.received (.ofList [1, 2, 3]) 3, strangerAddr, 64, 0⟩).frame = none := by
  have unpermitted : ¬ HasPermission onePermission strangerAddr :=
    fun permitted => absurd (onePermission_only strangerAddr permitted) (by decide)
  have source : adjustSrcAddr (.received (.ofList [1, 2, 3]) 3) strangerAddr = strangerAddr := by decide
  exact ⟨unpermitted, unpermitted_source_silent rfl (by rw [source]; exact unpermitted)⟩

/-- A host without a permission reaches the client by naming a permitted peer. -/
theorem spoofed_source_reaches_client :
    ¬ ∀ (ctx : PeerContext) (input : NetData) (bytes : Memory) (n : Nat) (proxy : IoaAddr),
      ctx.serverRelay = false → ctx.allocation.isValid = true → input.nbh = .received bytes n →
      14 ≤ n → n ≤ udpStunBufferSize → addrEq input.srcAddr proxy = false →
      ¬ HasPermission ctx.allocation input.srcAddr → (peerInputHandler ctx input).frame = none := by
  intro claimed
  have silent := claimed exampleContext spoofedData (.ofList spoofedHeader) 14 (.inet 0x0100000A 3479) rfl rfl
    rfl (by decide) (by decide) (by decide)
    (fun permitted => absurd (onePermission_only strangerAddr permitted) (by decide))
  have sent : (peerInputHandler exampleContext spoofedData).frame.isSome = true := by decide +kernel
  rw [silent] at sent
  cases sent

end Server
end TurnCluster
