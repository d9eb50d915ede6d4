import TurnCluster.Server.KeyBinding

namespace TurnCluster
namespace Server

/-- The attributes of an Allocate as its loop leaves them. -/
def allocateScanned (server : TurnServer) (ss : SuperSession) (m : Request) : AllocateScan :=
  scanAttrs AllocateScan.running (AllocateScan.body server ss.stream) (.start ss) m.attrs

/-- The name that the quota callback is called with, if `handle_turn_allocate` comes to calling it. -/
def quotaName (server : TurnServer) (ss : SuperSession) (m : Request) : Option (List UInt8) :=
  let s := allocateScanned server ss m
  if ss.alloc.isValid = true then none
  else if s.transport = 0 ∨ s.scan.unknownAttrs ≠ [] ∨ s.scan.errCode ≠ 0 then none
  else if s.transport = transportTcp ∧ (s.dontFragment = true ∨ s.inReservationToken ≠ 0 ∨ s.evenPort ≠ -1) then none
  else if ss.quotaUsed = true ∨ server.longTerm = true ∧ ss.originSet = false then none
  else some s.username

/-- A USERNAME that the loop of `handle_turn_allocate` takes. -/
def namesUser (a : Attribute) : Bool := a.attrType == stunAttributeUsername && !a.value.isEmpty

/-- The last USERNAME that is not empty carries the name of the first USERNAME. -/
def LastNameAgrees (m : Request) : Prop :=
  ∀ first last, firstOfType m.attrs stunAttributeUsername = some first →
    (m.attrs.filter namesUser).getLast? = some last → cString last.value = boundedString stunMaxUsernameSize first.value

theorem namesUser_iff {a : Attribute} :
    namesUser a = true ↔ a.attrType = stunAttributeUsername ∧ a.value ≠ [] := by
  simp only [namesUser, Bool.and_eq_true, beq_iff_eq, Bool.not_eq_true', List.isEmpty_eq_false_iff, ne_eq]

theorem foldl_chargeName (name : List UInt8) (attrs : List Attribute) :
    attrs.foldl chargeName name = ((attrs.filter namesUser).getLast?.map (fun a => cString a.value)).getD name := by
  induction attrs generalizing name with
  | nil => rfl
  | cons a rest ih =>
    rw [List.foldl_cons, ih]
    by_cases names : namesUser a = true
    · have charge : chargeName name a = cString a.value := if_pos (namesUser_iff.mp names)
      rw [charge, List.filter_cons_of_pos names, List.getLast?_cons]
      cases (rest.filter namesUser).getLast? <;> rfl
    · have skip : chargeName name a = name := if_neg (fun named => names (namesUser_iff.mpr named))
      rw [skip, List.filter_cons_of_neg names]

variable {server : TurnServer} {ss : SuperSession} {m : Request} {name : List UInt8}

theorem claimedUsername_eq_chargedName_iff {first : Attribute}
    (found : firstOfType m.attrs stunAttributeUsername = some first) :
    claimedUsername m = some (chargedName m) ↔ LastNameAgrees m := by
  have claimed : claimedUsername m = some (boundedString stunMaxUsernameSize first.value) := by
    unfold claimedUsername
    rw [found]
    rfl
  unfold chargedName LastNameAgrees
  rw [claimed, foldl_chargeName]
  cases last : (m.attrs.filter namesUser).getLast? with
  | none =>
    -- No USERNAME has a value, so the first one is empty too.
    have none : m.attrs.filter namesUser = [] := List.getLast?_eq_none_iff.mp last
    have empty : first.value = [] := by
      have member : first ∈ m.attrs := List.mem_of_find?_eq_some found
      have isName : first.attrType = stunAttributeUsername := by
        have passed := List.find?_some found
        simpa using passed
      have skipped := List.filter_eq_nil_iff.mp none first member
      simpa [namesUser, isName] using skipped
    rw [empty]
    simp [boundedString, cString]
  | some a =>
    simp only [Option.map_some, Option.getD_some, Option.some.injEq]
    constructor
    · rintro same first' last' again rfl
      rw [found] at again
      cases again
      exact same.symm
    · intro agrees
      exact (agrees first a found rfl).symm

/-- What lets an Allocate come to the quota callback. -/
structure ComesToQuota (server : TurnServer) (ss : SuperSession) (m : Request) (name : List UInt8) : Prop where
  unallocated : ¬ ss.alloc.isValid = true
  transport : ¬ (allocateScanned server ss m).transport = 0
  clean : (allocateScanned server ss m).scan.Clean
  compatible : ¬ ((allocateScanned server ss m).transport = transportTcp ∧
    ((allocateScanned server ss m).dontFragment = true ∨ (allocateScanned server ss m).inReservationToken ≠ 0 ∨
      (allocateScanned server ss m).evenPort ≠ -1))
  unheld : ¬ ss.quotaUsed = true
  origin : ¬ (server.longTerm = true ∧ ss.originSet = false)
  name : (allocateScanned server ss m).username = name

theorem comesToQuota (reaches : quotaName server ss m = some name) : ComesToQuota server ss m name := by
  unfold quotaName at reaches
  dsimp only at reaches
  split at reaches
  · cases reaches
  · rename_i unallocated
    split at reaches
    · cases reaches
    · rename_i accepted
      simp only [not_or, not_not] at accepted
      split at reaches
      · cases reaches
      · rename_i compatible
        split at reaches
        · cases reaches
        · rename_i free
          rw [not_or] at free
          exact ⟨unallocated, accepted.1, ⟨accepted.2.2, accepted.2.1⟩, compatible, free.1, free.2,
            Option.some.inj reaches⟩

theorem quotaName_eq_chargedName (reaches : quotaName server ss m = some name) : name = chargedName m := by
  have comes := comesToQuota reaches
  rw [← comes.name]
  exact AllocateScan.scan_username server ss.stream (.start ss) m.attrs comes.clean

theorem handleTurnAllocate_stores (env : Env) (reaches : quotaName server ss m = some name) :
    (handleTurnAllocate server env ss m).1.username =
      if env.quota name ss.oauth ss.realm.name = false then ss.username else name := by
  have comes := comesToQuota reaches
  have clean := comes.clean
  unfold handleTurnAllocate
  rw [if_neg comes.unallocated]
  change (allocateChecked server env _ m (allocateScanned server ss m)).1.username = _
  unfold allocateChecked
  rw [if_neg comes.transport, if_neg (not_not.mpr clean.2), if_neg (not_not.mpr clean.1), if_neg comes.compatible]
  unfold allocateAccepted incQuota
  rw [comes.name]
  dsimp only
  rw [if_neg comes.unheld, if_neg comes.origin]
  split
  · rfl
  · exact congrArg Credentials.username (credentials_frame.allocateCharged server env _ m _ _)

/-- The quota of an Allocate with valid credentials is charged to the user they are valid for,
and the session keeps that name, exactly if the last USERNAME of the request that is not empty
agrees with the first USERNAME. -/
theorem quota_charged_to_verified_iff {server : TurnServer} (longTerm : server.longTerm = true) {env : Env}
    {ss : SuperSession} {m : Request} {canResume : Bool} {name : List UInt8}
    (passed : (checkStunAuth server env ss m stunMethodAllocate canResume).passes = true)
    (reaches : quotaName server (checkStunAuth server env ss m stunMethodAllocate canResume).ss m = some name) :
    (claimedUsername m = some name ∧ claimedUsername m = some (handleTurnAllocate server env
      (checkStunAuth server env ss m stunMethodAllocate canResume).ss m).1.username) ↔ LastNameAgrees m := by
  have notBind : stunMethodAllocate ≠ stunMethodConnectionBind := by decide
  have clear := AuthResult.clear_of_passes passed
  obtain ⟨usname, reaches'⟩ := checkStunAuth_reaches longTerm notBind clear.not_refused
  have verified : claimedUsername m = some (checkStunAuth server env ss m stunMethodAllocate canResume).ss.username := by
    rw [(reaches'.passed clear).2, reaches'.claimed, renamed_username]
  obtain ⟨first, found, _⟩ := Option.map_eq_some_iff.mp verified
  have stored := handleTurnAllocate_stores env reaches
  rw [quotaName_eq_chargedName reaches] at stored ⊢
  rw [← claimedUsername_eq_chargedName_iff found]
  constructor
  · exact And.left
  · intro same
    refine ⟨same, ?_⟩
    rw [stored]
    split
    · exact verified
    · exact same

/-- A session that holds the key 1. -/
def exampleKeyed : SuperSession := { exampleNode.ss with hmackey := [1], hmackeySet := true, originSet := true }

/-- The session behind the check of an Allocate. -/
def exampleChecked (m : Request) : SuperSession :=
  (checkStunAuth exampleServer exampleEnv exampleKeyed m stunMethodAllocate true).ss

def exampleOneName : Request :=
  .ofAttributes stunMethodAllocate (exampleCredentials [97] ++
    [⟨stunAttributeRequestedTransport, [17, 0, 0, 0]⟩, exampleIntegrity [1]])

theorem quota_charged_to_verified_iff_single : claimedUsername exampleOneName = some [97] ∧
    claimedUsername exampleOneName =
      some (handleTurnAllocate exampleServer exampleEnv (exampleChecked exampleOneName) exampleOneName).1.username := by
  have passed : (checkStunAuth exampleServer exampleEnv exampleKeyed exampleOneName stunMethodAllocate true).passes =
      true := by decide +kernel
  have reaches : quotaName exampleServer (exampleChecked exampleOneName) exampleOneName = some [97] := by
    decide +kernel
  refine (quota_charged_to_verified_iff rfl passed reaches).mpr ?_
  intro first last isFirst isLast
  have onlyFirst : firstOfType exampleOneName.attrs stunAttributeUsername =
      some ⟨stunAttributeUsername, [97]⟩ := by decide +kernel
  have onlyLast : (exampleOneName.attrs.filter namesUser).getLast? =
      some ⟨stunAttributeUsername, [97]⟩ := by decide +kernel
  rw [onlyFirst] at isFirst
  rw [onlyLast] at isLast
  cases isFirst
  cases isLast
  decide

/-- The Allocate of `a` that names `v` once more is charged to `v`. -/
theorem second_username_charged : ¬ ∀ (server : TurnServer) (env : Env) (ss : SuperSession) (m : Request)
    (canResume : Bool) (name : List UInt8), server.longTerm = true →
      (checkStunAuth server env ss m stunMethodAllocate canResume).passes = true →
      quotaName server (checkStunAuth server env ss m stunMethodAllocate canResume).ss m = some name →
      claimedUsername m = some name ∧ claimedUsername m = some (handleTurnAllocate server env
        (checkStunAuth server env ss m stunMethodAllocate canResume).ss m).1.username := by
  intro claimed
  obtain ⟨charged, _⟩ := claimed exampleServer exampleEnv exampleKeyed exampleSecondName true [118] rfl
    (by decide +kernel) (by decide +kernel)
  have verified : claimedUsername exampleSecondName = some [97] := by decide +kernel
  rw [verified] at charged
  exact absurd charged (by decide)

end Server
end TurnCluster
