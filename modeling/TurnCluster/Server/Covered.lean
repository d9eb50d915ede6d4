import TurnCluster.Server.Credentials

namespace TurnCluster
namespace Server

/-- Types that need not be understood and are read by a handler all the same. -/
def optionalRead (method : UInt16) : List UInt16 :=
  if method = stunMethodAllocate then
    [stunAttributeNewBandwidth, stunAttributeMobilityTicket, stunAttributeAdditionalAddressFamily]
  else if method = stunMethodRefresh then [stunAttributeMobilityTicket, stunAttributeAdditionalAddressFamily]
  else []

/-- The types that the loop of a handler does not pass over. -/
def handlerReads (method attrType : UInt16) : Bool :=
  if attrType = stunAttributeUsername then method == stunMethodAllocate
  else !isSkipped attrType && (decide (attrType ≤ 0x7FFF) || (optionalRead method).contains attrType)

/-- A Refresh without an allocation of its own looks for one to take over. -/
def takesOver (server : TurnServer) (ss : SuperSession) (method : UInt16) : Bool :=
  server.mobility && method == stunMethodRefresh && !ss.alloc.isValid

/-- The types that can change what becomes of a request which passes the check of its credentials. -/
def takesEffect (server : TurnServer) (ss : SuperSession) (method attrType : UInt16) : Bool :=
  handlerReads method attrType ||
    attrType == stunAttributeUsername && (ss.username.isEmpty || ss.oauth || takesOver server ss method) ||
    attrType == stunAttributeOrigin && method == stunMethodAllocate && !ss.originSet

/-- The attributes behind the first MESSAGE-INTEGRITY. -/
def afterIntegrity (m : Request) : List Attribute :=
  (m.attrs.dropWhile (fun a => a.attrType != stunAttributeMessageIntegrity)).tail

/-- Two requests with the same bytes up to the end of their first
MESSAGE-INTEGRITY, apart from the length field of the header. -/
structure SameCovered (m₁ m₂ : Request) (sar : Nat) : Prop where
  first₁ : firstIntegrity m₁ = some sar
  first₂ : firstIntegrity m₂ = some sar
  bytes : ∀ i < sar + 4 + stunAttrGetLen m₁.buf sar, i ≠ 2 → i ≠ 3 → m₁.buf i = m₂.buf i

theorem scanAttrs_filter {σ : Type} (running : σ → Bool) {body : σ → Attribute → σ} {keep : Attribute → Bool}
    (passes : ∀ s a, keep a = false → body s a = s) (s : σ) (attrs : List Attribute) :
    scanAttrs running body s (attrs.filter keep) = scanAttrs running body s attrs := by
  induction attrs generalizing s with
  | nil => rfl
  | cons a rest next =>
    cases goes : running s with
    | false => rw [scanAttrs_stopped body goes, scanAttrs_stopped body goes]
    | true =>
      cases kept : keep a with
      | false =>
        rw [List.filter_cons_of_neg (by simp [kept]), next]
        rw [scanAttrs, if_pos goes, passes s a kept]
      | true =>
        rw [List.filter_cons_of_pos kept]
        rw [scanAttrs, scanAttrs, if_pos goes, if_pos goes]
        exact next (body s a)

variable {server : TurnServer} {env : Env} {node : Node} {m₁ : Request} {ss : SuperSession} {m₂ m : Request}
  {method attrType : UInt16} {canResume : Bool}

theorem ne_of_optional {required : UInt16} (optional : ¬ attrType ≤ 0x7FFF) (must : required ≤ 0x7FFF) :
    attrType ≠ required := by
  rintro rfl
  exact optional must

theorem not_handlerReads (unread : handlerReads method attrType = false) :
    (attrType = stunAttributeUsername → method ≠ stunMethodAllocate) ∧
      (isSkipped attrType = true ∨ ¬ attrType ≤ 0x7FFF ∧ attrType ∉ optionalRead method) := by
  unfold handlerReads at unread
  split at unread
  · rename_i isName
    refine ⟨fun _ => by simpa using unread, .inl ?_⟩
    rw [isName]
    decide
  · rename_i notName
    refine ⟨fun isName => absurd isName notName, ?_⟩
    simpa [or_iff_not_imp_left] using unread

theorem other_of_optional (optional : ¬ attrType ≤ 0x7FFF) (s : Scan) : s.other attrType = s :=
  if_neg optional

section Bodies

variable {a : Attribute}

theorem AllocateScan.body_unread (server : TurnServer) (stream : Bool) (s : AllocateScan)
    (unread : handlerReads stunMethodAllocate a.attrType = false) : AllocateScan.body server stream s a = s := by
  obtain ⟨notName, cases⟩ := not_handlerReads unread
  unfold AllocateScan.body
  rw [if_neg (fun isName => notName isName rfl)]
  rcases cases with skipped | ⟨optional, uncased⟩
  · rw [if_pos skipped]
  · simp only [optionalRead, if_true, List.mem_cons, List.not_mem_nil, or_false, not_or] at uncased
    have required : ∀ {t : UInt16}, t ≤ 0x7FFF → a.attrType ≠ t := fun must => ne_of_optional optional must
    by_cases skipped : isSkipped a.attrType = true
    · rw [if_pos skipped]
    · rw [if_neg skipped, if_neg uncased.1, if_neg uncased.2.1, if_neg (required (by decide)),
        if_neg (required (by decide)), if_neg (required (by decide)), if_neg (required (by decide)),
        if_neg (required (by decide)), if_neg uncased.2.2, if_neg (required (by decide)), other_of_optional optional]

theorem RefreshScan.body_unread (server : TurnServer) (ss : SuperSession) (af4c af6c : Bool) (s : RefreshScan)
    (unread : handlerReads stunMethodRefresh a.attrType = false) :
    RefreshScan.body server ss af4c af6c s a = s := by
  obtain ⟨-, cases⟩ := not_handlerReads unread
  unfold RefreshScan.body
  rcases cases with skipped | ⟨optional, uncased⟩
  · rw [if_pos skipped]
  · have optionals : optionalRead stunMethodRefresh =
        [stunAttributeMobilityTicket, stunAttributeAdditionalAddressFamily] := by decide
    simp only [optionals, List.mem_cons, List.not_mem_nil, or_false, not_or] at uncased
    have required : ∀ {t : UInt16}, t ≤ 0x7FFF → a.attrType ≠ t := fun must => ne_of_optional optional must
    split
    · rfl
    · rw [if_neg uncased.1, if_neg (required (by decide)), if_neg (not_or.mpr ⟨uncased.2, required (by decide)⟩),
        other_of_optional optional]

theorem ChannelBindScan.body_unread {method : UInt16} (server : TurnServer) (ss : SuperSession) (tid : List UInt8)
    (s : ChannelBindScan) (unread : handlerReads method a.attrType = false) :
    ChannelBindScan.body server ss tid s a = s := by
  obtain ⟨-, cases⟩ := not_handlerReads unread
  unfold ChannelBindScan.body
  rcases cases with skipped | ⟨optional, -⟩
  · rw [if_pos skipped]
  · have required : ∀ {t : UInt16}, t ≤ 0x7FFF → a.attrType ≠ t := fun must => ne_of_optional optional must
    split
    · rfl
    · rw [if_neg (required (by decide)), if_neg (required (by decide)), other_of_optional optional]

theorem PermissionScan.body_unread {method : UInt16} (server : TurnServer) (env : Env) (ss : SuperSession)
    (tid : List UInt8) (s : PermissionScan) (unread : handlerReads method a.attrType = false) :
    PermissionScan.body server env ss tid s a = s := by
  obtain ⟨-, cases⟩ := not_handlerReads unread
  unfold PermissionScan.body
  rcases cases with skipped | ⟨optional, -⟩
  · rw [if_pos skipped]
  · split
    · rfl
    · rw [if_neg (ne_of_optional optional (by decide)), other_of_optional optional]

end Bodies

theorem updatePermissions_filter (server : TurnServer) (env : Env) (tid : List UInt8) {keep : Attribute → Bool}
    (peers : ∀ a, keep a = false → a.attrType ≠ stunAttributeXorPeerAddress) (a : Allocation) (failed : Bool)
    (attrs : List Attribute) :
    updatePermissions server env tid a failed (attrs.filter keep) = updatePermissions server env tid a failed attrs := by
  induction attrs generalizing a failed with
  | nil => rfl
  | cons attr rest next =>
    cases kept : keep attr with
    | false =>
      rw [List.filter_cons_of_neg (by simp [kept]), next]
      rw [updatePermissions, if_neg (peers attr kept)]
    | true =>
      rw [List.filter_cons_of_pos kept]
      rw [updatePermissions, updatePermissions]
      split
      · exact next _ _
      · exact next _ _

/-- Two requests that a handler cannot tell apart. -/
structure AlikeFor (method : UInt16) (m₁ m₂ : Request) : Prop where
  tid : m₁.tid = m₂.tid
  attrs : m₁.attrs.filter (fun a => handlerReads method a.attrType) =
    m₂.attrs.filter (fun a => handlerReads method a.attrType)

theorem AlikeFor.scan (alike : AlikeFor method m₁ m₂) {σ : Type} (running : σ → Bool) {body : σ → Attribute → σ}
    (unread : ∀ s a, handlerReads method a.attrType = false → body s a = s) (s : σ) :
    scanAttrs running body s m₁.attrs = scanAttrs running body s m₂.attrs := by
  rw [← scanAttrs_filter running unread s m₁.attrs, alike.attrs, scanAttrs_filter running unread]

theorem handleTurnAllocate_alike (server : TurnServer) (env : Env) (ss : SuperSession)
    (alike : AlikeFor stunMethodAllocate m₁ m₂) :
    handleTurnAllocate server env ss m₁ = handleTurnAllocate server env ss m₂ := by
  have scan := alike.scan AllocateScan.running (fun s _ unread => AllocateScan.body_unread server ss.stream s unread)
    (.start ss)
  have sameTid : ∀ (after : SuperSession) (s : AllocateScan),
      allocateChecked server env after m₁ s = allocateChecked server env after m₂ s := by
    intro after s
    unfold allocateChecked allocateAccepted allocateCharged
    rw [alike.tid]
  unfold handleTurnAllocate
  rw [scan]
  dsimp only
  rw [sameTid]

theorem handleTurnChannelBind_alike (server : TurnServer) (env : Env) (ss : SuperSession)
    (alike : AlikeFor method m₁ m₂) :
    handleTurnChannelBind server env ss m₁ = handleTurnChannelBind server env ss m₂ := by
  unfold handleTurnChannelBind
  rw [alike.tid, alike.scan ChannelBindScan.running
    (fun s _ unread => ChannelBindScan.body_unread server ss m₂.tid s unread) .start]

theorem handleTurnCreatePermission_alike (server : TurnServer) (env : Env) (ss : SuperSession)
    (alike : AlikeFor method m₁ m₂) :
    handleTurnCreatePermission server env ss m₁ = handleTurnCreatePermission server env ss m₂ := by
  have scan := alike.scan PermissionScan.running
    (fun s _ unread => PermissionScan.body_unread server env ss m₂.tid s unread) .start
  have peers : ∀ a : Attribute, handlerReads method a.attrType = false → a.attrType ≠ stunAttributeXorPeerAddress := by
    intro a unread isPeer
    obtain ⟨-, skipped | ⟨optional, -⟩⟩ := not_handlerReads unread
    · rw [isPeer] at skipped
      exact absurd skipped (by decide)
    · exact ne_of_optional optional (by decide) isPeer
  have updates : updatePermissions server env m₂.tid ss.alloc false m₁.attrs =
      updatePermissions server env m₂.tid ss.alloc false m₂.attrs := by
    rw [← updatePermissions_filter server env m₂.tid peers ss.alloc false m₁.attrs, alike.attrs,
      updatePermissions_filter server env m₂.tid peers]
  unfold handleTurnCreatePermission
  rw [alike.tid, scan]
  unfold createPermissionChecked
  rw [alike.tid, updates]

theorem checkStunAuth_alloc (notBind : method ≠ stunMethodConnectionBind)
    (clear : (checkStunAuth server env ss m method canResume).Clear) :
    (checkStunAuth server env ss m method canResume).ss.alloc = ss.alloc := by
  cases longTerm : server.longTerm with
  | false =>
    unfold checkStunAuth
    rw [if_pos longTerm]
  | true =>
    obtain ⟨usname, reaches⟩ := checkStunAuth_reaches longTerm notBind clear.not_refused
    rw [(reaches.passed clear).2]
    show (renamed (renewNonce server env ss) usname).alloc = ss.alloc
    unfold renamed renewNonce
    repeat' split
    all_goals rfl

/-- Two requests that pass leave the same session, if they claim the same name wherever the session would take it. -/
theorem checkStunAuth_alike (notBind : method ≠ stunMethodConnectionBind)
    (names : ss.username = [] ∨ ss.oauth = true → claimedUsername m₁ = claimedUsername m₂)
    (clear₁ : (checkStunAuth server env ss m₁ method canResume).Clear)
    (clear₂ : (checkStunAuth server env ss m₂ method canResume).Clear) :
    checkStunAuth server env ss m₁ method canResume = checkStunAuth server env ss m₂ method canResume := by
  cases longTerm : server.longTerm with
  | false =>
    unfold checkStunAuth
    rw [if_pos longTerm, if_pos longTerm]
  | true =>
    have renewed := renewNonce_credentials server env ss
    have username : (renewNonce server env ss).username = ss.username := congrArg Credentials.username renewed
    have oauth : (renewNonce server env ss).oauth = ss.oauth := congrArg Credentials.oauth renewed
    obtain ⟨usname₁, reaches₁⟩ := checkStunAuth_reaches longTerm notBind clear₁.not_refused
    obtain ⟨usname₂, reaches₂⟩ := checkStunAuth_reaches longTerm notBind clear₂.not_refused
    have same : usname₁ = usname₂ := by
      by_cases takes : ss.username = [] ∨ ss.oauth = true
      · have claimed := names takes
        rw [reaches₁.claimed, reaches₂.claimed] at claimed
        exact Option.some.inj claimed
      · -- the session keeps its own name, which both requests carry
        obtain ⟨has, off⟩ := not_or.mp takes
        rw [← username] at has
        rw [Bool.not_eq_true, ← oauth] at off
        exact (reaches₁.agrees off has).symm.trans (reaches₂.agrees off has)
    rw [(reaches₁.passed clear₁).2, (reaches₂.passed clear₂).2, same]

theorem clear_of_refreshChosen {s : RefreshScan} {af4c af6c : Bool} {origSs : SuperSession} {auth : AuthResult}
    (passed : (refreshChosen server env node s af4c af6c origSs auth).passed = true) : auth.Clear := by
  unfold refreshChosen at passed
  dsimp only at passed
  split at passed
  · cases passed
  · rename_i noLookup
    split at passed
    · cases passed
    · rename_i fine
      exact ⟨not_not.mp fine, noLookup⟩

theorem refreshMobile_alike {s : RefreshScan} {af4c af6c : Bool} {origSs : SuperSession}
    (names : claimedUsername m₁ = claimedUsername m₂)
    (passed₁ : (refreshMobile server env node m₁ s af4c af6c origSs canResume).passed = true)
    (passed₂ : (refreshMobile server env node m₂ s af4c af6c origSs canResume).passed = true) :
    refreshMobile server env node m₁ s af4c af6c origSs canResume =
      refreshMobile server env node m₂ s af4c af6c origSs canResume := by
  have notBind : stunMethodRefresh ≠ stunMethodConnectionBind := by decide
  unfold refreshMobile
  rw [checkStunAuth_alike notBind (fun _ => names) (clear_of_refreshChosen passed₁) (clear_of_refreshChosen passed₂)]

theorem refreshChecked_alike {s : RefreshScan} {af4c af6c : Bool}
    (takes : node.ss.alloc.isValid = false → claimedUsername m₁ = claimedUsername m₂ ∧
      (refreshChecked server env node m₁ s af4c af6c canResume).passed = true ∧
      (refreshChecked server env node m₂ s af4c af6c canResume).passed = true) :
    refreshChecked server env node m₁ s af4c af6c canResume =
      refreshChecked server env node m₂ s af4c af6c canResume := by
  unfold refreshChecked at takes ⊢
  split
  · rfl
  · rename_i known
    split
    · rfl
    · rename_i fine
      split
      · rename_i invalid
        obtain ⟨names, passed₁, passed₂⟩ := takes invalid
        rw [if_neg known, if_neg fine, if_pos invalid] at passed₁ passed₂
        obtain ⟨origSs, _, chosen⟩ := refreshTicket_passed passed₁
        rw [chosen] at passed₁ passed₂ ⊢
        rw [chosen]
        exact refreshMobile_alike names passed₁ passed₂
      · rfl

theorem handleTurnRefresh_alike (alike : AlikeFor stunMethodRefresh m₁ m₂)
    (takes : takesOver server node.ss stunMethodRefresh = true → claimedUsername m₁ = claimedUsername m₂ ∧
      (handleTurnRefresh server env node m₁ canResume).passed = true ∧
      (handleTurnRefresh server env node m₂ canResume).passed = true) :
    handleTurnRefresh server env node m₁ canResume = handleTurnRefresh server env node m₂ canResume := by
  by_cases refused : node.ss.alloc.isValid = false ∧ server.mobility = false
  · exact (if_pos refused).trans (if_pos refused).symm
  · have unread : ∀ s (a : Attribute), handlerReads stunMethodRefresh a.attrType = false →
        RefreshScan.body server node.ss (hasOpenRelay node.ss .inet) (hasOpenRelay node.ss .inet6) s a = s :=
      fun s _ unread => RefreshScan.body_unread server node.ss _ _ s unread
    have scan := alike.scan RefreshScan.running unread .start
    have checked : ∀ m, handleTurnRefresh server env node m canResume = refreshChecked server env node m
        (scanAttrs RefreshScan.running (RefreshScan.body server node.ss (hasOpenRelay node.ss .inet)
          (hasOpenRelay node.ss .inet6)) .start m.attrs)
        (hasOpenRelay node.ss .inet) (hasOpenRelay node.ss .inet6) canResume := fun _ => if_neg refused
    rw [checked, checked, scan] at takes
    rw [checked, checked, scan]
    apply refreshChecked_alike
    intro invalid
    refine takes ?_
    have mobile : server.mobility = true := by
      by_contra off
      exact refused ⟨invalid, by simpa using off⟩
    simp [takesOver, mobile, invalid]

theorem beforeAuth_goesOn (goesOn : (beforeAuth server env ss m method).2.goesOn = true) :
    beforeAuth server env ss m method =
      (if ss.originSet = false ∧ method = stunMethodAllocate then
        { takeOrigin server env ss (origins m) with originSet := true } else ss, redirectReply env method) := by
  unfold beforeAuth at goesOn ⊢
  dsimp only at goesOn ⊢
  cases isSet : ss.originSet with
  | true =>
    rw [isSet, if_pos rfl] at goesOn
    rw [if_pos rfl, if_neg (by simp)]
    split at goesOn
    · cases goesOn
    · rfl
  | false =>
    rw [isSet, if_neg (by decide)] at goesOn
    rw [if_neg (by decide)]
    split at goesOn
    · rename_i first
      rw [if_pos first, if_pos ⟨rfl, first.2⟩]
    · rename_i notFirst
      have fine : (redirectReply env method).errCode = 0 := by
        simp only [Reply.goesOn, Bool.and_eq_true, beq_iff_eq] at goesOn
        exact goesOn.1.1
      rw [if_neg notFirst, if_neg (fun both => notFirst ⟨fine, both.2⟩)]

theorem beforeAuth_alike (sameOrigins : ss.originSet = false → method = stunMethodAllocate → origins m₁ = origins m₂)
    (goesOn₁ : (beforeAuth server env ss m₁ method).2.goesOn = true)
    (goesOn₂ : (beforeAuth server env ss m₂ method).2.goesOn = true) :
    beforeAuth server env ss m₁ method = beforeAuth server env ss m₂ method := by
  rw [beforeAuth_goesOn goesOn₁, beforeAuth_goesOn goesOn₂]
  split
  · rename_i first
    rw [sameOrigins first.1 first.2]
  · rfl

/-- Two requests that differ in nothing that takes effect. -/
structure AlikeIn (server : TurnServer) (ss : SuperSession) (m₁ m₂ : Request) : Prop where
  method : m₁.method = m₂.method
  tid : m₁.tid = m₂.tid
  request : stunIsRequestStr m₁.buf m₁.len = stunIsRequestStr m₂.buf m₂.len
  attrs : m₁.attrs.filter (fun a => takesEffect server ss m₁.method a.attrType) =
    m₂.attrs.filter (fun a => takesEffect server ss m₁.method a.attrType)

namespace AlikeIn

variable {server : TurnServer} {ss : SuperSession} {m₁ m₂ : Request}

theorem filter {keep : Attribute → Bool} (alike : AlikeIn server ss m₁ m₂)
    (effective : ∀ a, keep a = true → takesEffect server ss m₁.method a.attrType = true) :
    m₁.attrs.filter keep = m₂.attrs.filter keep := by
  have narrow : ∀ attrs : List Attribute,
      (attrs.filter (fun a => takesEffect server ss m₁.method a.attrType)).filter keep = attrs.filter keep := by
    intro attrs
    rw [List.filter_filter]
    apply List.filter_congr
    intro a _
    cases kept : keep a with
    | true => simp [effective a kept]
    | false => simp
  rw [← narrow m₁.attrs, alike.attrs, narrow]

theorem handler (alike : AlikeIn server ss m₁ m₂) : AlikeFor m₁.method m₁ m₂ := by
  refine ⟨alike.tid, alike.filter ?_⟩
  intro a reads
  simp [takesEffect, reads]

theorem origins (alike : AlikeIn server ss m₁ m₂) (unset : ss.originSet = false)
    (isAllocate : m₁.method = stunMethodAllocate) : origins m₁ = origins m₂ := by
  refine alike.filter ?_
  intro a isOrigin
  simp only [takesEffect, Bool.or_eq_true, Bool.and_eq_true, Bool.not_eq_true'] at isOrigin ⊢
  exact .inr ⟨⟨isOrigin.1, beq_iff_eq.mpr isAllocate⟩, unset⟩

theorem claimedUsername (alike : AlikeIn server ss m₁ m₂)
    (counts : (ss.username = [] ∨ ss.oauth = true) ∨ takesOver server ss m₁.method = true) :
    claimedUsername m₁ = claimedUsername m₂ := by
  have first : ∀ attrs : List Attribute, firstOfType attrs stunAttributeUsername =
      (attrs.filter (fun a => a.attrType == stunAttributeUsername)).head? := by
    intro attrs
    rw [List.head?_filter]
    rfl
  unfold Server.claimedUsername
  rw [first, first, alike.filter]
  intro a isName
  simp only [takesEffect, Bool.or_eq_true, Bool.and_eq_true]
  rcases counts with (empty | on) | takes
  · exact .inl (.inr ⟨isName, .inl (.inl (List.isEmpty_iff.mpr empty))⟩)
  · exact .inl (.inr ⟨isName, .inl (.inr on)⟩)
  · exact .inl (.inr ⟨isName, .inr takes⟩)

end AlikeIn

theorem runHandler_alike (alike : AlikeFor method m₁ m₂)
    (takes : takesOver server node.ss method = true → claimedUsername m₁ = claimedUsername m₂ ∧
      (runHandler server env node m₁ method canResume).passed = true ∧
      (runHandler server env node m₂ method canResume).passed = true) :
    runHandler server env node m₁ method canResume = runHandler server env node m₂ method canResume := by
  unfold runHandler at takes ⊢
  split
  · rename_i isAllocate
    subst isAllocate
    rw [handleTurnAllocate_alike server env node.ss alike]
  · rename_i notAllocate
    split
    · rename_i isRefresh
      subst isRefresh
      rw [if_neg notAllocate, if_neg notAllocate, if_pos rfl, if_pos rfl] at takes
      exact handleTurnRefresh_alike alike takes
    · split
      · rw [handleTurnChannelBind_alike server env node.ss alike]
      · split
        · rw [handleTurnCreatePermission_alike server env node.ss alike]
        · rfl

theorem beforeAuth_frame (server : TurnServer) (env : Env) (ss : SuperSession) (m : Request) (method : UInt16) :
    (beforeAuth server env ss m method).1.username = ss.username ∧
      (beforeAuth server env ss m method).1.oauth = ss.oauth ∧
      (beforeAuth server env ss m method).1.alloc = ss.alloc := by
  have taken : ∀ (attrs : List Attribute) (ss : SuperSession),
      (takeOrigin server env ss attrs).username = ss.username ∧ (takeOrigin server env ss attrs).oauth = ss.oauth ∧
        (takeOrigin server env ss attrs).alloc = ss.alloc := by
    intro attrs
    induction attrs with
    | nil => exact fun _ => ⟨rfl, rfl, rfl⟩
    | cons a rest next =>
      intro ss
      rw [takeOrigin]
      dsimp only
      split
      · exact ⟨rfl, rfl, rfl⟩
      · exact next _
  unfold beforeAuth
  dsimp only
  split
  · split <;> exact ⟨rfl, rfl, rfl⟩
  · split
    · exact taken (origins m) ss
    · exact ⟨rfl, rfl, rfl⟩

theorem passes_of_runChecked {auth : AuthResult}
    (passed : (runChecked server env node m method canResume auth).outcome.passed = true) : auth.passes = true := by
  unfold runChecked at passed
  dsimp only at passed
  split at passed
  · assumption
  · cases passed

theorem takesOver_of_needsAuthHere (due : needsAuthHere server ss method = true) :
    takesOver server ss method = false := by
  unfold needsAuthHere at due
  unfold takesOver
  simp only [Bool.and_eq_true, Bool.or_eq_true] at due
  rcases due.2 with (fixed | other) | valid
  · simp at fixed
    simp [fixed]
  · simp at other
    simp [other]
  · simp [valid]

theorem takesOver_congr (server : TurnServer) {ss' : SuperSession} (method : UInt16) (same : ss'.alloc = ss.alloc) :
    takesOver server ss' method = takesOver server ss method := by
  unfold takesOver
  rw [same]

theorem authAndRun_alike (notBind : method ≠ stunMethodConnectionBind) (alike : AlikeFor method m₁ m₂)
    (names : (node.ss.username = [] ∨ node.ss.oauth = true) ∨ takesOver server node.ss method = true →
      claimedUsername m₁ = claimedUsername m₂)
    (passed₁ : (authAndRun server env node m₁ method canResume).outcome.passed = true)
    (passed₂ : (authAndRun server env node m₂ method canResume).outcome.passed = true) :
    authAndRun server env node m₁ method canResume = authAndRun server env node m₂ method canResume := by
  unfold authAndRun at passed₁ passed₂ ⊢
  split
  · rename_i due
    rw [if_pos due] at passed₁ passed₂
    have clear₁ := AuthResult.clear_of_passes (passes_of_runChecked passed₁)
    have clear₂ := AuthResult.clear_of_passes (passes_of_runChecked passed₂)
    rw [checkStunAuth_alike notBind (fun takes => names (.inl takes)) clear₁ clear₂]
    unfold runChecked
    dsimp only
    rw [runHandler_alike alike]
    intro takes
    rw [takesOver_congr server method (checkStunAuth_alloc notBind clear₂), takesOver_of_needsAuthHere due] at takes
    cases takes
  · rename_i notDue
    rw [if_neg notDue] at passed₁ passed₂
    rw [runHandler_alike alike (fun takes => ⟨names (.inr takes), passed₁, passed₂⟩)]

theorem processRequest_passed (notBinding : m.method ≠ stunMethodBinding)
    (passed : (processRequest server env node m canResume).outcome.passed = true) :
    (beforeAuth server env node.ss m m.method).2.goesOn = true ∧
      processRequest server env node m canResume =
        authAndRun server env { node with ss := (beforeAuth server env node.ss m m.method).1 } m m.method canResume := by
  unfold processRequest at passed ⊢
  rw [if_neg (fun both => notBinding both.1)] at passed ⊢
  split at passed
  · cases passed
  · rename_i served
    rw [if_pos (.inl notBinding)] at passed
    rw [if_neg served, if_pos (.inl notBinding)]
    dsimp only at passed ⊢
    split at passed
    · rename_i goesOn
      exact ⟨goesOn, if_pos goesOn⟩
    · cases passed

theorem processRequest_alike (alike : AlikeIn server node.ss m₁ m₂) (guarded : isGuarded m₁.method = true)
    (passed₁ : (processRequest server env node m₁ canResume).outcome.passed = true)
    (passed₂ : (processRequest server env node m₂ canResume).outcome.passed = true) :
    processRequest server env node m₁ canResume = processRequest server env node m₂ canResume := by
  have other : ∀ {method}, isGuarded method = false → m₁.method ≠ method := by
    rintro method unguarded rfl
    rw [guarded] at unguarded
    cases unguarded
  have notBinding : m₁.method ≠ stunMethodBinding := other (by decide)
  obtain ⟨goesOn₁, read₁⟩ := processRequest_passed notBinding passed₁
  obtain ⟨goesOn₂, read₂⟩ := processRequest_passed (alike.method ▸ notBinding) passed₂
  rw [read₁] at passed₁ ⊢
  rw [read₂] at passed₂ ⊢
  rw [← alike.method] at goesOn₂ passed₂ ⊢
  have before := beforeAuth_alike alike.origins goesOn₁ goesOn₂
  rw [← before] at passed₂ ⊢
  obtain ⟨username, oauth, alloc⟩ := beforeAuth_frame server env node.ss m₁ m₁.method
  refine authAndRun_alike (other (by decide)) alike.handler ?_ passed₁ passed₂
  intro counts
  rw [takesOver_congr server m₁.method alloc, username, oauth] at counts
  exact alike.claimedUsername counts

theorem afterIntegrity_of_split {pre post : List Attribute} {a : Attribute} (split : m.attrs = pre ++ a :: post)
    (isIntegrity : a.attrType = stunAttributeMessageIntegrity)
    (others : ∀ b ∈ pre, b.attrType ≠ stunAttributeMessageIntegrity) : afterIntegrity m = post := by
  have dropped : m.attrs.dropWhile (fun a => a.attrType != stunAttributeMessageIntegrity) = a :: post := by
    rw [split, List.dropWhile_append_of_pos (fun b member => bne_iff_ne.mpr (others b member)),
      List.dropWhile_cons_of_neg (by simp [isIntegrity])]
  rw [afterIntegrity, dropped]
  rfl

theorem SameCovered.alikeIn {sar : Nat} (same : SameCovered m₁ m₂ sar)
    (effective : (afterIntegrity m₁).filter (fun a => takesEffect server ss m₁.method a.attrType) =
      (afterIntegrity m₂).filter (fun a => takesEffect server ss m₁.method a.attrType)) : AlikeIn server ss m₁ m₂ := by
  have header : stunHeaderLength = 20 := rfl
  obtain ⟨behind, within₁⟩ := stunAttrGetFirstByTypeStr_bounds same.first₁
  obtain ⟨-, within₂⟩ := stunAttrGetFirstByTypeStr_bounds same.first₂
  have bytes : ∀ i, i < sar + 4 → i ≠ 2 → i ≠ 3 → m₁.buf i = m₂.buf i := by
    intro i below
    exact same.bytes i (Nat.lt_of_lt_of_le below (Nat.le_add_right _ _))
  have typeWord : net16 m₁.buf 0 = net16 m₂.buf 0 :=
    net16_congr (bytes 0 (by omega) (by decide) (by decide)) (bytes 1 (by omega) (by decide) (by decide))
  have long₁ : ¬ m₁.len < 2 := by omega
  have long₂ : ¬ m₂.len < 2 := by omega
  obtain ⟨pre, a, post₁, post₂, split₁, split₂, isIntegrity, others⟩ := attributes_share
    (fun i above below => same.bytes i below (by omega) (by omega)) same.first₁ same.first₂
  rw [afterIntegrity_of_split split₁ isIntegrity others, afterIntegrity_of_split split₂ isIntegrity others] at effective
  refine ⟨?_, ?_, ?_, ?_⟩
  · unfold Request.method stunGetMethodStr
    rw [if_neg long₁, if_neg long₂, typeWord]
  · apply Memory.slice_congr
    intro i below
    have size : stunTidSize = 12 := rfl
    exact bytes (8 + i) (by omega) (by omega) (by omega)
  · unfold stunIsRequestStr stunIsClassStr isChannelMsgStr stunGetMsgTypeStr
    rw [if_neg long₁, if_neg long₂, typeWord, decide_eq_true (show 4 ≤ m₁.len by omega),
      decide_eq_true (show 4 ≤ m₂.len by omega)]
  · show (attributes m₁.buf m₁.len).filter _ = (attributes m₂.buf m₂.len).filter _
    rw [split₁, split₂, List.filter_append, List.filter_append, List.filter_cons, List.filter_cons, effective]

/-- Two requests with the same bytes up to the end of the first MESSAGE-INTEGRITY
that both pass the check of their credentials come to the same state and the same
response, if the attributes behind it agree as far as they take effect. -/
theorem covered_requests_agree {server : TurnServer} {env : Env} {node : Node} {m₁ m₂ : Request} {canResume : Bool}
    {sar : Nat} (same : SameCovered m₁ m₂ sar) (guarded : isGuarded m₁.method = true)
    (passed₁ : (handleTurnCommand server env node m₁ canResume).outcome.passed = true)
    (passed₂ : (handleTurnCommand server env node m₂ canResume).outcome.passed = true)
    (effective : (afterIntegrity m₁).filter (fun a => takesEffect server node.ss m₁.method a.attrType) =
      (afterIntegrity m₂).filter (fun a => takesEffect server node.ss m₁.method a.attrType)) :
    (handleTurnCommand server env node m₁ canResume).outcome =
      (handleTurnCommand server env node m₂ canResume).outcome := by
  have alike := same.alikeIn effective
  unfold handleTurnCommand at passed₁ passed₂ ⊢
  rw [← alike.request] at passed₂ ⊢
  split
  · rename_i isRequest
    rw [if_pos isRequest] at passed₁ passed₂
    rw [processRequest_alike alike guarded passed₁ passed₂]
  · rfl

/-- A Refresh with more attributes behind its MESSAGE-INTEGRITY. -/
def exampleExtended (behind : List Attribute) : Request :=
  .ofAttributes stunMethodRefresh (exampleCredentials [118] ++ exampleIntegrity [1] :: behind)

/-- SOFTWARE, a second REALM and FINGERPRINT change nothing. -/
theorem covered_requests_agree_software :
    (handleTurnCommand exampleServer exampleEnv exampleAllocated (exampleExtended []) true).outcome =
      (handleTurnCommand exampleServer exampleEnv exampleAllocated (exampleExtended
        [⟨stunAttributeSoftware, [120]⟩, ⟨stunAttributeRealm, [121]⟩, ⟨stunAttributeFingerprint, [0, 0, 0, 0]⟩])
        true).outcome := by
  have same : SameCovered (exampleExtended []) (exampleExtended [⟨stunAttributeSoftware, [120]⟩,
      ⟨stunAttributeRealm, [121]⟩, ⟨stunAttributeFingerprint, [0, 0, 0, 0]⟩]) 44 :=
    ⟨by decide +kernel, by decide +kernel, by decide +kernel⟩
  exact covered_requests_agree same (by decide +kernel) (by decide +kernel) (by decide +kernel) (by decide +kernel)

/-- A LIFETIME of zero that is added behind the MESSAGE-INTEGRITY ends the allocation. -/
theorem uncovered_lifetime_takes_effect :
    ¬ ∀ server env node m₁ m₂ canResume sar, SameCovered m₁ m₂ sar → isGuarded m₁.method = true →
      stunGetCommandMessageLenStr m₁.buf m₁.len = some m₁.len →
      stunGetCommandMessageLenStr m₂.buf m₂.len = some m₂.len →
      (handleTurnCommand server env node m₁ canResume).outcome.passed = true →
      (handleTurnCommand server env node m₂ canResume).outcome.passed = true →
      (handleTurnCommand server env node m₁ canResume).outcome.node =
        (handleTurnCommand server env node m₂ canResume).outcome.node := by
  intro claimed
  have agree := claimed exampleServer exampleEnv exampleAllocated (exampleExtended [])
    (exampleExtended [⟨stunAttributeLifetime, [0, 0, 0, 0]⟩]) true 44
    ⟨by decide +kernel, by decide +kernel, by decide +kernel⟩ (by decide +kernel) (by decide +kernel)
    (by decide +kernel) (by decide +kernel) (by decide +kernel)
  have expires := congrArg (fun node => node.ss.relay4.expirationTime) agree
  exact absurd expires (by decide +kernel)

end Server
end TurnCluster
