import TurnCluster.Server.Answers
import TurnCluster.Server.TcpConnections

namespace TurnCluster
namespace Server

/-- The part of `tcp_connection` that is used when a client connects for its data. -/
structure DataConnection where
  /-- `state == TC_STATE_READY`. -/
  ready : Bool
  clientS : Option Nat
  /-- The session that owns the allocation of the connection. -/
  owner : Option Nat

/-- The connections of a server with their tables, and the sessions, known by their addresses. -/
structure BindState where
  tables : Tcp.Tables
  connections : Nat → DataConnection
  sessions : Nat → SuperSession

namespace BindState

def setSession (st : BindState) (owner : Nat) (ss : SuperSession) : BindState :=
  { st with sessions := Function.update st.sessions owner ss }

/-- The connection is ready, with the socket of the client. -/
def bind (st : BindState) (tc s : Nat) : BindState :=
  { st with connections := Function.update st.connections tc { st.connections tc with ready := true, clientS := some s } }

/-- `get_and_clean_tcp_connection_by_id`. -/
def clean (st : BindState) (tcid : UInt32) : BindState :=
  { st with tables := (st.tables.getAndCleanTcpConnectionById tcid).1 }

/-- No client has connected for the data of the connection. -/
def Pending (st : BindState) (tc : Nat) : Prop := (st.connections tc).ready = false ∧ (st.connections tc).clientS = none

instance (st : BindState) (tc : Nat) : Decidable (st.Pending tc) := inferInstanceAs (Decidable (_ ∧ _))

end BindState

structure BindOutcome where
  returned : Int
  errCode : Nat
  state : BindState

/-- The end of `turnserver_accept_tcp_client_data_connection` for a connection that was found, with or without an error. -/
def bindEnd (st : BindState) (tcid : UInt32) (errCode : Nat) : BindOutcome :=
  ⟨if errCode = 0 then 0 else -1, errCode, st.clean tcid⟩

section Accept

variable (server : TurnServer) (env : Env)

/-- The part behind the check of the credentials. -/
def acceptChecked (st : BindState) (tcid : UInt32) (tc s owner : Nat) (auth : AuthResult) : BindOutcome :=
  let st := st.setSession owner auth.ss
  if auth.lookup.isSome then ⟨0, auth.reply.errCode, st⟩
  else if auth.reply.errCode ≠ 0 then bindEnd st tcid auth.reply.errCode
  else bindEnd (st.bind tc s) tcid (if env.registerCallback = true then 0 else 500)

/-- `turnserver_accept_tcp_client_data_connection` for a connection that was found. -/
def acceptFound (st : BindState) (tcid : UInt32) (tc s : Nat) (m : Request) (canResume : Bool) : BindOutcome :=
  if (st.connections tc).ready = true ∨ (st.connections tc).clientS.isSome then bindEnd st tcid 400
  else
    match (st.connections tc).owner with
    | none => bindEnd st tcid 500
    | some owner =>
      let ss := st.sessions owner
      if ss.toBeClosed = true ∨ ss.clientToBeClosed = true then bindEnd st tcid 404
      else acceptChecked env st tcid tc s owner (checkStunAuth server env ss m stunMethodConnectionBind canResume)

/-- `turnserver_accept_tcp_client_data_connection`: what it returns and leaves behind. A transaction id or a socket can
be missing. -/
def acceptTcpClientDataConnection (st : BindState) (tcid : UInt32) (tid : Option (List UInt8)) (s : Option Nat)
    (m : Request) (canResume : Bool) : BindOutcome :=
  match tid, s with
  | some _, some s =>
    if tcid = 0 then ⟨-1, 0, st⟩
    else
      match st.tables.getTcpConnectionById tcid with
      | none => ⟨-1, 400, st⟩
      | some tc => acceptFound server env st tcid tc s m canResume
  | _, _ => ⟨-1, 0, st⟩

end Accept

/-- The connection as the model of the response sees it. -/
def BindState.view (st : BindState) (tcid : UInt32) : Option TcpConnection :=
  (st.tables.getTcpConnectionById tcid).map (fun tc =>
    ⟨(st.connections tc).ready, (st.connections tc).clientS.isSome,
      (st.connections tc).owner.map st.sessions⟩)

variable {server : TurnServer} {env : Env} {st : BindState} {tcid : UInt32} {tc : Nat} {m : Request} {canResume : Bool}

theorem clean_get (st : BindState) (tcid : UInt32) : (st.clean tcid).tables.getTcpConnectionById tcid = none := by
  unfold BindState.clean Tcp.Tables.getAndCleanTcpConnectionById Tcp.Tables.getTcpConnectionById
  cases found : st.tables.tcpConnections tcid with
  | none => exact found
  | some tc => exact Function.update_self ..

theorem acceptChecked_cases {s owner : Nat} {auth : AuthResult} :
    let outcome := acceptChecked env st tcid tc s owner auth
    outcome.returned = 0 ∨ ¬ outcome.state.Pending tc ∨ outcome.state.tables.getTcpConnectionById tcid = none := by
  dsimp only
  unfold acceptChecked
  split
  · exact Or.inl rfl
  · split
    · exact Or.inr (Or.inr (clean_get _ _))
    · refine Or.inr (Or.inl fun pending => ?_)
      have ready := pending.1
      simp [bindEnd, BindState.clean, BindState.bind] at ready

theorem acceptFound_cases (server : TurnServer) (env : Env) (st : BindState) (tcid : UInt32) (tc s : Nat) (m : Request)
    (canResume : Bool) :
    let outcome := acceptFound server env st tcid tc s m canResume
    outcome.returned = 0 ∨ ¬ outcome.state.Pending tc ∨ outcome.state.tables.getTcpConnectionById tcid = none := by
  dsimp only
  unfold acceptFound
  split
  · exact Or.inr (Or.inr (clean_get _ _))
  · split
    · exact Or.inr (Or.inr (clean_get _ _))
    · dsimp only
      split
      · exact Or.inr (Or.inr (clean_get _ _))
      · exact acceptChecked_cases

theorem acceptTcpClientDataConnection_of_found {tid : List UInt8} {s : Nat} (nonzero : tcid ≠ 0)
    (found : st.tables.getTcpConnectionById tcid = some tc) :
    acceptTcpClientDataConnection server env st tcid (some tid) (some s) m canResume =
      acceptFound server env st tcid tc s m canResume := by
  simp only [acceptTcpClientDataConnection, if_neg nonzero, found]

theorem acceptChecked_errCode {s owner : Nat} {auth : AuthResult} (known : ¬ auth.lookup.isSome = true) :
    (acceptChecked env st tcid tc s owner auth).errCode =
      if auth.reply.errCode ≠ 0 then auth.reply.errCode else if env.registerCallback = true then 0 else 500 := by
  unfold acceptChecked
  dsimp only
  rw [if_neg known]
  split <;> rfl

theorem accept_errCode (r : Responder) (tid : List UInt8) (s : Nat) (messageIntegrity : Bool) (nonzero : tcid ≠ 0) :
    ∀ a ∈ r.accept (st.view tcid) m messageIntegrity canResume,
      a.errCode = (acceptTcpClientDataConnection r.server r.env st tcid (some tid) (some s) m canResume).errCode := by
  intro a accepted
  cases found : st.tables.getTcpConnectionById tcid with
  | none =>
    simp only [BindState.view, found, Option.map_none, Responder.accept] at accepted
    cases accepted
    simp only [acceptTcpClientDataConnection, if_neg nonzero, found]
  | some tc =>
    rw [acceptTcpClientDataConnection_of_found nonzero found]
    simp only [BindState.view, found, Option.map_some, Responder.accept] at accepted
    unfold acceptFound
    by_cases used : (st.connections tc).ready = true ∨ (st.connections tc).clientS.isSome = true
    · rw [if_pos used] at accepted ⊢
      cases accepted
      rfl
    · rw [if_neg used] at accepted ⊢
      cases owned : (st.connections tc).owner with
      | none =>
        simp only [owned, Option.map_none] at accepted
        cases accepted
        rfl
      | some owner =>
        simp only [owned, Option.map_some] at accepted ⊢
        by_cases closing : (st.sessions owner).toBeClosed = true ∨ (st.sessions owner).clientToBeClosed = true
        · rw [if_pos closing] at accepted ⊢
          cases accepted
          rfl
        · rw [if_neg closing] at accepted ⊢
          split at accepted
          · cases accepted
          · rename_i known
            cases accepted
            rw [acceptChecked_errCode known]

/-- After a ConnectionBind that fails and does not bind the connection, the connection is still found under its id if and
only if the call had no id, no transaction id or no socket and so never looked for it. -/
theorem failed_bind_keeps_connection_iff {tid : Option (List UInt8)} {s : Option Nat}
    (found : st.tables.getTcpConnectionById tcid = some tc)
    (failed : (acceptTcpClientDataConnection server env st tcid tid s m canResume).returned = -1)
    (unbound : (acceptTcpClientDataConnection server env st tcid tid s m canResume).state.Pending tc) :
    (acceptTcpClientDataConnection server env st tcid tid s m canResume).state.tables.getTcpConnectionById tcid =
        some tc ↔
      tcid = 0 ∨ tid = none ∨ s = none := by
  cases tid with
  | none => simp [acceptTcpClientDataConnection, found]
  | some tid =>
    cases s with
    | none => simp [acceptTcpClientDataConnection, found]
    | some s =>
      by_cases zero : tcid = 0
      · simp [acceptTcpClientDataConnection, zero]
        exact zero ▸ found
      · rw [acceptTcpClientDataConnection_of_found zero found] at failed unbound ⊢
        have gone : (acceptFound server env st tcid tc s m canResume).state.tables.getTcpConnectionById tcid = none := by
          rcases acceptFound_cases server env st tcid tc s m canResume with returned | bound | gone
          · rw [returned] at failed
            cases failed
          · exact absurd unbound bound
          · exact gone
        rw [gone]
        simp [zero]

/-- A connection of the server 1 with the id 5, of a session that is open. -/
def exampleBindState : BindState where
  tables := Tcp.Tables.empty.enter 0 1 0x01000005 (.inet 1 1)
  connections _ := ⟨false, none, some 0⟩
  sessions _ := exampleNode.ss

/-- A ConnectionBind for it without credentials. -/
def exampleBind : Request := .ofAttributes stunMethodConnectionBind [⟨stunAttributeConnectionId, [5, 0, 0, 1]⟩]

example : (connectionBindScanned exampleBind).id = 0x01000005 := by decide +kernel

/-- Without a socket nothing is looked for. -/
theorem failed_bind_keeps_connection_iff_no_socket :
    (acceptTcpClientDataConnection exampleServer exampleEnv exampleBindState 0x01000005 (some []) none exampleBind
      false).state.tables.getTcpConnectionById 0x01000005 = some 1 :=
  have found : exampleBindState.tables.getTcpConnectionById 0x01000005 = some 1 := by decide
  (failed_bind_keeps_connection_iff found (by decide) (by decide)).mpr (Or.inr (Or.inr rfl))

/-- The challenge of a ConnectionBind without credentials takes the connection out of the map, and with it the answer to
the challenge. -/
theorem challenged_bind_loses_connection :
    let outcome := acceptTcpClientDataConnection exampleServer exampleEnv exampleBindState 0x01000005 (some []) (some 7)
      exampleBind false
    exampleBindState.tables.getTcpConnectionById 0x01000005 = some 1 ∧ exampleBindState.Pending 1 ∧ outcome.returned = -1 ∧
      outcome.errCode = 401 ∧ outcome.state.Pending 1 ∧ outcome.state.tables.getTcpConnectionById 0x01000005 = none := by
  decide

end Server
end TurnCluster
