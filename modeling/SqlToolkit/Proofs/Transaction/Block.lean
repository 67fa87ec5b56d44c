import SqlToolkit.Connection.Scripted
import SqlToolkit.Proofs.Builder.Sending
import SqlToolkit.Proofs.Facade.Call

/-!
# Transaction blocks

The body of a transaction block may make any calls that run statements, use what they give, raise
faults of its own and catch those that calls raise. While the transaction is open none of this
commits or rolls back; the block itself ends the transaction, once, when the body is over.
-/

namespace SqlToolkit

open SqlToolkit.Action (Keeps)

variable {σ : Type}

/-! ## Within an open transaction -/

def Call.sending (statement : String × Option Arguments) : Call :=
  .execute statement.1 statement.2

/-- If a transaction was open it is open still, and nothing but statements was sent since. -/
def Client.SendsWithin (before after : Client σ) : Prop :=
  before.inTransaction = true → after.inTransaction = true ∧
    ∃ statements : List (String × Option Arguments),
      after.calls = before.calls ++ statements.map Call.sending

instance : IsPreorder (Client σ) Client.SendsWithin where
  refl client ho := ⟨ho, [], (List.append_nil _).symm⟩
  trans first second third h h' ho := by
    obtain ⟨ho', statements, hc⟩ := h ho
    obtain ⟨ho'', statements', hc'⟩ := h' ho'
    refine ⟨ho'', statements ++ statements', ?_⟩
    rw [hc', hc, List.append_assoc, List.map_append]

open Client (SendsWithin)

section Layers

variable [Connection σ]

theorem Client.run_sendsWithin (sql : String) (arguments : Option Arguments) :
    Keeps SendsWithin id (run sql arguments : Action (Client σ) ResultSet) := by
  intro client (ho : client.inTransaction = true)
  cases hr : (Connection.execute sql arguments client.connection).1 with
  | ok result =>
    rw [id, after_run_of_ok ho hr]
    exact ⟨ho, [(sql, arguments)], rfl⟩
  | error message =>
    rw [id, after_run_of_error ho hr]
    exact ⟨ho, [(sql, arguments)], rfl⟩

/-- Within an open transaction a write has none of its own: it is held back or just run. -/
theorem Builder.executeStatement_sendsWithin :
    Keeps SendsWithin Builder.client (executeStatement : Action (Builder σ) ExecutionResult) := by
  intro builder ho
  cases h : builder.rendered with
  | error fault => rw [client_of_refused h]; exact refl (r := SendsWithin) _ ho
  | ok statement =>
    obtain ⟨sql, placeholders⟩ := statement
    cases hh : builder.holdsBack sql with
    | true => rw [client_of_held h hh]; exact refl (r := SendsWithin) _ ho
    | false =>
      rw [client_of_unowned h hh (ownsTransaction_eq_false_iff.mpr (.inl ho))]
      exact PreparedStatement.run_keeps Client.run_sendsWithin sql placeholders builder.client ho

theorem Builder.execute_sendsWithin :
    Keeps SendsWithin Builder.client (execute : Action (Builder σ) ExecutionResult) :=
  execute_keeps Client.run_sendsWithin executeStatement_sendsWithin

namespace Facade

/-! ## Bodies -/

/-- A body made of calls that run statements, and of steps that leave the client alone: computing,
raising a fault, fetching, composing, choosing a debug mode. It may go on in any way from what a
step gave, and it may catch the fault of any part of it. -/
inductive StatementBody : {α : Type} → Action (Facade σ) α → Prop where
  | call {α : Type} (call : Call α) : StatementBody call.run
  | columnNames (table : String) : StatementBody (Facade.columnNames table)
  | numRows : StatementBody (onBuilder Builder.numRows)
  | aside {α : Type} {action : Action (Facade σ) α} (h : Keeps Eq client action) :
      StatementBody action
  | bind {α β : Type} {first : Action (Facade σ) α} {next : α → Action (Facade σ) β}
      (h : StatementBody first) (hn : ∀ result, StatementBody (next result)) :
      StatementBody (first >>= next)
  | attempt {α : Type} {action : Action (Facade σ) α} (h : StatementBody action) :
      StatementBody (Action.attempt action)

/-- Within an open transaction a body sends statements and nothing else. -/
theorem StatementBody.sendsWithin {α : Type} {body : Action (Facade σ) α} (h : StatementBody body) :
    Keeps SendsWithin client body := by
  induction h with
  | call call => exact call.run_keeps Builder.execute_sendsWithin
  | columnNames table =>
    exact columnNames_keeps (fun _ _ => rfl) table
      ((Call.columns table .assoc (.bool false)).run_keeps Builder.execute_sendsWithin)
  | numRows => exact onBuilder_keeps (Builder.numRows_keeps Client.run_sendsWithin)
  | aside h => exact Keeps.of_eq h
  | bind _ _ ih ihn => exact ih.bind ihn
  | attempt _ ih => exact ih.attempt

/-! ## Blocks -/

def opened (facade : Facade σ) : Facade σ := { facade with builder := facade.builder.opened }

section Client

variable {α : Type}

omit [Connection σ] in
theorem after_onClient (action : Action (Client σ) α) (facade : Facade σ) :
    (onBuilder (Builder.onClient action)).after facade =
      { facade with builder := facade.builder.withClient action } := by
  rw [onBuilder, Action.after_on]
  exact congrArg (builderPart.set · facade) (Builder.after_onClient action facade.builder)

omit [Connection σ] in
theorem outcome_onClient (action : Action (Client σ) α) (facade : Facade σ) :
    (onBuilder (Builder.onClient action)).outcome facade = action.outcome facade.client := by
  rw [onBuilder, Action.outcome_on]
  exact Builder.outcome_onClient action facade.builder

omit [Connection σ] in
theorem after_beginTransaction {facade : Facade σ} (h : facade.client.inTransaction = false) :
    (onBuilder Builder.beginTransaction).after facade = facade.opened := by
  have hclosed : facade.builder.client.inTransaction = false := h
  rw [Builder.beginTransaction, after_onClient, Builder.withClient,
    Client.after_beginTransaction hclosed]
  rfl

omit [Connection σ] in
theorem outcome_beginTransaction {facade : Facade σ} (h : facade.client.inTransaction = false) :
    (onBuilder Builder.beginTransaction).outcome facade = .ok () := by
  rw [Builder.beginTransaction, outcome_onClient, Client.outcome_beginTransaction h]

end Client

def begun {S : Type} (part : Part S (Facade σ)) (state : S) : S :=
  part.set (part.get state).opened state

/-- A body that a fault left is rolled back before the fault is passed on, unless that fails. -/
theorem outcome_transaction_on_of_error {S α : Type} {part : Part S (Facade σ)} {body : Action S α}
    {state : S} {fault : Fault} (h : (part.get state).client.inTransaction = false)
    (hb : body.outcome (begun part state) = .error fault) :
    (transaction part body).outcome state =
      (Client.rollback.outcome (part.get (body.after (begun part state))).client).bind
        fun _ => .error fault := by
  have hbegin : (Action.on part (onBuilder Builder.beginTransaction)).outcome state = .ok () := by
    rw [Action.outcome_on, outcome_beginTransaction h]
  have hstart : (Action.on part (onBuilder Builder.beginTransaction)).after state =
      begun part state := by
    rw [Action.after_on, after_beginTransaction h, begun]
  unfold transaction
  rw [Action.outcome_bind_ok hbegin, hstart, Action.outcome_bind_ok (Action.outcome_attempt _ _),
    Action.attempt_after, hb, Builder.rollbackTransaction, ← outcome_onClient]
  dsimp only
  rw [Action.outcome_bind, Action.outcome_on]
  cases (onBuilder (Builder.onClient Client.rollback)).outcome
    (part.get (body.after (begun part state))) <;> rfl

section Block

variable {α : Type} {body : Action (Facade σ) α} {facade : Facade σ}
  (h : facade.client.inTransaction = false)

include h

/-- A body that a fault left is rolled back. -/
theorem client_transaction_of_error {fault : Fault}
    (hb : body.outcome facade.opened = .error fault) :
    ((transaction Part.whole body).after facade).client =
      Client.rollback.after (body.after facade.opened).client := by
  unfold transaction
  simp only [Action.on_whole]
  rw [Action.after_bind_ok (outcome_beginTransaction h), after_beginTransaction h,
    Action.after_bind_ok (Action.outcome_attempt _ _), Action.attempt_after, hb,
    Action.view_after_bind client fun _ => Keeps.throw _, Builder.rollbackTransaction,
    after_onClient]
  rfl

theorem outcome_transaction_of_error {fault : Fault}
    (hb : body.outcome facade.opened = .error fault) :
    (transaction Part.whole body).outcome facade =
      (Client.rollback.outcome (body.after facade.opened).client).bind fun _ => .error fault :=
  outcome_transaction_on_of_error h hb

/-- A body that completed is committed. -/
theorem client_transaction_of_ok {result : α} (hb : body.outcome facade.opened = .ok result) :
    ((transaction Part.whole body).after facade).client =
      Client.commit.after (body.after facade.opened).client := by
  unfold transaction
  simp only [Action.on_whole]
  rw [Action.after_bind_ok (outcome_beginTransaction h), after_beginTransaction h,
    Action.after_bind_ok (Action.outcome_attempt _ _), Action.attempt_after, hb,
    Action.view_after_bind client fun _ => Keeps.pure _, Builder.commitTransaction, after_onClient]
  rfl

theorem outcome_transaction_of_ok {result : α} (hb : body.outcome facade.opened = .ok result) :
    (transaction Part.whole body).outcome facade =
      (Client.commit.outcome (body.after facade.opened).client).map fun _ => result := by
  unfold transaction
  simp only [Action.on_whole]
  rw [Action.outcome_bind_ok (outcome_beginTransaction h), after_beginTransaction h,
    Action.outcome_bind_ok (Action.outcome_attempt _ _), Action.attempt_after, hb,
    Builder.commitTransaction, ← outcome_onClient]
  exact Action.outcome_map _ _ _

end Block

/-- **A transaction block is one unit.** Where no transaction is open, a block sends the statements
of its body and then makes one call more, whatever the body catches and however the connection
answers: the commit if the body completed, the rollback if a fault left it. Even if that call fails
no transaction is open afterwards. A block gives what its body gave, or passes on the fault that
left it, unless that last call fails. -/
theorem transaction_is_one_unit {α : Type} {facade : Facade σ} {body : Action (Facade σ) α}
    (h : facade.client.inTransaction = false) (hbody : StatementBody body) :
    let block := transaction Part.whole body
    let ran := body.after facade.opened
    let final := block.after facade
    (∃ statements : List (String × Option Arguments),
      ran.client.calls = facade.client.calls ++ statements.map Call.sending) ∧
    final.client.inTransaction = false ∧
    (∀ result, body.outcome facade.opened = .ok result →
      final.client.calls = ran.client.calls ++ [.commit] ∧
      block.outcome facade =
        ((Connection.commit ran.client.connection).1.mapError Fault.driver).map fun _ => result) ∧
    ∀ fault, body.outcome facade.opened = .error fault →
      final.client.calls = ran.client.calls ++ [.rollback] ∧
      ((Connection.rollback ran.client.connection).1 = .ok () →
        block.outcome facade = .error fault) ∧
      ∀ message, (Connection.rollback ran.client.connection).1 = .error message →
        block.outcome facade = .error (.driver message) := by
  intro block ran final
  obtain ⟨hopen, statements, hcalls⟩ := hbody.sendsWithin facade.opened rfl
  have hclosed : final.client.inTransaction = false := by
    cases hb : body.outcome facade.opened with
    | ok result =>
      exact (congrArg Client.inTransaction (client_transaction_of_ok h hb)).trans
        (congrArg Client.inTransaction (Client.after_commit hopen))
    | error fault =>
      exact (congrArg Client.inTransaction (client_transaction_of_error h hb)).trans
        (congrArg Client.inTransaction (Client.after_rollback hopen))
  refine ⟨⟨statements, hcalls⟩, hclosed, fun result hb => ⟨?_, ?_⟩, fun fault hb => ⟨?_, ?_, ?_⟩⟩
  · exact (congrArg Client.calls (client_transaction_of_ok h hb)).trans
      (congrArg Client.calls (Client.after_commit hopen))
  · exact (outcome_transaction_of_ok h hb).trans
      (congrArg (Except.map fun _ => result) (Client.outcome_commit hopen))
  · exact (congrArg Client.calls (client_transaction_of_error h hb)).trans
      (congrArg Client.calls (Client.after_rollback hopen))
  · intro hr
    rw [outcome_transaction_of_error h hb, Client.outcome_rollback hopen, hr]
    rfl
  · intro message hr
    rw [outcome_transaction_of_error h hb, Client.outcome_rollback hopen, hr]
    rfl

end Facade

end Layers

namespace Facade

/-- A session whose connection rejects the first statement and will fail to roll back. -/
def rejectingSession : Facade Scripted :=
  { builder := {
      client := { connection := {
        responses := [{ failure := some "locked" }], rollbackFailures := [some "gone"] } }
      dialect := .sqlite } }

/-- Catches the fault of a DELETE, runs another statement and gives up. -/
def catchThenAbort : Action (Facade Scripted) Unit := do
  let _ ← Action.attempt (Call.delete (.text "t") .null (.bool false)).run
  let _ ← (Call.query (.text "DELETE FROM u") .null (.bool false)).run
  throw (.caller "stop")

theorem catchThenAbort_statementBody : StatementBody catchThenAbort :=
  .bind (.attempt (.call _)) fun _ => .bind (.call _) fun _ => .aside (Keeps.throw _)

theorem transaction_is_one_unit_failingRollback :
    rejectingSession.client.inTransaction = false ∧ StatementBody catchThenAbort ∧
      let block := transaction Part.whole catchThenAbort
      (block.after rejectingSession).client.calls =
        [.execute "DELETE FROM t" none, .execute "DELETE FROM u" none, .rollback] ∧
      (block.after rejectingSession).client.inTransaction = false ∧
      block.outcome rejectingSession = .error (.driver "gone") := by
  have hidle : rejectingSession.client.inTransaction = false := rfl
  obtain ⟨-, hclosed, -, herror⟩ := transaction_is_one_unit hidle catchThenAbort_statementBody
  obtain ⟨hcalls, -, hfailed⟩ := herror (.caller "stop") (by rfl)
  exact ⟨hidle, catchThenAbort_statementBody, hcalls, hclosed, hfailed "gone" (by rfl)⟩

end Facade

end SqlToolkit
