import SqlToolkit.Proofs.Builder.Execute
import SqlToolkit.Proofs.Facade.Call
import SqlToolkit.Proofs.Session.Layers
import SqlToolkit.Proofs.Transaction.Scope

/-!
# Statements leave transactions as they find them

Whether a transaction is open is the same before and after any operation that runs statements, and
within an open transaction no such operation commits or rolls back. The builder's own transactions
are no exception: each is opened only where none is open, and closed before the operation ends,
whatever fails in between.

The relation is proved for the steps of a client first; the layers above only pass it on, apart from
the guard around a write, which is the one place that opens a transaction.
-/

namespace SqlToolkit

open SqlToolkit.Action (Keeps)

variable {σ : Type}

/-- The transaction is as it was: still open, with nothing settled since, or still not open. -/
structure Client.KeepsTransaction (before after : Client σ) : Prop where
  same : after.inTransaction = before.inTransaction
  made : ∃ made, after.calls = before.calls ++ made ∧
    (before.inTransaction = true → ∀ call ∈ made, call.settles = false)

namespace Client.KeepsTransaction

theorem refl (client : Client σ) : client.KeepsTransaction client :=
  ⟨rfl, [], (List.append_nil _).symm, fun _ _ h => by cases h⟩

theorem trans {first second third : Client σ} (h : first.KeepsTransaction second)
    (h' : second.KeepsTransaction third) : first.KeepsTransaction third := by
  obtain ⟨made, hc, hs⟩ := h.made
  obtain ⟨made', hc', hs'⟩ := h'.made
  refine ⟨h'.same.trans h.same, made ++ made', by rw [hc', hc, List.append_assoc], ?_⟩
  intro ho call hm
  rcases List.mem_append.mp hm with hm | hm
  · exact hs ho call hm
  · exact hs' (h.same.trans ho) call hm

instance : IsPreorder (Client σ) Client.KeepsTransaction where
  refl := refl
  trans _ _ _ := trans

/-- One more call, which settles nothing if a transaction is open. -/
theorem of_call {before after : Client σ} {call : Call}
    (hs : after.inTransaction = before.inTransaction) (hc : after.calls = before.calls ++ [call])
    (h : before.inTransaction = true → call.settles = false) : before.KeepsTransaction after :=
  ⟨hs, [call], hc, fun ho c hm => by rw [List.mem_singleton.mp hm]; exact h ho⟩

/-- A transaction that was opened where none was, and is over. -/
theorem of_own {before opened closed after : Client σ} (h : before.inTransaction = false)
    (hk : opened.KeepsTransaction closed) (ho : opened.calls = before.calls)
    (hc : ∃ ending, after.calls = closed.calls ++ ending) (hf : after.inTransaction = false) :
    before.KeepsTransaction after := by
  obtain ⟨made, hm, _⟩ := hk.made
  obtain ⟨ending, he⟩ := hc
  refine ⟨hf.trans h.symm, made ++ ending, by rw [he, hm, ho, List.append_assoc], ?_⟩
  intro hopen
  rw [h] at hopen
  cases hopen

end Client.KeepsTransaction

open Client (KeepsTransaction)

variable [Connection σ]

/-! ## The client -/

namespace Client

theorem sendStatement_keepsTransaction (sql : String) (arguments : Option Arguments) :
    Keeps KeepsTransaction id (sendStatement sql arguments : Action (Client σ) ResultSet) := by
  intro client
  unfold sendStatement
  rw [after_send]
  exact .of_call rfl rfl fun _ => rfl

/-- Outside a transaction a statement may be settled; within one it is not. -/
theorem settle_keepsTransaction (call : Call) (step : σ → Except String Unit × σ) :
    Keeps KeepsTransaction id (settle (send call step)) := by
  intro client
  cases h : client.inTransaction with
  | true => rw [after_settle_of_inTransaction h]; exact .refl client
  | false =>
    unfold settle
    rw [Action.after_bind_ok (Action.outcome_get client), Action.after_get]
    split
    · rw [after_send]
      exact .of_call rfl rfl fun ho => by rw [id, h] at ho; cases ho
    · exact .refl client

omit [Connection σ] in
theorem noteRowId_keepsTransaction (id? : Option Value) :
    Keeps KeepsTransaction id (modify fun client : Client σ =>
      { client with lastRowId := id?.getD .null }) :=
  fun _ => ⟨rfl, [], (List.append_nil _).symm, fun _ _ h => by cases h⟩

/-- What follows a statement settles it, unless a transaction is open. -/
theorem settled_keepsTransaction (given : Attempt ResultSet) :
    Keeps KeepsTransaction id (match given with
      | .ok result => do
        modify fun client => { client with lastRowId := result.rowId.getD .null }
        settle sendCommit
        return result
      | .error fault => do
        settle sendRollback
        throw fault : Action (Client σ) ResultSet) := by
  split
  · exact (noteRowId_keepsTransaction _).bind fun _ =>
      (settle_keepsTransaction .commit _).bind fun _ => Keeps.pure _
  · exact (settle_keepsTransaction .rollback _).bind fun _ => Keeps.throw _

theorem run_keepsTransaction (sql : String) (arguments : Option Arguments) :
    Keeps KeepsTransaction id (run sql arguments : Action (Client σ) ResultSet) :=
  (sendStatement_keepsTransaction sql arguments).attempt.bind settled_keepsTransaction

/-- Running a statement starts with sending it. -/
theorem calls_run (sql : String) (arguments : Option Arguments) (client : Client σ) :
    ∃ more, ((run sql arguments).after client).calls =
      client.calls ++ .execute sql arguments :: more := by
  unfold run
  rw [Action.after_bind_ok (Action.outcome_attempt _ _), Action.attempt_after]
  obtain ⟨more, hm, -⟩ :=
    (settled_keepsTransaction _ ((sendStatement sql arguments).after client)).made
  refine ⟨more, hm.trans ?_⟩
  unfold sendStatement
  rw [after_send]
  exact List.append_assoc _ _ _

theorem exec_keepsTransaction (sql : String) :
    Keeps KeepsTransaction id (exec sql : Action (Client σ) Int) :=
  exec_keeps run_keepsTransaction sql

end Client

theorem PreparedStatement.execute_keepsTransaction (statement : PreparedStatement) :
    Keeps KeepsTransaction id (statement.execute : Action (Client σ) PreparedStatement) :=
  statement.execute_keeps Client.run_keepsTransaction

/-! ## The builder -/

namespace Builder

omit [Connection σ] in
theorem onClient_keepsTransaction {α : Type} {action : Action (Client σ) α}
    (h : Keeps KeepsTransaction id action) :
    Keeps KeepsTransaction Builder.client (onClient action) :=
  onClient_keeps h

/-! ### Writes -/

theorem ending_closes (rollbackOnly : Bool) {client : Client σ} (h : client.inTransaction = true) :
    ((ending rollbackOnly).after client).inTransaction = false ∧
      ∃ made, ((ending rollbackOnly).after client).calls = client.calls ++ made := by
  unfold ending
  cases rollbackOnly with
  | true => rw [if_pos rfl, Client.after_rollback h]; exact ⟨rfl, _, rfl⟩
  | false => rw [if_neg (by simp), Client.after_commit h]; exact ⟨rfl, _, rfl⟩

/-- A guard that is owned only where no transaction is open passes on what its body keeps. -/
theorem scope_keepsTransaction {α : Type} {body : Action (Builder σ) (α × Bool)} {owned : Bool}
    {builder : Builder σ} (hb : Keeps KeepsTransaction Builder.client body)
    (ho : owned = true → builder.client.inTransaction = false) :
    builder.client.KeepsTransaction
      ((transactionScope Part.whole owned body).after builder).client := by
  cases owned with
  | false => rw [after_scope_unowned]; exact hb builder
  | true =>
    have h := ho rfl
    have hk := hb builder.opened
    have hopen : (body.after builder.opened).client.inTransaction = true := hk.same
    cases hr : body.outcome builder.opened with
    | error fault =>
      rw [after_scope_of_error h hr hopen]
      obtain ⟨hf, hc⟩ := ending_closes true hopen
      exact .of_own h hk rfl hc hf
    | ok result =>
      obtain ⟨value, rollbackOnly⟩ := result
      rw [after_scope_of_ok h hr]
      obtain ⟨hf, hc⟩ := ending_closes rollbackOnly hopen
      exact .of_own h hk rfl hc hf

theorem executeStatement_keepsTransaction :
    Keeps KeepsTransaction Builder.client
      (executeStatement : Action (Builder σ) ExecutionResult) := by
  intro builder
  cases h : builder.rendered with
  | error fault => rw [client_of_refused h]; exact .refl _
  | ok statement =>
    obtain ⟨sql, placeholders⟩ := statement
    cases hh : builder.holdsBack sql with
    | true => rw [client_of_held h hh]; exact .refl _
    | false =>
      rw [client_of_sent h hh]
      refine scope_keepsTransaction (sendWrite_keeps Client.run_keepsTransaction _ _ _ _)
        fun owned => ?_
      simpa using (Bool.and_eq_true_iff.mp owned).1

/-! ### Reads -/

theorem executeQuery_keepsTransaction :
    Keeps KeepsTransaction Builder.client (executeQuery : Action (Builder σ) ExecutionResult) :=
  executeQuery_keeps Client.run_keepsTransaction

theorem execute_keepsTransaction :
    Keeps KeepsTransaction Builder.client (execute : Action (Builder σ) ExecutionResult) :=
  execute_keeps Client.run_keepsTransaction executeStatement_keepsTransaction

theorem numRows_keepsTransaction :
    Keeps KeepsTransaction Builder.client (numRows : Action (Builder σ) Int) :=
  numRows_keeps Client.run_keepsTransaction

theorem maximum_keepsTransaction (table column : Value) :
    Keeps KeepsTransaction Builder.client (maximum table column : Action (Builder σ) Value) :=
  maximum_keeps Client.run_keepsTransaction table column

end Builder

/-! ## The facade -/

namespace Facade

/-- A call of the facade keeps the transaction if what it composes leaves the client alone. -/
theorem runWith_keepsTransaction {compose : Action (Builder σ) Unit} (debug : Value)
    (h : Builder.LeavesClient compose) :
    Keeps KeepsTransaction client (runWith compose debug) :=
  runWith_keeps h Builder.execute_keepsTransaction debug

theorem query_keepsTransaction (sql placeholders debug : Value) :
    Keeps KeepsTransaction client
      (query sql placeholders debug : Action (Facade σ) ExecutionResult) :=
  (Call.query sql placeholders debug).run_keeps Builder.execute_keepsTransaction

theorem queryRow_keepsTransaction (sql placeholders : Value) (mode : FetchMode) (debug : Value) :
    Keeps KeepsTransaction client
      (queryRow sql placeholders mode debug : Action (Facade σ) Value) :=
  (Call.queryRow sql placeholders mode debug).run_keeps Builder.execute_keepsTransaction

theorem select_keepsTransaction (selection : Selection) (debug : Value) :
    Keeps KeepsTransaction client
      (select selection debug : Action (Facade σ) ExecutionResult) :=
  (Call.select selection debug).run_keeps Builder.execute_keepsTransaction

theorem selectCount_keepsTransaction (selection : Selection) (debug : Value) (mode : FetchMode) :
    Keeps KeepsTransaction client
      (selectCount selection debug mode : Action (Facade σ) Value) :=
  (Call.selectCount selection debug mode).run_keeps Builder.execute_keepsTransaction

theorem selectRow_keepsTransaction (selection : Selection) (mode : FetchMode) (debug : Value) :
    Keeps KeepsTransaction client
      (selectRow selection mode debug : Action (Facade σ) Value) :=
  (Call.selectRow selection mode debug).run_keeps Builder.execute_keepsTransaction

theorem columns_keepsTransaction (table : String) (mode : FetchMode) (debug : Value) :
    Keeps KeepsTransaction client
      (columns table mode debug : Action (Facade σ) (List Value)) :=
  (Call.columns table mode debug).run_keeps Builder.execute_keepsTransaction

theorem columnNames_keepsTransaction (table : String) :
    Keeps KeepsTransaction client (columnNames table : Action (Facade σ) (List Value)) :=
  columnNames_keeps (fun _ _ => rfl) table (columns_keepsTransaction table .assoc (.bool false))

theorem tables_keepsTransaction (debug : Value) :
    Keeps KeepsTransaction client (tables debug : Action (Facade σ) (List Value)) :=
  (Call.tables debug).run_keeps Builder.execute_keepsTransaction

end Facade

theorem Pager.select_keepsTransaction (selection : Facade.Selection) (debug requested : Value) :
    Keeps KeepsTransaction client
      (select selection debug requested : Action (Pager σ) Unit) :=
  select_keeps Client.run_keepsTransaction selection debug requested

/-! ## Every operation -/

namespace StatementOperation

omit [Connection σ] in
theorem onFacade_keepsTransaction {α : Type} {action : Action (Facade σ) α}
    (h : Keeps KeepsTransaction Facade.client action) :
    Keeps KeepsTransaction Pager.client (onFacade action) :=
  (Pager.onFacade_keeps h).bind fun _ => Keeps.pure _

omit [Connection σ] in
theorem onBuilder_keepsTransaction {α : Type} {action : Action (Builder σ) α}
    (h : Keeps KeepsTransaction Builder.client action) :
    Keeps KeepsTransaction Pager.client (onBuilder action) :=
  onFacade_keepsTransaction (Facade.onBuilder_keeps h)

/-- **Statements leave transactions as they find them.** Whatever operation runs statements, in
whatever state and however the connection answers its calls, a transaction is open after it exactly
if one was open before it; and if one was open, the operation neither committed nor rolled back. -/
theorem run_frames_transaction (operation : StatementOperation) (pager : Pager σ) :
    (operation.run.after pager).client.inTransaction = pager.client.inTransaction ∧
      ∃ made, (operation.run.after pager).client.calls = pager.client.calls ++ made ∧
        (pager.client.inTransaction = true → Call.commit ∉ made ∧ Call.rollback ∉ made) := by
  have keeps : Keeps KeepsTransaction Pager.client (operation.run : Action (Pager σ) Unit) := by
    -- every layer passes the relation on, so each case names the layers it goes through
    cases operation with
    | exec sql =>
      exact onBuilder_keepsTransaction
        (Builder.onClient_keepsTransaction (Client.exec_keepsTransaction sql))
    | prepared statement =>
      exact onBuilder_keepsTransaction
        (Builder.onClient_keepsTransaction statement.execute_keepsTransaction)
    | execute => exact onBuilder_keepsTransaction Builder.execute_keepsTransaction
    | executeQuery => exact onBuilder_keepsTransaction Builder.executeQuery_keepsTransaction
    | executeStatement =>
      exact onBuilder_keepsTransaction Builder.executeStatement_keepsTransaction
    | numRows => exact onBuilder_keepsTransaction Builder.numRows_keepsTransaction
    | maximum table column =>
      exact onBuilder_keepsTransaction (Builder.maximum_keepsTransaction table column)
    | query sql placeholders debug =>
      exact onFacade_keepsTransaction (Facade.query_keepsTransaction sql placeholders debug)
    | queryRow sql placeholders mode debug =>
      exact onFacade_keepsTransaction (Facade.queryRow_keepsTransaction sql placeholders mode debug)
    | queryValue sql placeholders debug =>
      exact onFacade_keepsTransaction
        ((Facade.queryRow_keepsTransaction sql placeholders .num debug).bind fun _ => Keeps.pure _)
    | select selection debug =>
      exact onFacade_keepsTransaction (Facade.select_keepsTransaction selection debug)
    | selectCount selection debug mode =>
      exact onFacade_keepsTransaction (Facade.selectCount_keepsTransaction selection debug mode)
    | selectRow selection mode debug =>
      exact onFacade_keepsTransaction (Facade.selectRow_keepsTransaction selection mode debug)
    | selectValue selection debug =>
      exact onFacade_keepsTransaction
        ((Facade.selectRow_keepsTransaction selection .num debug).bind fun _ => Keeps.pure _)
    | insert table values debug =>
      exact onFacade_keepsTransaction ((Facade.runWith_keepsTransaction debug
        (Builder.insert_leavesClient table values)).bind fun _ => Keeps.pure _)
    | update table values condition debug =>
      exact onFacade_keepsTransaction ((Facade.runWith_keepsTransaction debug
        (Builder.update_leavesClient table values condition)).bind fun _ => Keeps.pure _)
    | delete table condition debug =>
      exact onFacade_keepsTransaction ((Facade.runWith_keepsTransaction debug
        (Builder.delete_leavesClient table condition)).bind fun _ => Keeps.pure _)
    | columns table mode debug =>
      exact onFacade_keepsTransaction (Facade.columns_keepsTransaction table mode debug)
    | columnNames table =>
      exact onFacade_keepsTransaction (Facade.columnNames_keepsTransaction table)
    | tables debug => exact onFacade_keepsTransaction (Facade.tables_keepsTransaction debug)
    | page selection debug requested =>
      exact Pager.select_keepsTransaction selection debug requested
  obtain ⟨same, made, hc, hs⟩ := keeps pager
  refine ⟨same, made, hc, fun ho => ⟨fun hm => ?_, fun hm => ?_⟩⟩
  · exact Bool.noConfusion (hs ho _ hm)
  · exact Bool.noConfusion (hs ho _ hm)

end StatementOperation

end SqlToolkit
