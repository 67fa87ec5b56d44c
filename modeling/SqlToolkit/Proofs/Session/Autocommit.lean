import SqlToolkit.Connection.Scripted
import SqlToolkit.Proofs.Transaction.Settling

/-!
# Sessions that open no transaction

Whatever a session does short of opening a transaction, each statement that an operation sends is
settled before the next one and before the operation ends. Most operations only read; which of the
others are undone is decided when they execute, by the statement composed and the debug mode chosen.
-/

namespace SqlToolkit

open SqlToolkit.Action (Keeps)
open Connection (reached TellsNothing)

variable {σ : Type} [Connection σ]

/-! ## Calls of the facade -/

namespace Facade

/-- Whether a call undoes the statement that it composes. -/
def undoes (facade : Facade σ) (compose : Action (Builder σ) Unit) (debug : Value) : Bool :=
  ((prepare compose debug).after facade).builder.undoesWrite

def undoesColumns (facade : Facade σ) (table : String) (debug : Value) : Bool :=
  match facade.builder.dialect.columnsQuery table with
  | .ok catalog =>
    facade.undoes (composeRaw (.text catalog.sql)
      (.map (Descriptor.asPlaceholders catalog.placeholders))) debug
  | .error _ => false

variable (facade : Facade σ)

theorem runWith_settles {compose : Action (Builder σ) Unit} (h : Builder.LeavesClient compose)
    (debug : Value) :
    facade.client.Settles (Settled (facade.undoes compose debug))
      ((runWith compose debug).after facade).client :=
  runWith_related h debug facade (Builder.execute_settles _)

theorem query_settles (sql placeholders debug : Value) :
    facade.client.Settles (Settled (facade.undoes (composeRaw sql placeholders) debug))
      ((query sql placeholders debug).after facade).client :=
  facade.runWith_settles (composeRaw_leavesClient sql placeholders) debug

theorem queryRow_settles (sql placeholders : Value) (mode : FetchMode) (debug : Value) :
    facade.client.Settles (Settled (facade.undoes (composeRaw sql placeholders) debug))
      ((queryRow sql placeholders mode debug).after facade).client := by
  unfold queryRow
  rw [Action.view_after_bind client fun _ => fetch_leavesClient mode]
  exact facade.query_settles sql placeholders debug

theorem columns_settles (table : String) (mode : FetchMode) (debug : Value) :
    facade.client.Settles (Settled (facade.undoesColumns table debug))
      ((columns table mode debug).after facade).client := by
  unfold columns undoesColumns
  rw [Action.after_bind_ok (Action.outcome_get facade), Action.after_get]
  cases facade.builder.dialect.columnsQuery table with
  | error fault => exact refl _
  | ok catalog =>
    rw [Action.after_bind_ok (Action.outcome_ofAttempt _ _), Action.ofAttempt_after,
      Action.view_after_bind client fun _ => fetchAll_leavesClient mode]
    exact facade.query_settles _ _ debug

theorem columnNames_settles (table : String) :
    facade.client.Settles (Settled (facade.undoesColumns table (.bool false)))
      ((columnNames table).after facade).client := by
  unfold columnNames
  rw [Action.after_bind_ok (Action.outcome_get facade), Action.after_get]
  split
  · exact refl _
  · rw [Action.view_after_bind client fun rows => ?_]
    · exact facade.columns_settles table .assoc (.bool false)
    · exact (Keeps.ofAttempt _).bind fun _ => Keeps.get.bind fun _ =>
        (Keeps.ofAttempt _).bind fun _ =>
          Keeps.bind (Keeps.modify fun _ => rfl) fun _ => Keeps.pure _

theorem tables_settles (debug : Value) :
    facade.client.Settles
      (Settled (facade.undoes (composeRaw (.text facade.builder.dialect.tablesSql) .null) debug))
      ((tables debug).after facade).client := by
  unfold tables
  rw [Action.after_bind_ok (Action.outcome_get facade), Action.after_get,
    Action.view_after_bind client fun _ => fetchAll_leavesClient .column]
  exact facade.query_settles _ _ debug

end Facade

/-! ## Operations -/

namespace StatementOperation

/-- Whether the statement of an operation is undone: the builder executes a write in a debug mode.
Reads, and what is sent without the builder, are never undone. -/
def undoes (operation : StatementOperation) (pager : Pager σ) : Bool :=
  match operation with
  | .execute => pager.facade.builder.undoesWrite
  | .executeStatement => pager.facade.builder.debugMode.enabled
  | .query sql placeholders debug | .queryRow sql placeholders _ debug
  | .queryValue sql placeholders debug =>
    pager.facade.undoes (Facade.composeRaw sql placeholders) debug
  | .insert table values debug => pager.facade.undoes (Builder.insert table values) debug
  | .update table values condition debug =>
    pager.facade.undoes (Builder.update table values condition) debug
  | .delete table condition debug => pager.facade.undoes (Builder.delete table condition) debug
  | .columns table _ debug => pager.facade.undoesColumns table debug
  | .columnNames table => pager.facade.undoesColumns table (.bool false)
  | .tables debug =>
    pager.facade.undoes (Facade.composeRaw (.text pager.facade.builder.dialect.tablesSql) .null)
      debug
  | .exec _ | .prepared _ | .executeQuery | .numRows | .maximum _ _ | .select _ _
  | .selectCount _ _ _ | .selectRow _ _ _ | .selectValue _ _ | .page _ _ _ => false

section Layers

variable {pager : Pager σ} {α : Type}

omit [Connection σ] in
theorem client_after_onFacade (action : Action (Facade σ) α) :
    ((onFacade action).after pager).client = (action.after pager.facade).client := by
  unfold onFacade
  rw [Action.view_after_bind Pager.client fun _ => Keeps.pure _, Pager.onFacade, Action.after_on]
  rfl

omit [Connection σ] in
theorem client_after_onBuilder (action : Action (Builder σ) α) :
    ((onBuilder action).after pager).client = (action.after pager.facade.builder).client := by
  rw [onBuilder, client_after_onFacade, Facade.onBuilder, Action.after_on]
  rfl

variable {kind : σ → List Call → Prop}

theorem onFacade_settles {action : Action (Facade σ) α}
    (h : pager.facade.client.Settles kind (action.after pager.facade).client) :
    pager.client.Settles kind ((onFacade action).after pager).client := by
  rw [client_after_onFacade]
  exact h

theorem onBuilder_settles {action : Action (Builder σ) α}
    (h : pager.facade.builder.client.Settles kind (action.after pager.facade.builder).client) :
    pager.client.Settles kind ((onBuilder action).after pager).client := by
  rw [client_after_onBuilder]
  exact h

end Layers

/-- Every operation settles the statements that it sends. -/
theorem run_settles (operation : StatementOperation) (pager : Pager σ) :
    pager.client.Settles (Settled (operation.undoes pager)) (operation.run.after pager).client := by
  have hrun := @Client.run_settles σ _
  -- a read settles its statements one by one at every layer, a write when it executes
  cases operation with
  | exec sql =>
    exact (onBuilder_settles (Builder.onClient_keeps (Client.exec_keeps hrun sql) _)).settled
  | prepared statement =>
    exact (onBuilder_settles (Builder.onClient_keeps (statement.execute_keeps hrun) _)).settled
  | execute => exact onBuilder_settles (Builder.execute_settles _)
  | executeQuery => exact (onBuilder_settles (Builder.executeQuery_keeps hrun _)).settled
  | executeStatement => exact onBuilder_settles (Builder.executeStatement_settles _)
  | numRows => exact (onBuilder_settles (Builder.numRows_keeps hrun _)).settled
  | maximum table column =>
    exact (onBuilder_settles (Builder.maximum_keeps hrun table column _)).settled
  | query sql placeholders debug => exact onFacade_settles (Facade.query_settles _ _ _ _)
  | queryRow sql placeholders mode debug =>
    exact onFacade_settles (Facade.queryRow_settles _ _ _ _ _)
  | queryValue sql placeholders debug =>
    refine onFacade_settles ?_
    rw [Facade.queryValue, Action.view_after_bind Facade.client fun _ => Keeps.pure _]
    exact Facade.queryRow_settles _ _ _ _ _
  | select selection debug =>
    exact (onFacade_settles (Facade.select_keeps hrun selection debug _)).settled
  | selectCount selection debug mode =>
    exact (onFacade_settles (Facade.selectCount_keeps hrun selection debug mode _)).settled
  | selectRow selection mode debug =>
    exact (onFacade_settles (Facade.selectRow_keeps hrun selection mode debug _)).settled
  | selectValue selection debug =>
    exact (onFacade_settles (((Facade.selectRow_keeps hrun selection .num debug).bind fun _ =>
      Keeps.pure _) _)).settled
  | insert table values debug =>
    refine onFacade_settles ?_
    rw [Facade.insert, Action.view_after_bind Facade.client fun _ => Keeps.pure _]
    exact Facade.runWith_settles _ (Builder.insert_leavesClient table values) debug
  | update table values condition debug =>
    refine onFacade_settles ?_
    rw [Facade.update, Action.view_after_bind Facade.client fun _ => Keeps.pure _]
    exact Facade.runWith_settles _ (Builder.update_leavesClient table values condition) debug
  | delete table condition debug =>
    refine onFacade_settles ?_
    rw [Facade.delete, Action.view_after_bind Facade.client fun _ => Keeps.pure _]
    exact Facade.runWith_settles _ (Builder.delete_leavesClient table condition) debug
  | columns table mode debug => exact onFacade_settles (Facade.columns_settles _ _ _ _)
  | columnNames table => exact onFacade_settles (Facade.columnNames_settles _ _)
  | tables debug => exact onFacade_settles (Facade.tables_settles _ _)
  | page selection debug requested =>
    exact (Pager.select_keeps hrun selection debug requested pager).settled

end StatementOperation

/-! ## Sessions -/

/-- What a session may do without opening a transaction. -/
inductive SessionStep (σ : Type) where
  | statement (operation : StatementOperation)
  /-- Composing a statement, fetching rows, choosing options: what leaves the client alone. -/
  | aside (action : Action (Pager σ) Unit) (h : Keeps Eq Pager.client action)
  /-- Ending a transaction, which is refused where none is open. -/
  | commit
  | rollback

def SessionStep.run : SessionStep σ → Action (Pager σ) Unit
  | .statement operation => operation.run
  | .aside action _ => action
  | .commit => StatementOperation.onBuilder Builder.commitTransaction
  | .rollback => StatementOperation.onBuilder Builder.rollbackTransaction

omit [Connection σ] in
theorem StatementOperation.onBuilder_leavesClient {action : Action (Builder σ) Unit}
    (h : Builder.LeavesClient action) :
    Keeps Eq Pager.client (StatementOperation.onBuilder action) := by
  intro pager
  rw [StatementOperation.client_after_onBuilder]
  exact h pager.facade.builder

def SessionStep.ofBuilder (action : Action (Builder σ) Unit) (h : Builder.LeavesClient action) :
    SessionStep σ :=
  .aside (StatementOperation.onBuilder action) (StatementOperation.onBuilder_leavesClient h)

def Pager.stepped (pager : Pager σ) (steps : List (SessionStep σ)) : Pager σ :=
  steps.foldl (fun pager step => step.run.after pager) pager

omit [Connection σ] in
/-- Where no transaction is open, ending one is refused. -/
theorem Client.after_endTransaction_of_closed {client : Client σ}
    (ending : Action (Client σ) Unit) (h : client.inTransaction = false) :
    (endTransaction ending).after client = client := by
  unfold endTransaction
  rw [Action.after_bind_ok (Action.outcome_get client), Action.after_get, h]
  rfl

omit [Connection σ] in
theorem SessionStep.client_after_end {pager : Pager σ} (ending : Action (Client σ) Unit)
    (h : pager.client.inTransaction = false) :
    ((StatementOperation.onBuilder (Builder.onClient (Client.endTransaction ending))).after
      pager).client = pager.client := by
  rw [StatementOperation.client_after_onBuilder, Builder.after_onClient]
  exact Client.after_endTransaction_of_closed ending h

/-- No step opens a transaction. -/
theorem SessionStep.run_autocommits (step : SessionStep σ) {pager : Pager σ}
    (h : pager.client.Autocommits) : (step.run.after pager).client.Autocommits := by
  cases step with
  | statement operation => exact (operation.run_settles pager).autocommits h
  | aside action hleaves => exact hleaves pager ▸ h
  | commit => exact (client_after_end Client.sendCommit h.closed).symm ▸ h
  | rollback => exact (client_after_end Client.sendRollback h.closed).symm ▸ h

theorem Pager.stepped_autocommits (steps : List (SessionStep σ)) {pager : Pager σ}
    (h : pager.client.Autocommits) : (pager.stepped steps).client.Autocommits := by
  induction steps generalizing pager with
  | nil => exact h
  | cons step rest ih => exact ih (step.run_autocommits h)

/-- **Statements outside a transaction are settled at once.** Where no transaction was opened and
the connection does not tell about open work, whatever an operation sends is settled statement by
statement, however the connection answers: by a rollback if the statement failed or was a write in a
debug mode, and by a commit otherwise. At most a write that could not be sent is rolled back without
a statement. So if errors abort the connection's transaction and its rollbacks succeed, no operation
that sent a statement leaves an aborted transaction behind. -/
theorem statements_settled_at_once {pager : Pager σ} (h : pager.client.Autocommits)
    (earlier : List (SessionStep σ)) (operation : StatementOperation) :
    let before := pager.stepped earlier
    let after := operation.run.after before
    ∃ made, after.client.calls = before.client.calls ++ made ∧
      after.client.connection = reached before.client.connection made ∧
      (SettledOneByOne (operation.undoes before) before.client.connection made ∨
        made = [.rollback]) ∧
      ∀ aborted, AbortsOnError aborted before.client.connection →
        (∃ sql arguments, .execute sql arguments ∈ made) →
          aborted after.client.connection = false := by
  intro before after
  obtain ⟨-, made, hcalls, hconnection, hsettled⟩ :=
    operation.run_settles before (Pager.stepped_autocommits earlier h)
  refine ⟨made, hcalls, hconnection, hsettled, ?_⟩
  rintro aborted hlaws ⟨sql, arguments, hsent⟩
  rw [hconnection]
  rcases hsettled with hone | rfl
  · exact hlaws.settledOneByOne hone (List.ne_nil_of_mem hsent)
  · cases List.mem_singleton.mp hsent

/-! ## Scripted sessions -/

namespace Scripted

/-- The connection does not tell about open work, and none of its rollbacks fails. -/
structure Steady (connection : Scripted) : Prop where
  untold : connection.tellsWork = false
  undoes : connection.rollbackFailures = []

theorem Steady.answered {connection : Scripted} (h : connection.Steady) (call : Call) :
    (Connection.answered connection call).Steady := by
  cases call with
  | execute sql arguments =>
    show connection.execute.2.Steady
    unfold execute
    split
    · exact h
    · dsimp only
      split
      · exact ⟨h.untold, h.undoes⟩
      · exact ⟨h.untold, h.undoes⟩
  | commit =>
    show connection.commit.2.Steady
    unfold commit
    dsimp only
    split
    · exact ⟨h.untold, h.undoes⟩
    · exact ⟨h.untold, h.undoes⟩
  | rollback =>
    show connection.rollback.2.Steady
    unfold rollback
    rw [h.undoes]
    exact ⟨h.untold, rfl⟩
  | close => exact h

theorem Steady.reached {connection : Scripted} (h : connection.Steady) (calls : List Call) :
    (reached connection calls).Steady := by
  induction calls generalizing connection with
  | nil => exact h
  | cons call rest ih => exact ih (h.answered call)

theorem Steady.tellsNothing {connection : Scripted} (h : connection.Steady) :
    TellsNothing connection := by
  intro calls
  show (!(Connection.reached connection calls).tellsWork ||
    (Connection.reached connection calls).working) = true
  rw [(h.reached calls).untold]
  rfl

theorem not_aborted_of_accepts {connection : Scripted} {result : ResultSet}
    (h : connection.execute.1 = .ok result) : connection.execute.2.aborted = false := by
  unfold execute at h ⊢
  split at h
  · cases h
  · next ha =>
    rw [if_neg ha]
    dsimp only at h ⊢
    split at h
    · cases h
    · exact Bool.eq_false_iff.mpr ha

theorem aborted_commit (connection : Scripted) :
    connection.commit.2.aborted = connection.aborted := by
  unfold commit
  dsimp only
  split
  · rfl
  · rfl

theorem Steady.rollback {connection : Scripted} (h : connection.Steady) :
    connection.rollback.1 = .ok () ∧ connection.rollback.2.aborted = false := by
  unfold Scripted.rollback
  rw [h.undoes]
  exact ⟨rfl, rfl⟩

theorem Steady.abortsOnError {connection : Scripted} (h : connection.Steady) :
    AbortsOnError Scripted.aborted connection where
  accepts calls sql arguments result hr := by
    rw [Connection.reached_append]
    exact not_aborted_of_accepts hr
  commits calls ha := by
    rw [Connection.reached_append]
    exact (aborted_commit _).trans ha
  rollsBack calls _ := by
    rw [Connection.reached_append]
    exact (h.reached calls).rollback.2
  succeeds calls := (h.reached calls).rollback.1

end Scripted

/-- A session whose connection accepts a statement and then fails one, which aborts it. -/
def abortingSession : Pager Scripted :=
  { facade := { builder := {
      client := { connection := {
        responses := [{}, { failure := some "no such table" }], abortsOnFailure := true } }
      dialect := .postgresql } } }

/-- A statement of the client alone, and then a DELETE that is composed. -/
def readThenCompose : List (SessionStep Scripted) :=
  [.statement (.exec "SELECT 1"),
    .ofBuilder (Builder.delete (.text "t") .null) (Builder.delete_leavesClient _ _)]

theorem statements_settled_at_once_abortingSession :
    abortingSession.client.Autocommits ∧
      let after := StatementOperation.execute.run.after (abortingSession.stepped readThenCompose)
      after.client.calls = [.execute "SELECT 1" none, .commit,
        .execute "DELETE FROM t" none, .rollback] ∧
      after.client.connection.aborted = false := by
  have hsteady : abortingSession.client.connection.Steady := ⟨rfl, rfl⟩
  have hauto : abortingSession.client.Autocommits := ⟨rfl, hsteady.tellsNothing⟩
  refine ⟨hauto, rfl, ?_⟩
  obtain ⟨made, hcalls, -, -, haborted⟩ :=
    statements_settled_at_once hauto readThenCompose .execute
  have hsplit : [Call.execute "SELECT 1" none, .commit] ++
      [.execute "DELETE FROM t" none, .rollback] =
        [Call.execute "SELECT 1" none, .commit] ++ made := hcalls
  have hmade : [.execute "DELETE FROM t" none, .rollback] = made :=
    List.append_cancel_left hsplit
  refine haborted Scripted.aborted ?_ ⟨"DELETE FROM t", none, ?_⟩
  · exact (hsteady.reached [.execute "SELECT 1" none, .commit]).abortsOnError
  · rw [← hmade]
    exact List.mem_cons_self

end SqlToolkit
