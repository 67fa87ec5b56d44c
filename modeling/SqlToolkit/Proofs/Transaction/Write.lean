import SqlToolkit.Proofs.Builder.Execute
import SqlToolkit.Proofs.Transaction.Scope

/-!
# How a write with its own transaction ends

There are five ways: its values cannot be bound, the connection rejects its statement, a debug mode
undoes it, its commit succeeds, or its commit is refused. Each fixes the calls that the execution
makes, and all but the debug mode's fix how it ends.
-/

namespace SqlToolkit.Builder

variable {σ : Type} [Connection σ]

def request (builder : Builder σ) : Attempt (String × Option Arguments) := do
  let (sql, placeholders) ← builder.rendered
  PreparedStatement.request (Connection.parser σ) builder.client.paramstyle sql placeholders

theorem request_of_rendered {builder : Builder σ} {sql : String} {placeholders : Value.Entries}
    (h : builder.rendered = .ok (sql, placeholders)) :
    builder.request =
      PreparedStatement.request (Connection.parser σ) builder.client.paramstyle
        sql placeholders := by
  unfold request
  rw [h]
  rfl

/-! ## The body of a guard -/

section Body

variable (builder : Builder σ) {sql spelled : String} {placeholders : Value.Entries}
  {values : Option Arguments} {wantsId rollbackOnly : Bool}

theorem sendWrite_of_refused {fault : Fault}
    (h : PreparedStatement.request (Connection.parser σ) builder.client.paramstyle
      sql placeholders = .error fault) :
    (sendWrite sql placeholders wantsId rollbackOnly).outcome builder = .error fault ∧
      (sendWrite sql placeholders wantsId rollbackOnly).after builder = builder := by
  have ho : (onClient (PreparedStatement.run sql placeholders)).outcome builder = .error fault := by
    rw [outcome_onClient, Action.outcome, PreparedStatement.run_of_refused h]
  refine ⟨Action.outcome_bind_error ho, ?_⟩
  unfold sendWrite
  rw [Action.after_bind_error ho, after_onClient, withClient, Action.after,
    PreparedStatement.run_of_refused h]

variable (ho : builder.client.inTransaction = true)
  (h : PreparedStatement.request (Connection.parser σ) builder.client.paramstyle sql placeholders =
    .ok (spelled, values))

include ho h

theorem sendWrite_of_rejected {message : String}
    (hr : (Connection.execute spelled values builder.client.connection).1 = .error message) :
    (sendWrite sql placeholders wantsId rollbackOnly).outcome builder = .error (.driver message) ∧
      (sendWrite sql placeholders wantsId rollbackOnly).after builder =
        { builder with client := builder.client.sent spelled values } := by
  obtain ⟨statement, hs⟩ := PreparedStatement.outcome_run_of_request h
  have hf : (onClient (PreparedStatement.run sql placeholders)).outcome builder =
      .error (.driver message) := by
    rw [outcome_onClient, hs, Client.outcome_run_of_error ho hr]
    rfl
  refine ⟨Action.outcome_bind_error hf, ?_⟩
  unfold sendWrite
  rw [Action.after_bind_error hf, after_onClient, withClient,
    PreparedStatement.after_run_of_request h, Client.after_run_of_error ho hr]

theorem sendWrite_of_accepted {result : ResultSet}
    (hr : (Connection.execute spelled values builder.client.connection).1 = .ok result) :
    (∃ written, (sendWrite sql placeholders wantsId rollbackOnly).outcome builder =
        .ok (written, rollbackOnly)) ∧
      (sendWrite sql placeholders wantsId rollbackOnly).after builder =
        { builder with
          client := { builder.client.sent spelled values with
            lastRowId := result.rowId.getD .null } } := by
  obtain ⟨statement, hs⟩ := PreparedStatement.outcome_run_of_request h
  have hf : (onClient (PreparedStatement.run sql placeholders)).outcome builder =
      .ok (statement.fetched result) := by
    rw [outcome_onClient, hs, Client.outcome_run_of_ok ho hr]
    rfl
  refine ⟨⟨_, Action.outcome_bind_ok hf⟩, ?_⟩
  unfold sendWrite
  rw [Action.after_bind_ok hf, after_onClient, withClient,
    PreparedStatement.after_run_of_request h, Client.after_run_of_ok ho hr]
  rfl

end Body

/-! ## The guard -/

section Guard

variable {builder : Builder σ} {sql spelled : String} {placeholders : Value.Entries}
  {values : Option Arguments}

omit [Connection σ] in
theorem closed_of_ownsTransaction (h : builder.ownsTransaction sql = true) :
    builder.client.inTransaction = false := by
  unfold ownsTransaction at h
  rw [Bool.and_eq_true, Bool.not_eq_true'] at h
  exact h.1

omit [Connection σ] in
theorem ownsTransaction_eq_false_iff :
    builder.ownsTransaction sql = false ↔
      builder.client.inTransaction = true ∨ Statement.commitsImplicitly sql = true := by
  unfold ownsTransaction
  rw [Bool.and_eq_false_iff, Bool.not_eq_false', Bool.not_eq_false']

theorem calls_of_rollback (h : builder.client.inTransaction = true) :
    (builder.withClient Client.rollback).client.calls = builder.client.calls ++ [.rollback] := by
  rw [withClient, Client.after_rollback h]

variable (ho : builder.ownsTransaction sql = true)

include ho

theorem guardedWrite_of_refused {cause : Fault}
    (h : PreparedStatement.request (Connection.parser σ) builder.client.paramstyle
      sql placeholders = .error cause) :
    (∃ fault, (builder.guardedWrite sql placeholders).outcome builder = .error fault) ∧
      ((builder.guardedWrite sql placeholders).after builder).client.calls =
        builder.client.calls ++ [.rollback] := by
  have hclosed := closed_of_ownsTransaction ho
  unfold guardedWrite
  rw [ho]
  obtain ⟨hb, ha⟩ := sendWrite_of_refused builder.opened h
  obtain ⟨raised, hraised, -⟩ := outcome_scope_of_error hclosed hb
  refine ⟨⟨raised, hraised⟩, ?_⟩
  rw [after_scope_of_error hclosed hb (by rw [ha]; rfl), ha, calls_of_rollback rfl]
  rfl

variable (h : PreparedStatement.request (Connection.parser σ) builder.client.paramstyle
    sql placeholders =
  .ok (spelled, values))

include h

theorem guardedWrite_of_rejected {message : String}
    (hr : (Connection.execute spelled values builder.client.connection).1 = .error message) :
    (∃ fault, (builder.guardedWrite sql placeholders).outcome builder = .error fault) ∧
      ((builder.guardedWrite sql placeholders).after builder).client.calls =
        builder.client.calls ++ [.execute spelled values, .rollback] := by
  have hclosed := closed_of_ownsTransaction ho
  unfold guardedWrite
  rw [ho]
  obtain ⟨hb, ha⟩ := sendWrite_of_rejected builder.opened rfl h hr
  obtain ⟨raised, hraised, -⟩ := outcome_scope_of_error hclosed hb
  refine ⟨⟨raised, hraised⟩, ?_⟩
  rw [after_scope_of_error hclosed hb (by rw [ha]; rfl), ha, calls_of_rollback rfl]
  exact List.append_assoc _ _ _

variable {rows : ResultSet}
  (hr : (Connection.execute spelled values builder.client.connection).1 = .ok rows)

include hr

/-- A write that the connection accepted ends as the ending of its transaction does. -/
theorem guardedWrite_of_accepted :
    ∃ (written : PreparedStatement × Value) (accepted : Client σ),
      accepted.inTransaction = true ∧
      accepted.connection = (Connection.execute spelled values builder.client.connection).2 ∧
      accepted.calls = builder.client.calls ++ [.execute spelled values] ∧
      (builder.guardedWrite sql placeholders).outcome builder =
        ((ending builder.debugMode.enabled).outcome accepted).map (fun _ => written) ∧
      ((builder.guardedWrite sql placeholders).after builder).client =
        (ending builder.debugMode.enabled).after accepted := by
  have hclosed := closed_of_ownsTransaction ho
  unfold guardedWrite
  rw [ho]
  obtain ⟨⟨written, hb⟩, ha⟩ := sendWrite_of_accepted builder.opened rfl h hr
  refine ⟨written, { builder.opened.client.sent spelled values with
    lastRowId := rows.rowId.getD .null }, rfl, rfl, rfl, ?_, ?_⟩
  · rw [outcome_scope_of_ok hclosed hb, ha]
  · rw [after_scope_of_ok hclosed hb, ha]
    rfl

/-- A debug mode undoes such a write, and the rollback decides how it ends. -/
theorem guardedWrite_of_undone (hd : builder.debugMode.enabled = true) :
    (∃ written, (builder.guardedWrite sql placeholders).outcome builder =
        ((Connection.rollback
          (Connection.execute spelled values builder.client.connection).2).1.mapError
            Fault.driver).map fun _ => written) ∧
      ((builder.guardedWrite sql placeholders).after builder).client.calls =
        builder.client.calls ++ [.execute spelled values, .rollback] := by
  obtain ⟨written, accepted, hopen, hconnection, hcalls, houtcome, hafter⟩ :=
    guardedWrite_of_accepted ho h hr
  rw [houtcome, hafter, hd]
  show (∃ written, (Client.rollback.outcome accepted).map _ = _) ∧
    (Client.rollback.after accepted).calls = _
  rw [Client.outcome_rollback hopen, Client.after_rollback hopen, hconnection, hcalls]
  exact ⟨⟨written, rfl⟩, List.append_assoc _ _ _⟩

/-- Otherwise it is committed, and the commit decides how the write ends. -/
theorem guardedWrite_of_kept (hd : builder.debugMode.enabled = false) :
    (∃ written, (builder.guardedWrite sql placeholders).outcome builder =
        ((Connection.commit
          (Connection.execute spelled values builder.client.connection).2).1.mapError
            Fault.driver).map fun _ => written) ∧
      ((builder.guardedWrite sql placeholders).after builder).client.calls =
        builder.client.calls ++ [.execute spelled values, .commit] := by
  obtain ⟨written, accepted, hopen, hconnection, hcalls, houtcome, hafter⟩ :=
    guardedWrite_of_accepted ho h hr
  rw [houtcome, hafter, hd]
  show (∃ written, (Client.commit.outcome accepted).map _ = _) ∧
    (Client.commit.after accepted).calls = _
  rw [Client.outcome_commit hopen, Client.after_commit hopen, hconnection, hcalls]
  exact ⟨⟨written, rfl⟩, List.append_assoc _ _ _⟩

end Guard

/-! ## The execution -/

/-- How a write with its own transaction ends: the calls that it makes, and what it gives. -/
inductive OwnWrite (builder : Builder σ) : List Call → Attempt ExecutionResult → Prop where
  /-- A value is missing or cannot be bound. -/
  | unbound {cause fault : Fault} (h : builder.request = .error cause) :
      OwnWrite builder [.rollback] (.error fault)
  | rejected {spelled : String} {values : Option Arguments} {message : String} {fault : Fault}
      (h : builder.request = .ok (spelled, values))
      (hr : (Connection.execute spelled values builder.client.connection).1 = .error message) :
      OwnWrite builder [.execute spelled values, .rollback] (.error fault)
  /-- A debug mode rolls back; should that be refused, the execution fails. -/
  | undone {spelled : String} {values : Option Arguments} {rows : ResultSet}
      {given : Attempt ExecutionResult} (h : builder.request = .ok (spelled, values))
      (hr : (Connection.execute spelled values builder.client.connection).1 = .ok rows)
      (hd : builder.debugMode.enabled = true)
      (hs : ∀ result, given = .ok result → result.simulated = true) :
      OwnWrite builder [.execute spelled values, .rollback] given
  | committed {spelled : String} {values : Option Arguments} {rows : ResultSet}
      {result : ExecutionResult} (h : builder.request = .ok (spelled, values))
      (hr : (Connection.execute spelled values builder.client.connection).1 = .ok rows)
      (hd : builder.debugMode.enabled = false)
      (hc : (Connection.commit
        (Connection.execute spelled values builder.client.connection).2).1 = .ok ()) :
      OwnWrite builder [.execute spelled values, .commit] (.ok result)
  | unsettled {spelled : String} {values : Option Arguments} {rows : ResultSet} {message : String}
      {fault : Fault} (h : builder.request = .ok (spelled, values))
      (hr : (Connection.execute spelled values builder.client.connection).1 = .ok rows)
      (hd : builder.debugMode.enabled = false)
      (hc : (Connection.commit
        (Connection.execute spelled values builder.client.connection).2).1 = .error message) :
      OwnWrite builder [.execute spelled values, .commit] (.error fault)

section Execution

variable {builder : Builder σ} {sql : String} {placeholders : Value.Entries}
  (h : builder.rendered = .ok (sql, placeholders)) (ho : builder.ownsTransaction sql = true)

include h ho

omit [Connection σ] h in
theorem not_holdsBack_of_ownsTransaction : builder.holdsBack sql = false := by
  unfold holdsBack
  rw [ho]
  exact Bool.and_false _

theorem simulated_of_sent {written : PreparedStatement × Value} {result : ExecutionResult}
    (hw : (builder.guardedWrite sql placeholders).outcome builder = .ok written)
    (hr : executeStatement.outcome builder = .ok result) :
    result.simulated = builder.debugMode.enabled := by
  obtain ⟨s, hs⟩ := outcome_of_sent_ok h (not_holdsBack_of_ownsTransaction ho) hw
  exact simulated_of_rememberWrite (hs.symm.trans hr)

/-- An execution that owns its transaction ends in one of the five ways. -/
theorem executeStatement_ownWrite :
    ∃ made, (executeStatement.after builder).client.calls = builder.client.calls ++ made ∧
      OwnWrite builder made (executeStatement.outcome builder) := by
  have hh := not_holdsBack_of_ownsTransaction ho
  have hq := request_of_rendered h
  -- the cases come in the order in which a write can fail: values, statement, ending
  cases hrequest : builder.request with
  | error cause =>
    obtain ⟨⟨fault, hf⟩, hc⟩ := guardedWrite_of_refused ho (hq.symm.trans hrequest)
    obtain ⟨raised, hraised⟩ := outcome_of_sent_error h hh hf
    refine ⟨[.rollback], by rw [client_of_sent h hh, hc], ?_⟩
    rw [hraised]
    exact .unbound hrequest
  | ok request =>
    obtain ⟨spelled, values⟩ := request
    have hs := hq.symm.trans hrequest
    cases hr : (Connection.execute spelled values builder.client.connection).1 with
    | error message =>
      obtain ⟨⟨fault, hf⟩, hc⟩ := guardedWrite_of_rejected ho hs hr
      obtain ⟨raised, hraised⟩ := outcome_of_sent_error h hh hf
      refine ⟨_, by rw [client_of_sent h hh, hc], ?_⟩
      rw [hraised]
      exact .rejected hrequest hr
    | ok rows =>
      cases hd : builder.debugMode.enabled with
      | true =>
        refine ⟨_, by rw [client_of_sent h hh, (guardedWrite_of_undone ho hs hr hd).2],
          .undone hrequest hr hd fun result hresult => ?_⟩
        cases hw : (builder.guardedWrite sql placeholders).outcome builder with
        | ok written => exact (simulated_of_sent h ho hw hresult).trans hd
        | error fault =>
          obtain ⟨raised, hraised⟩ := outcome_of_sent_error h hh hw
          rw [hraised] at hresult
          cases hresult
      | false =>
        obtain ⟨⟨written, hw⟩, hc⟩ := guardedWrite_of_kept ho hs hr hd
        refine ⟨_, by rw [client_of_sent h hh, hc], ?_⟩
        cases hcommit : (Connection.commit
            (Connection.execute spelled values builder.client.connection).2).1 with
        | ok _ =>
          rw [hcommit] at hw
          obtain ⟨s, hs⟩ := outcome_of_sent_ok h hh hw
          obtain ⟨result, hresult⟩ := rememberWrite_returns hd written.1 written.2 s
          rw [hs, hresult]
          exact .committed hrequest hr hd hcommit
        | error message =>
          rw [hcommit] at hw
          obtain ⟨raised, hraised⟩ := outcome_of_sent_error h hh hw
          rw [hraised]
          exact .unsettled hrequest hr hd hcommit

end Execution

end SqlToolkit.Builder
