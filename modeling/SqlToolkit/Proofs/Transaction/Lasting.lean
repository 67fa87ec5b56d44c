import SqlToolkit.Connection.Scripted
import SqlToolkit.Proofs.Transaction.Write

/-!
# What a write leaves behind

A statement is undone when the first call after it that settles anything is a rollback; no commit
made later can keep it then. A failed write is undone unless it is its commit that was refused: the
guard is left already at that point, and the transaction stays open on the connection. In a debug
mode no write lasts at all.
-/

namespace SqlToolkit

/-- Whether a statement is undone by the calls that follow it. -/
def Call.Undone (later : List Call) : Prop :=
  later.find? Call.settles = some .rollback

/-- What was undone stays undone, whatever is called after it. -/
theorem Call.Undone.append {later : List Call} (h : Call.Undone later) (more : List Call) :
    Call.Undone (later ++ more) := by
  unfold Call.Undone at *
  rw [List.find?_append, h]
  rfl

namespace Builder

variable {σ : Type} [Connection σ]

/-! ## Failed writes -/

/-- A write is accepted by the connection, and its commit is refused. -/
def CommitRefused (builder : Builder σ) : Prop :=
  builder.debugMode.enabled = false ∧ ∃ spelled values rows message,
    builder.request = .ok (spelled, values) ∧
    (Connection.execute spelled values builder.client.connection).1 = .ok rows ∧
    (Connection.commit
      (Connection.execute spelled values builder.client.connection).2).1 = .error message

/-- Should an execution that made these calls fail, then every statement among them is undone, and
stays so whatever is called later. -/
def UndoesFailure (builder : Builder σ) (made : List Call) : Prop :=
  ∀ fault earlier spelled values later, execute.outcome builder = .error fault →
    made = earlier ++ .execute spelled values :: later → ∀ more, Call.Undone (later ++ more)

/-- What follows the statement in two calls is the other call, if that is no statement itself. -/
theorem eq_of_statement {spelled spelled' : String} {values values' : Option Arguments}
    {ending : Call} (hs : ending.settles = true) {earlier later : List Call}
    (h : [.execute spelled values, ending] = earlier ++ .execute spelled' values' :: later) :
    later = [ending] := by
  rcases List.cons_eq_append_iff.mp h with ⟨-, h⟩ | ⟨rest, -, h⟩
  · exact (List.cons.inj h).2
  · obtain ⟨-, h⟩ | ⟨rest, -, h⟩ := List.cons_eq_append_iff.mp h
    · rw [← (List.cons.inj h).1] at hs
      cases hs
    · simp at h

variable {builder : Builder σ}

theorem undoesFailure_iff_of_ownWrite {made : List Call}
    (hw : isRead (Connection.parser σ) builder.descriptor = false)
    (h : OwnWrite builder made (executeStatement.outcome builder)) :
    builder.UndoesFailure made ↔ ¬ builder.CommitRefused := by
  rw [← outcome_execute_of_write hw] at h
  constructor
  · rintro hu ⟨hoff, spelled, values, rows, message, hq, hr, hc⟩
    generalize hg : execute.outcome builder = given at h
    cases h with
    | unbound hq' => cases hq.symm.trans hq'
    | rejected hq' hr' => cases hq.symm.trans hq'; cases hr.symm.trans hr'
    | undone _ _ hd => cases hoff.symm.trans hd
    | committed hq' _ _ hc' => cases hq.symm.trans hq'; cases hc.symm.trans hc'
    -- here the statement is followed by the refused commit alone
    | unsettled => cases hu _ [] _ _ _ hg rfl []
  · intro hn fault earlier spelled values later hf hm more
    rw [hf] at h
    refine Call.Undone.append ?_ more
    cases h with
    | unbound =>
      obtain ⟨-, hm⟩ | ⟨rest, -, hm⟩ := List.cons_eq_append_iff.mp hm
      · cases (List.cons.inj hm).1
      · simp at hm
    | rejected | undone => rw [eq_of_statement rfl hm]; rfl
    | unsettled hq hr hd hc => exact absurd ⟨hd, _, _, _, _, hq, hr, hc⟩ hn

theorem undoesFailure_of_refused {fault : Fault}
    (hw : isRead (Connection.parser σ) builder.descriptor = false)
    (h : builder.rendered = .error fault) :
    (execute.after builder).client.calls = builder.client.calls ++ [] ∧
      (builder.UndoesFailure [] ↔ ¬ builder.CommitRefused) := by
  refine ⟨?_, fun _ hc => ?_, fun _ => ?_⟩
  · rw [after_execute_of_write hw, client_of_refused h, List.append_nil]
  · obtain ⟨-, spelled, values, -, -, hq, -⟩ := hc
    unfold request at hq
    rw [h] at hq
    cases hq
  · intro _ earlier _ _ later _ hm
    simp at hm

/-- **A failed write is undone, unless its commit was refused.** Of a write that is given a
transaction of its own, the statement that failed is followed by a rollback before anything could
commit it, exactly if the failure was not that of the commit after an accepted statement. -/
theorem failed_write_undone_iff (hw : isRead (Connection.parser σ) builder.descriptor = false)
    (ht : builder.client.inTransaction = false)
    (hd : ∀ sql, builder.sql = .ok sql → Statement.commitsImplicitly sql = false) :
    ∃ made, (execute.after builder).client.calls = builder.client.calls ++ made ∧
      (builder.UndoesFailure made ↔ ¬ builder.CommitRefused) := by
  cases h : builder.rendered with
  | error fault => exact ⟨[], undoesFailure_of_refused hw h⟩
  | ok written =>
    obtain ⟨sql, placeholders⟩ := written
    have ho : builder.ownsTransaction sql = true := by
      unfold ownsTransaction
      rw [ht, hd sql (rendered_eq_ok h).1]
      rfl
    obtain ⟨made, hc, hm⟩ := executeStatement_ownWrite h ho
    exact ⟨made, by rw [after_execute_of_write hw, hc], undoesFailure_iff_of_ownWrite hw hm⟩

/-- A builder whose connection refuses its first commit, about to delete from a table. -/
def deleteOnFullDisk : Builder Scripted :=
  (delete (.text "t") .null).after
    { client := { connection := { commitFailures := [some "disk full"] } }, dialect := .sqlite }

theorem failed_write_undone_iff_onFullDisk :
    isRead (Connection.parser Scripted) deleteOnFullDisk.descriptor = false ∧
      deleteOnFullDisk.client.inTransaction = false ∧
      ∃ made, (execute.after deleteOnFullDisk).client.calls =
          deleteOnFullDisk.client.calls ++ made ∧
        (deleteOnFullDisk.UndoesFailure made ↔ ¬ deleteOnFullDisk.CommitRefused) :=
  ⟨rfl, rfl, failed_write_undone_iff rfl rfl fun sql h => by cases h; rfl⟩

/-- The DELETE fails without a rollback, and what the next statement commits is both. -/
theorem refused_commit_keeps_failed_write :
    isRead (Connection.parser Scripted) deleteOnFullDisk.descriptor = false ∧
      deleteOnFullDisk.client.inTransaction = false ∧
      deleteOnFullDisk.sql = .ok "DELETE FROM t" ∧
      Statement.commitsImplicitly "DELETE FROM t" = false ∧
      (∃ fault, execute.outcome deleteOnFullDisk = .error fault) ∧
      (execute.after deleteOnFullDisk).client.calls = [.execute "DELETE FROM t" none, .commit] ∧
      ((onClient (Client.exec "SELECT 1")).after
          (execute.after deleteOnFullDisk : Builder Scripted)).client.calls =
        [.execute "DELETE FROM t" none, .commit, .execute "SELECT 1" none, .commit] :=
  ⟨rfl, rfl, rfl, rfl, ⟨_, rfl⟩, rfl, rfl⟩

/-! ## Debug modes -/

/-- The calls of a write in a debug mode. -/
theorem made_of_ownWrite {made : List Call} {given : Attempt ExecutionResult}
    (hd : builder.debugMode.enabled = true) (h : OwnWrite builder made given) :
    (made = [.rollback] ∨ ∃ spelled values, made = [.execute spelled values, .rollback]) ∧
      ∀ result, given = .ok result → result.simulated = true := by
  cases h with
  | unbound => exact ⟨.inl rfl, fun _ h => by cases h⟩
  | rejected => exact ⟨.inr ⟨_, _, rfl⟩, fun _ h => by cases h⟩
  | undone _ _ _ hs => exact ⟨.inr ⟨_, _, rfl⟩, hs⟩
  | committed _ _ hoff => cases hd.symm.trans hoff
  | unsettled _ _ hoff => cases hd.symm.trans hoff

/-- **Nothing lasts in a debug mode.** A write never commits. One that cannot be rendered is refused
and makes no call; one within an open transaction, or one that the database would settle itself, is
not sent; any other is rolled back once, whether it was sent or not and however it ended. What
returns is marked as simulated. -/
theorem debugMode_never_commits (hd : builder.debugMode.enabled = true)
    (hw : isRead (Connection.parser σ) builder.descriptor = false) :
    ∃ made, (execute.after builder).client.calls = builder.client.calls ++ made ∧
      Call.commit ∉ made ∧
      (∀ result, execute.outcome builder = .ok result → result.simulated = true) ∧
      (∀ fault, builder.rendered = .error fault →
        made = [] ∧ execute.outcome builder = .error fault) ∧
      (builder.client.inTransaction = true → made = []) ∧
      ∀ sql placeholders, builder.rendered = .ok (sql, placeholders) →
        (Statement.commitsImplicitly sql = true → made = []) ∧
        (builder.client.inTransaction = false → Statement.commitsImplicitly sql = false →
          made = [.rollback] ∨ ∃ spelled values, made = [.execute spelled values, .rollback]) := by
  rw [after_execute_of_write hw, outcome_execute_of_write hw]
  cases h : builder.rendered with
  | error fault =>
    have hf := executeStatement_of_refused h
    refine ⟨[], by rw [client_of_refused h, List.append_nil], List.not_mem_nil, ?_, ?_,
      fun _ => rfl, by rintro _ _ ⟨⟩⟩
    · intro result ho
      rw [Action.outcome, hf] at ho
      cases ho
    · intro cause hc
      cases hc
      exact ⟨rfl, by rw [Action.outcome, hf]⟩
  | ok written =>
    obtain ⟨sql, placeholders⟩ := written
    cases ho : builder.ownsTransaction sql with
    | false =>
      have hh : builder.holdsBack sql = true := by
        unfold holdsBack
        rw [hd, ho]
        rfl
      refine ⟨[], by rw [client_of_held h hh, List.append_nil], List.not_mem_nil,
        fun _ => simulated_of_held h hh, by rintro _ ⟨⟩, fun _ => rfl, ?_⟩
      intro _ _ heq
      cases heq
      refine ⟨fun _ => rfl, fun ht hc => ?_⟩
      rcases ownsTransaction_eq_false_iff.mp ho with ho | ho
      · cases ht.symm.trans ho
      · cases hc.symm.trans ho
    | true =>
      obtain ⟨made, hc, hown⟩ := executeStatement_ownWrite h ho
      obtain ⟨hm, hs⟩ := made_of_ownWrite hd hown
      refine ⟨made, hc, ?_, hs, by rintro _ ⟨⟩, fun ht => ?_, ?_⟩
      · obtain rfl | ⟨spelled, values, rfl⟩ := hm <;> simp
      · cases (closed_of_ownsTransaction ho).symm.trans ht
      · intro _ _ heq
        cases heq
        refine ⟨fun hi => ?_, fun _ _ => hm⟩
        cases ho.symm.trans (ownsTransaction_eq_false_iff.mpr (.inr hi))

/-- A builder in debug mode, about to insert into a table, with a value to bind. -/
def insertInDebugMode : Builder Scripted :=
  (insert (.text "t") (.map [(.text "a", .int 1)])).after
    { client := { connection := {} }, dialect := .sqlite, debugDefault := .on }

theorem debugMode_never_commits_insert :
    insertInDebugMode.debugMode.enabled = true ∧
      isRead (Connection.parser Scripted) insertInDebugMode.descriptor = false ∧
      ∃ made, (execute.after insertInDebugMode).client.calls =
          insertInDebugMode.client.calls ++ made ∧
        Call.commit ∉ made := by
  obtain ⟨made, hc, hm, -⟩ := @debugMode_never_commits Scripted _ insertInDebugMode rfl rfl
  exact ⟨rfl, rfl, made, hc, hm⟩

/-- A statement without a table is refused before a transaction is begun: nothing is rolled back. -/
theorem statement_without_table_makes_no_call :
    let builder : Builder Scripted := (delete (.text "") .null).after
      { client := { connection := {} }, dialect := .sqlite, debugDefault := .on }
    builder.debugMode.enabled = true ∧
      isRead (Connection.parser Scripted) builder.descriptor = false ∧
      builder.client.inTransaction = false ∧
      builder.sql = .error (.sequence (.noTable .delete)) ∧
      (execute.after builder).client.calls = [] :=
  ⟨rfl, rfl, rfl, rfl, rfl⟩

end Builder

end SqlToolkit
