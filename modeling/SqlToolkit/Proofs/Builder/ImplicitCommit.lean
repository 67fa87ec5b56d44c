import SqlToolkit.Proofs.Builder.Captured
import SqlToolkit.Proofs.Builder.Sending
import SqlToolkit.Proofs.Statement.ImplicitCommit

/-!
# Definitions as raw statements

A write that the database commits by itself can have no transaction of its own: a debug mode only
captures it, and otherwise it is sent as it is. A definition is run in this way if it is recognised,
which it is if its verb has the object next to it. Between `CREATE` and its object another word
keeps it from being recognised, and so does a table that is named right behind `TRUNCATE`: such a
definition is sent inside a transaction that the database commits, even in a debug mode.
-/

namespace SqlToolkit.Builder

variable {σ : Type} [Connection σ] {builder : Builder σ} {placeholders : Value.Entries}

/-- **A definition is committed by the database unseen, unless it is recognised.** It is recognised
exactly if its verb and its object are neighbours, the text behind `TRUNCATE` begins like the object
that was left out, or a phrase stands in that text. If it is recognised or a transaction is open, it
has no transaction of its own: a debug mode captures it and sends nothing, and otherwise it is just
run. In every other case it is run in a transaction of its own, whatever the debug mode. -/
theorem definition_recognised_iff (definition : Statement.Definition)
    (hkind : builder.descriptor.kind = .raw)
    (hsql : builder.descriptor.rawSql = .text definition.sql)
    (hplaceholders : builder.placeholders = .ok placeholders) :
    (Statement.commitsImplicitly definition.sql = true ↔ definition.form.isPlain = true ∨
      definition.EndsAsObject ∨
        Statement.commitsImplicitly (String.ofList definition.tail) = true) ∧
    (builder.ownsTransaction definition.sql = false ↔ builder.client.inTransaction = true ∨
      Statement.commitsImplicitly definition.sql = true) ∧
    (builder.ownsTransaction definition.sql = false → builder.debugMode.enabled = true →
      (execute.after builder).client = builder.client ∧
        (execute.after builder).entries =
          builder.entries ++ shownAs definition.sql placeholders
            { kind := .raw, sql := definition.sql, simulated := true, executed := false }) ∧
    (builder.ownsTransaction definition.sql = false → builder.debugMode.enabled = false →
      (execute.after builder).client =
        (PreparedStatement.run definition.sql placeholders).after builder.client) ∧
    (builder.ownsTransaction definition.sql = true →
      ∃ made, (execute.after builder).client.calls = builder.client.calls ++ made ∧
        OwnWrite builder made (execute.outcome builder)) := by
  have hwrite : isRead (Connection.parser σ) builder.descriptor = false :=
    (isRead_raw _ hkind hsql).trans (definition.isRead_sql _)
  have hrendered := rendered_raw hkind hsql hplaceholders
  refine ⟨definition.commitsImplicitly_iff, ownsTransaction_eq_false_iff, fun howns hd => ?_,
    fun howns hd => ?_, fun howns => ?_⟩
  · have hheld : builder.holdsBack definition.sql = true := by rw [holdsBack, hd, howns]; rfl
    rw [after_execute_of_write hwrite]
    refine ⟨client_of_held hrendered hheld, ?_⟩
    rw [Action.after_congr (executeStatement_of_held hrendered hheld), hkind]
    exact entries_captureOnly hd _ _ _ _
  · have hsent : builder.holdsBack definition.sql = false := by rw [holdsBack, hd]; rfl
    rw [after_execute_of_write hwrite, client_of_unowned hrendered hsent howns]
  · rw [after_execute_of_write hwrite, outcome_execute_of_write hwrite]
    exact executeStatement_ownWrite hrendered howns

def createUniqueIndex : Statement.Definition where
  form := .createIndex true
  front := ["CREATE", "UNIQUE", "INDEX"].flatMap fun word => word.toList ++ [' ']
  tail := "i ON t (a)".toList
  spaced := Statement.spaced_of_vocabulary (Statement.DefinitionForm.mem_vocabulary _)

def uniqueIndexInDebugMode : Builder Scripted :=
  (rawQuery (.text createUniqueIndex.sql)).after
    { client := { connection := {} }, dialect := .mysql, debugDefault := .silent }

theorem definition_recognised_iff_unique_index :
    uniqueIndexInDebugMode.descriptor.kind = .raw ∧
      uniqueIndexInDebugMode.descriptor.rawSql = .text createUniqueIndex.sql ∧
      uniqueIndexInDebugMode.placeholders = .ok [] ∧
      Statement.commitsImplicitly createUniqueIndex.sql = false ∧
      ∃ made, (execute.after uniqueIndexInDebugMode).client.calls =
          uniqueIndexInDebugMode.client.calls ++ made ∧
        OwnWrite uniqueIndexInDebugMode made (execute.outcome uniqueIndexInDebugMode) := by
  obtain ⟨hcommits, howns, -, -, hown⟩ :=
    @definition_recognised_iff Scripted _ uniqueIndexInDebugMode [] createUniqueIndex rfl rfl rfl
  have hunseen : Statement.commitsImplicitly createUniqueIndex.sql = false := by
    refine Bool.eq_false_iff.mpr fun hseen => ?_
    rcases hcommits.mp hseen with hplain | hobject | htail
    · cases hplain
    · cases hobject.1
    · cases htail
  refine ⟨rfl, rfl, rfl, hunseen, hown (Bool.not_eq_false _ |>.mp fun hnone => ?_)⟩
  rcases howns.mp hnone with hopen | hseen
  · cases hopen
  · cases hunseen.symm.trans hseen

/-- The definition is not recognised, and a debug mode sends it. -/
theorem unique_index_sent_in_debugMode :
    createUniqueIndex.sql = "CREATE UNIQUE INDEX i ON t (a)" ∧
      Statement.commitsImplicitly createUniqueIndex.sql = false ∧
      uniqueIndexInDebugMode.debugMode.enabled = true ∧
      (execute.after uniqueIndexInDebugMode).client.calls =
        [.execute createUniqueIndex.sql none, .rollback] :=
  ⟨rfl, rfl, rfl, rfl⟩

end SqlToolkit.Builder
