import SqlToolkit.Proofs.Builder.Client
import SqlToolkit.Proofs.Statement.Interpolation

/-!
# What an execution comes down to

A write is *rendered* first; a descriptor that cannot be rendered is refused as it is. Under a debug
mode a write that could not have a transaction of its own is *held back*. Every other write runs
inside its guard, and what the guard did to the client is all that the execution did to it.
-/

namespace SqlToolkit.Builder

open SqlToolkit.Action (Keeps)

variable {σ : Type}

/-- The SQL of the current statement with the values that it binds. -/
def rendered (builder : Builder σ) : Attempt (String × Value.Entries) := do
  let sql ← builder.sql
  return (sql, ← builder.placeholders)

/-- Whether a write is captured but not sent. -/
def holdsBack (builder : Builder σ) (sql : String) : Bool :=
  builder.debugMode.enabled && !builder.ownsTransaction sql

theorem rendered_eq_ok {builder : Builder σ} {sql : String} {placeholders : Value.Entries}
    (h : builder.rendered = .ok (sql, placeholders)) :
    builder.sql = .ok sql ∧ builder.placeholders = .ok placeholders := by
  unfold rendered at h
  cases hs : builder.sql with
  | error fault => rw [hs] at h; cases h
  | ok text =>
    cases hp : builder.placeholders with
    | error fault => rw [hs, hp] at h; cases h
    | ok values => rw [hs, hp] at h; cases h; exact ⟨rfl, rfl⟩

/-- A raw statement is rendered as it is. -/
theorem rendered_raw {builder : Builder σ} {sql : String} {placeholders : Value.Entries}
    (hkind : builder.descriptor.kind = .raw) (hsql : builder.descriptor.rawSql = .text sql)
    (hplaceholders : builder.placeholders = .ok placeholders) :
    builder.rendered = .ok (sql, placeholders) := by
  have htext : builder.sql = .ok sql := by
    unfold Builder.sql Descriptor.sql
    rw [hkind, hsql]
    rfl
  rw [rendered, htext, hplaceholders]
  rfl

theorem isRead_raw (parser : SqlParser) {descriptor : Descriptor} {sql : String}
    (hkind : descriptor.kind = .raw) (hsql : descriptor.rawSql = .text sql) :
    isRead parser descriptor = parser.isRead sql := by
  unfold isRead
  rw [hkind, hsql]
  exact Option.any_some

variable [Connection σ]

def guardedWrite (builder : Builder σ) (sql : String) (placeholders : Value.Entries) :
    Action (Builder σ) (PreparedStatement × Value) :=
  transactionScope Part.whole (builder.ownsTransaction sql)
    (sendWrite sql placeholders
      (insertsRows (Connection.parser σ) builder.descriptor.kind sql &&
        builder.dialect.supportsLastInsertId)
      builder.debugMode.enabled)

variable {builder : Builder σ} {sql : String} {placeholders : Value.Entries}

/-- What cannot be rendered is refused, and nothing else happens. -/
theorem executeStatement_of_refused {fault : Fault} (h : builder.rendered = .error fault) :
    executeStatement builder = .error fault builder := by
  unfold executeStatement
  rw [Action.get_bind]
  unfold rendered at h
  cases hs : builder.sql with
  | error cause => rw [hs] at h; cases h; rfl
  | ok text =>
    cases hp : builder.placeholders with
    | error cause => rw [hs, hp] at h; cases h; rfl
    | ok values => rw [hs, hp] at h; cases h

theorem executeStatement_of_held (h : builder.rendered = .ok (sql, placeholders))
    (hh : builder.holdsBack sql = true) :
    executeStatement builder =
      captureOnly builder.descriptor.kind builder.debugMode sql placeholders builder := by
  obtain ⟨hs, hp⟩ := rendered_eq_ok h
  unfold executeStatement
  rw [Action.get_bind, hs, hp]
  show (if builder.holdsBack sql = true then _ else _ : Action (Builder σ) _) builder = _
  rw [if_pos hh]

theorem executeStatement_of_sent (h : builder.rendered = .ok (sql, placeholders))
    (hh : builder.holdsBack sql = false) :
    executeStatement builder =
      (guarded builder.descriptor.kind builder.debugMode sql placeholders
          (builder.guardedWrite sql placeholders) >>=
        fun written => builder.rememberWrite sql placeholders written.1 written.2) builder := by
  obtain ⟨hs, hp⟩ := rendered_eq_ok h
  unfold executeStatement
  rw [Action.get_bind, hs, hp]
  show (if builder.holdsBack sql = true then _ else _ : Action (Builder σ) _) builder = _
  rw [if_neg (by rw [hh]; exact Bool.false_ne_true)]
  rfl

/-- A statement that is no read is run as a write. -/
theorem execute_of_write (h : isRead (Connection.parser σ) builder.descriptor = false) :
    execute builder = executeStatement builder := by
  unfold execute
  rw [Action.get_bind, h]
  rfl

theorem after_execute_of_write (h : isRead (Connection.parser σ) builder.descriptor = false) :
    execute.after builder = executeStatement.after builder := by
  rw [Action.after, execute_of_write h, ← Action.after]

theorem outcome_execute_of_write (h : isRead (Connection.parser σ) builder.descriptor = false) :
    execute.outcome builder = executeStatement.outcome builder := by
  rw [Action.outcome, execute_of_write h, ← Action.outcome]

/-! ## Reads -/

omit [Connection σ] in
def rememberRead (builder : Builder σ) (sql : String) (placeholders : Value.Entries)
    (statement : PreparedStatement) : Action (Builder σ) ExecutionResult := do
  remember statement
    { builder.last with
      descriptor := .current, sql := some sql, placeholders, wasRead := true, wasInsert := false }
  capture builder.debugMode sql placeholders
    { kind := builder.descriptor.kind, sql, elapsed := builder.lap }
  return { kind := builder.descriptor.kind, sql, elapsed := builder.lap, isRead := true }

theorem executeQuery_of_refused {fault : Fault} (h : builder.rendered = .error fault) :
    executeQuery builder = .error fault builder := by
  unfold executeQuery
  rw [Action.get_bind]
  unfold rendered at h
  cases hs : builder.sql with
  | error cause => rw [hs] at h; cases h; rfl
  | ok text =>
    cases hp : builder.placeholders with
    | error cause => rw [hs, hp] at h; cases h; rfl
    | ok values => rw [hs, hp] at h; cases h

/-- A read is never held back. -/
theorem executeQuery_of_sent (h : builder.rendered = .ok (sql, placeholders)) :
    executeQuery builder =
      (guarded builder.descriptor.kind builder.debugMode sql placeholders
          (onClient (PreparedStatement.run sql placeholders)) >>=
        builder.rememberRead sql placeholders) builder := by
  obtain ⟨hs, hp⟩ := rendered_eq_ok h
  unfold executeQuery
  rw [Action.get_bind, hs, hp]
  rfl

theorem execute_of_read (h : isRead (Connection.parser σ) builder.descriptor = true) :
    execute builder = executeQuery builder := by
  unfold execute
  rw [Action.get_bind, h]
  rfl

/-- A statement that cannot be written is refused before any call. -/
theorem execute_of_refused {fault : Fault} (h : builder.rendered = .error fault) :
    execute builder = .error fault builder := by
  cases hread : isRead (Connection.parser σ) builder.descriptor with
  | true => exact (execute_of_read hread).trans (executeQuery_of_refused h)
  | false => exact (execute_of_write hread).trans (executeStatement_of_refused h)

omit [Connection σ] in
theorem rememberRead_quiet (builder : Builder σ) (sql : String) (placeholders : Value.Entries)
    (statement : PreparedStatement) : Quiet (builder.rememberRead sql placeholders statement) :=
  (remember_quiet _ _).bind fun _ =>
    (capture_silent _ _ _ _).quiet.bind fun _ => Silent.quiet (Keeps.pure _)

/-! ## The client -/

theorem client_of_refused {fault : Fault} (h : builder.rendered = .error fault) :
    (executeStatement.after builder).client = builder.client := by
  rw [Action.after, executeStatement_of_refused h]

theorem client_of_held (h : builder.rendered = .ok (sql, placeholders))
    (hh : builder.holdsBack sql = true) :
    (executeStatement.after builder).client = builder.client := by
  rw [Action.after, executeStatement_of_held h hh]
  exact ((captureOnly_quiet _ _ _ _).leavesClient builder).symm

theorem client_of_sent (h : builder.rendered = .ok (sql, placeholders))
    (hh : builder.holdsBack sql = false) :
    (executeStatement.after builder).client =
      ((builder.guardedWrite sql placeholders).after builder).client := by
  rw [Action.after, executeStatement_of_sent h hh, ← Action.after, Action.after_bind,
    ← guarded_client builder.descriptor.kind builder.debugMode sql placeholders]
  split
  · exact ((rememberWrite_quiet _ _ _ _ _).leavesClient _).symm
  · rfl

/-! ## The outcome -/

/-- What the log shows of a captured statement can be written: the keys of its values and the number
of rows it affected. -/
def Loggable (mode : DebugMode) (placeholders : Value.Entries) (affected : Option Int) : Prop :=
  mode = .on → (∀ entry ∈ placeholders, entry.1.isWritable = true) ∧
    affected.all Numeral.isWritable = true

theorem loggable_nil (mode : DebugMode) : Loggable mode [] none := fun _ => ⟨nofun, rfl⟩

theorem isWritable_entry_iff (entry : DebugEntry) (hvalues : Interpolation.Writable placeholders) :
    { entry with sql, placeholders }.isWritable = true ↔
      (∀ entry ∈ placeholders, entry.1.isWritable = true) ∧
        entry.affectedRows.all Numeral.isWritable = true := by
  unfold DebugEntry.isWritable
  rw [Bool.and_eq_true, List.all_eq_true]
  refine and_congr_left fun _ => forall₂_congr fun value hvalue => ?_
  rw [hvalues value hvalue, Bool.and_true]

omit [Connection σ] in
/-- A statement that can be shown with its values is captured, and logged if that can be written. -/
theorem capture_returns {shown : String} {mode : DebugMode} {entry : DebugEntry}
    (h : Interpolation.interpolate sql placeholders = .ok shown)
    (hl : Loggable mode placeholders entry.affectedRows) (builder : Builder σ) :
    (capture mode sql placeholders entry).outcome builder = .ok () := by
  unfold capture
  rw [h]
  split
  · rw [Action.outcome_bind_ok (Action.outcome_ofAttempt _ _), Action.ofAttempt_after,
      Action.outcome_bind_ok (Action.outcome_modify _ _)]
    split
    · next hon =>
      rw [(isWritable_entry_iff entry (Interpolation.writable_of_interpolate h)).mpr (hl hon)]
      rfl
    · rfl
  · rfl

omit [Connection σ] in
/-- An entry that cannot be written is captured but not logged. -/
theorem capture_of_not_loggable {shown : String} {mode : DebugMode} {entry : DebugEntry}
    (h : Interpolation.interpolate sql placeholders = .ok shown)
    (hl : ¬Loggable mode placeholders entry.affectedRows) (builder : Builder σ) :
    (capture mode sql placeholders entry).outcome builder = .error .badValue := by
  obtain ⟨rfl, hentry⟩ := Classical.not_imp.mp hl
  have hrefused : { entry with sql := shown, placeholders }.isWritable = false :=
    Bool.eq_false_iff.mpr fun hwritable => hentry
      ((isWritable_entry_iff entry (Interpolation.writable_of_interpolate h)).mp hwritable)
  unfold capture
  rw [h, if_pos (show DebugMode.on.enabled = true from rfl),
    Action.outcome_bind_ok (Action.outcome_ofAttempt _ _), Action.ofAttempt_after,
    Action.outcome_bind_ok (Action.outcome_modify _ _), hrefused]
  rfl

/-- A statement with these values can be captured, if it has to be, and logged. -/
def Captures (builder : Builder σ) (placeholders : Value.Entries) : Prop :=
  builder.debugMode.enabled = true →
    Interpolation.Shows placeholders ∧ Loggable builder.debugMode placeholders none

omit [Connection σ] in
theorem capture_of_captures (h : builder.Captures placeholders) (sql : String)
    {entry : DebugEntry} (hentry : entry.affectedRows = none) (s : Builder σ) :
    (capture builder.debugMode sql placeholders entry).outcome s = .ok () := by
  cases hmode : builder.debugMode.enabled with
  | true =>
    obtain ⟨hshows, hlogged⟩ := h hmode
    obtain ⟨shown, hshown⟩ := (Interpolation.shows_iff sql).mp hshows
    exact capture_returns hshown (hentry.symm ▸ hlogged) s
  | false =>
    unfold capture
    rw [hmode]
    rfl

omit [Connection σ] in
/-- A read that can be captured is remembered. -/
theorem rememberRead_of_captures (h : builder.Captures placeholders)
    (statement : PreparedStatement) (s : Builder σ) :
    ∃ result, (builder.rememberRead sql placeholders statement).outcome s = .ok result := by
  unfold rememberRead
  rw [Action.outcome_bind_ok rfl, Action.outcome_bind_ok (capture_of_captures h sql rfl _)]
  exact ⟨_, rfl⟩

omit [Connection σ] in
theorem capture_refuses {mode : DebugMode} {fault : Fault}
    (h : Interpolation.interpolate sql placeholders = .error fault) (hm : mode.enabled = true)
    (entry : DebugEntry) (builder : Builder σ) :
    (capture mode sql placeholders entry).outcome builder = .error fault := by
  unfold capture
  rw [if_pos hm, h]
  rfl

omit [Connection σ] in
theorem outcome_guarded_of_ok {α : Type} {action : Action (Builder σ) α} {result : α}
    (kind : QueryKind) (mode : DebugMode) (sql : String) (placeholders : Value.Entries)
    (h : action.outcome builder = .ok result) :
    (guarded kind mode sql placeholders action).outcome builder = .ok result := by
  unfold guarded
  rw [Action.outcome_bind_ok (Action.outcome_attempt _ _), h]
  rfl

omit [Connection σ] in
/-- A guarded action that fails still fails, though the fault may be another one. -/
theorem outcome_guarded_of_error {α : Type} {action : Action (Builder σ) α} {fault : Fault}
    (kind : QueryKind) (mode : DebugMode) (sql : String) (placeholders : Value.Entries)
    (h : action.outcome builder = .error fault) :
    ∃ raised, (guarded kind mode sql placeholders action).outcome builder = .error raised := by
  unfold guarded
  rw [Action.outcome_bind_ok (Action.outcome_attempt _ _), h]
  dsimp only
  split
  · exact ⟨fault, rfl⟩
  · rw [Action.outcome_bind]
    split
    · exact ⟨_, rfl⟩
    · exact ⟨_, rfl⟩

theorem simulated_of_rememberWrite {statement : PreparedStatement} {insertId : Value}
    {s : Builder σ} {result : ExecutionResult}
    (h : (builder.rememberWrite sql placeholders statement insertId).outcome s = .ok result) :
    result.simulated = builder.debugMode.enabled := by
  unfold rememberWrite at h
  obtain ⟨_, -, h⟩ := Action.of_outcome_bind_ok h
  obtain ⟨_, -, h⟩ := Action.of_outcome_bind_ok h
  cases h
  rfl

/-- Without a debug mode there is nothing to capture, and remembering a write cannot fail. -/
theorem rememberWrite_returns (h : builder.debugMode.enabled = false)
    (statement : PreparedStatement) (insertId : Value) (s : Builder σ) :
    ∃ result,
      (builder.rememberWrite sql placeholders statement insertId).outcome s = .ok result := by
  unfold rememberWrite capture
  simp only [h]
  exact ⟨_, rfl⟩

theorem outcome_of_sent_error {fault : Fault} (h : builder.rendered = .ok (sql, placeholders))
    (hh : builder.holdsBack sql = false)
    (hw : (builder.guardedWrite sql placeholders).outcome builder = .error fault) :
    ∃ raised, executeStatement.outcome builder = .error raised := by
  obtain ⟨raised, hr⟩ := outcome_guarded_of_error _ _ sql placeholders hw
  exact ⟨raised, by
    rw [Action.outcome, executeStatement_of_sent h hh, ← Action.outcome,
      Action.outcome_bind_error hr]⟩

theorem outcome_of_sent_ok {written : PreparedStatement × Value}
    (h : builder.rendered = .ok (sql, placeholders)) (hh : builder.holdsBack sql = false)
    (hw : (builder.guardedWrite sql placeholders).outcome builder = .ok written) :
    ∃ s, executeStatement.outcome builder =
      (builder.rememberWrite sql placeholders written.1 written.2).outcome s := by
  refine ⟨(guarded builder.descriptor.kind builder.debugMode sql placeholders
    (builder.guardedWrite sql placeholders)).after builder, ?_⟩
  rw [Action.outcome, executeStatement_of_sent h hh, ← Action.outcome,
    Action.outcome_bind_ok (outcome_guarded_of_ok _ _ _ _ hw)]

theorem simulated_of_held (h : builder.rendered = .ok (sql, placeholders))
    (hh : builder.holdsBack sql = true) {result : ExecutionResult}
    (hr : executeStatement.outcome builder = .ok result) : result.simulated = true := by
  rw [Action.outcome, executeStatement_of_held h hh, ← Action.outcome] at hr
  obtain ⟨_, -, hr⟩ := Action.of_outcome_bind_ok hr
  obtain ⟨_, -, hr⟩ := Action.of_outcome_bind_ok hr
  cases hr
  rfl

end SqlToolkit.Builder
