import SqlToolkit.Connection.Scripted
import SqlToolkit.Proofs.Builder.Delivery
import SqlToolkit.Proofs.Builder.Sound
import SqlToolkit.Proofs.Connection.Refusal
import SqlToolkit.Proofs.Written

/-!
# How executions fail

The guard around a statement passes on the faults of the toolkit and makes an execution fault of
every other one, with the statement as it can be shown and the values it was given. Once the values
can be written, nothing that follows a refused call can fail. A number that is too long to be
written is the one thing that spoils this: it is met when the failure is to be told, and what is
raised instead is the bad value itself.
-/

namespace SqlToolkit.Builder

open SqlToolkit.Action (Keeps)
open Client (Reports)

variable {σ : Type} {builder : Builder σ} {sql : String} {placeholders : Value.Entries}

/-! ## Telling of a statement -/

/-- A failure of a statement can be told: its values can be written and, for the log, their keys. -/
structure CanBeTold (mode : DebugMode) (placeholders : Value.Entries) : Prop where
  values : Interpolation.Writable placeholders
  logged : Loggable mode placeholders none

section Keyed

variable (hkeys : ∀ key ∈ Entries.keys placeholders, key.isMarkerKey = true)

include hkeys

theorem interpolate_of_unwritable (sql : String) (h : ¬Interpolation.Writable placeholders) :
    Interpolation.interpolate sql placeholders = .error .badValue := by
  obtain ⟨values, hvalues⟩ := Interpolation.orderedValues?_returns hkeys
  exact Interpolation.interpolate_of_not_writable sql hvalues h

/-- A statement is captured unless something about it cannot be written. -/
theorem capture_returns_or (mode : DebugMode) (sql : String) (entry : DebugEntry)
    (s : Builder σ) :
    (capture mode sql placeholders entry).outcome s = .ok () ∨
      (capture mode sql placeholders entry).outcome s = .error .badValue ∧
        ¬(Interpolation.Writable placeholders ∧
          Loggable mode placeholders entry.affectedRows) := by
  by_cases hvalues : Interpolation.Writable placeholders
  · obtain ⟨shown, hshown⟩ := Interpolation.interpolate_returns sql hkeys hvalues
    by_cases hlogged : Loggable mode placeholders entry.affectedRows
    · exact .inl (capture_returns hshown hlogged s)
    · exact .inr ⟨capture_of_not_loggable hshown hlogged s, fun h => hlogged h.2⟩
  · have hrefused := interpolate_of_unwritable hkeys sql hvalues
    cases hmode : mode.enabled with
    | true => exact .inr ⟨capture_refuses hrefused hmode entry s, fun h => hvalues h.1⟩
    | false =>
      refine .inl ?_
      unfold capture
      rw [hmode]
      rfl

/-- A failure is told with the statement and its values. -/
theorem executionFault_returns (kind : QueryKind) (mode : DebugMode) (sql reason : String)
    (h : CanBeTold mode placeholders) (s : Builder σ) :
    ∃ shown, Interpolation.interpolate sql placeholders = .ok shown ∧
      (executionFault kind mode sql placeholders reason).outcome s =
        .ok (.execution reason shown placeholders) := by
  obtain ⟨shown, hshown⟩ := Interpolation.interpolate_returns sql hkeys h.values
  refine ⟨shown, hshown, ?_⟩
  unfold executionFault
  rw [hshown, Action.outcome_bind_ok (Action.outcome_ofAttempt _ _), Action.ofAttempt_after,
    Action.outcome_bind_ok rfl, Action.outcome_bind_ok (Action.outcome_get _),
    Action.outcome_bind_ok (capture_returns hshown h.logged _)]
  rfl

/-- A failure that cannot be told gives way to the value that cannot be written. -/
theorem executionFault_refuses (kind : QueryKind) (mode : DebugMode) (sql : String)
    (reason : String) (h : ¬CanBeTold mode placeholders) (s : Builder σ) :
    (executionFault kind mode sql placeholders reason).outcome s = .error .badValue := by
  unfold executionFault
  by_cases hvalues : Interpolation.Writable placeholders
  · obtain ⟨shown, hshown⟩ := Interpolation.interpolate_returns sql hkeys hvalues
    rw [hshown, Action.outcome_bind_ok (Action.outcome_ofAttempt _ _), Action.ofAttempt_after,
      Action.outcome_bind_ok rfl, Action.outcome_bind_ok (Action.outcome_get _)]
    exact Action.outcome_bind_error
      (capture_of_not_loggable hshown (fun hlogged => h ⟨hvalues, hlogged⟩) _)
  · rw [interpolate_of_unwritable hkeys sql hvalues]
    rfl

end Keyed

/-- How a refused call is told of: with the statement, its values and the reason, or not at all. -/
def Told (mode : DebugMode) (sql : String) (placeholders : Value.Entries)
    (outcome : Attempt ExecutionResult) : Prop :=
  (CanBeTold mode placeholders → ∃ reason shown,
    Interpolation.interpolate sql placeholders = .ok shown ∧
      outcome = .error (.execution reason shown placeholders)) ∧
  (¬CanBeTold mode placeholders → outcome = .error .badValue)

theorem outcome_guarded_of_toolkit {α : Type} {action : Action (Builder σ) α} {fault : Fault}
    (kind : QueryKind) (mode : DebugMode) (ha : action.outcome builder = .error fault)
    (ht : fault.isToolkit = true) :
    (guarded kind mode sql placeholders action).outcome builder = .error fault := by
  unfold guarded
  rw [Action.outcome_bind_ok (Action.outcome_attempt _ _), ha]
  dsimp only
  rw [if_pos ht]
  rfl

/-- A fault from outside is told with the statement, if it can be. -/
theorem told_of_outside {α : Type} {action : Action (Builder σ) α} {fault : Fault}
    {next : α → Action (Builder σ) ExecutionResult} (kind : QueryKind) (mode : DebugMode)
    (hkeys : ∀ key ∈ Entries.keys placeholders, key.isMarkerKey = true)
    (ha : action.outcome builder = .error fault) (ht : fault.isToolkit = false) :
    Told mode sql placeholders
      ((guarded kind mode sql placeholders action >>= next).outcome builder) := by
  have hguarded : (guarded kind mode sql placeholders action).outcome builder =
      (do throw (← executionFault kind mode sql placeholders fault.message) :
        Action (Builder σ) α).outcome ((Action.attempt action).after builder) := by
    unfold guarded
    rw [Action.outcome_bind_ok (Action.outcome_attempt _ _), ha]
    dsimp only
    rw [if_neg (by rw [ht]; exact Bool.false_ne_true)]
  constructor
  · intro htells
    obtain ⟨shown, hshown, hfault⟩ := executionFault_returns hkeys kind mode sql
      fault.message htells ((Action.attempt action).after builder)
    refine ⟨fault.message, shown, hshown, Action.outcome_bind_error ?_⟩
    rw [hguarded, Action.outcome_bind_ok hfault]
    rfl
  · intro huntold
    refine Action.outcome_bind_error ?_
    rw [hguarded]
    exact Action.outcome_bind_error (executionFault_refuses hkeys kind mode sql _ huntold _)

/-! ## Faithful executions -/

variable [Connection σ]

/-- Everything that an execution shows can be written: the columns, the grouping and the order, the
values that are bound, and what goes to the log, the row count that the connection reports too. -/
structure Tellable (builder : Builder σ) : Prop where
  spelled : builder.descriptor.Spellable
  told : ∀ placeholders, builder.placeholders = .ok placeholders →
    CanBeTold builder.debugMode placeholders
  counted : builder.debugMode = .on → ∀ result, builder.answer? = some result →
    Numeral.isWritable result.affected = true

/-- A fault comes from the toolkit, unless there is something that cannot be written. -/
def Raises (builder : Builder σ) (fault : Fault) : Prop :=
  fault.isToolkit = true ∨ fault = .badValue ∧ ¬builder.Tellable

/-- How an execution ends with a statement to show: in a fault that it may raise, and if one of its
calls was refused, in one that tells of it. -/
structure Faithful (builder : Builder σ) (action : Action (Builder σ) ExecutionResult)
    (sql : String) (placeholders : Value.Entries) : Prop where
  raises : ∀ fault, action.outcome builder = .error fault → builder.Raises fault
  told : builder.client.Makes
    (fun connection made => Connection.RefusesOne connection made →
      Told builder.debugMode sql placeholders (action.outcome builder))
    (action.after builder).client

/-- What an action can raise that returns unless something cannot be written. -/
theorem raises_of_returns_or {action : Action (Builder σ) ExecutionResult} {s : Builder σ}
    (h : (∃ result, action.outcome s = .ok result) ∨
      action.outcome s = .error .badValue ∧ ¬builder.Tellable) :
    ∀ fault, action.outcome s = .error fault → builder.Raises fault := by
  intro fault hf
  obtain ⟨result, hr⟩ | ⟨hr, huntold⟩ := h
  · cases hr.symm.trans hf
  · cases hr.symm.trans hf
    exact .inr ⟨rfl, huntold⟩

/-- An action that makes no call tells of none. -/
theorem faithful_of_quiet {action : Action (Builder σ) ExecutionResult} (hq : Quiet action)
    (h : (∃ result, action.outcome builder = .ok result) ∨
      action.outcome builder = .error .badValue ∧ ¬builder.Tellable) :
    Faithful builder action sql placeholders where
  raises := raises_of_returns_or h
  told := by
    rw [← hq.leavesClient builder]
    exact .nothing rfl rfl False.elim

/-- A guarded action that reports refusals, and then what makes no call and returns unless something
cannot be written. -/
theorem faithful_of_guarded {α : Type} {action : Action (Builder σ) α}
    {next : α → Action (Builder σ) ExecutionResult} (kind : QueryKind)
    (hplaceholders : builder.placeholders = .ok placeholders)
    (hkeys : ∀ key ∈ Entries.keys placeholders, key.isMarkerKey = true)
    (ha : Reports Builder.client action) (hq : ∀ given, Quiet (next given))
    (hr : ∀ given s, action.outcome builder = .ok given →
      (∃ result, (next given).outcome s = .ok result) ∨
        (next given).outcome s = .error .badValue ∧ ¬builder.Tellable) :
    Faithful builder (guarded kind builder.debugMode sql placeholders action >>= next)
      sql placeholders := by
  have hclient : ((guarded kind builder.debugMode sql placeholders action >>= next).after
      builder).client = (action.after builder).client :=
    (Action.view_after_bind Builder.client (fun given => (hq given).leavesClient)
      builder).trans (guarded_client kind builder.debugMode sql placeholders action builder)
  cases hgiven : action.outcome builder with
  | ok given =>
    have hg : (guarded kind builder.debugMode sql placeholders action).outcome builder =
        .ok given := outcome_guarded_of_ok kind _ _ _ hgiven
    constructor
    · rw [Action.outcome_bind_ok hg]
      exact raises_of_returns_or (hr given _ hgiven)
    · rw [hclient]
      refine (ha builder).mono fun made hmade hrefused => ?_
      obtain ⟨message, hm⟩ := hmade.mp hrefused
      cases hgiven.symm.trans hm
  | error fault =>
    cases ht : fault.isToolkit with
    | true =>
      have hdone : (guarded kind builder.debugMode sql placeholders action >>= next).outcome
          builder = .error fault :=
        Action.outcome_bind_error (outcome_guarded_of_toolkit kind _ hgiven ht)
      constructor
      · intro cause hf
        cases hdone.symm.trans hf
        exact .inl ht
      · rw [hclient]
        refine (ha builder).mono fun made hmade hrefused => ?_
        obtain ⟨message, hm⟩ := hmade.mp hrefused
        cases hgiven.symm.trans hm
        cases ht
    | false =>
      have htold : Told builder.debugMode sql placeholders
          ((guarded kind builder.debugMode sql placeholders action >>= next).outcome builder) :=
        told_of_outside kind builder.debugMode hkeys hgiven ht
      constructor
      · intro cause hf
        by_cases htells : CanBeTold builder.debugMode placeholders
        · obtain ⟨reason, shown, -, hdone⟩ := htold.1 htells
          cases hdone.symm.trans hf
          exact .inl rfl
        · cases (htold.2 htells).symm.trans hf
          exact .inr ⟨rfl, fun htellable => htells (htellable.told _ hplaceholders)⟩
      · rw [hclient]
        exact (ha builder).mono fun _ _ _ => htold

theorem Faithful.congr {action other : Action (Builder σ) ExecutionResult}
    (h : Faithful builder action sql placeholders) (heq : other builder = action builder) :
    Faithful builder other sql placeholders := by
  obtain ⟨hraises, htold⟩ := h
  constructor
  · rwa [Action.outcome, heq]
  · rwa [Action.outcome, Action.after, heq]

section Rendered

variable (h : builder.rendered = .ok (sql, placeholders))
  (hkeys : ∀ key ∈ Entries.keys placeholders, key.isMarkerKey = true)

include h hkeys

/-- What is captured in the end cannot be written only if something that is shown cannot be. -/
theorem capture_bind_returns_or {entry : DebugEntry} {rest : Action (Builder σ) ExecutionResult}
    (hrest : ∀ s, ∃ result, rest.outcome s = .ok result)
    (hcount : builder.Tellable → builder.debugMode = .on →
      entry.affectedRows.all Numeral.isWritable = true) (s : Builder σ) :
    (∃ result, (capture builder.debugMode sql placeholders entry >>= fun _ => rest).outcome s =
        .ok result) ∨
      (capture builder.debugMode sql placeholders entry >>= fun _ => rest).outcome s =
        .error .badValue ∧ ¬builder.Tellable := by
  obtain hcaptured | ⟨hrefused, hunwritten⟩ :=
    capture_returns_or hkeys builder.debugMode sql entry s
  · rw [Action.outcome_bind_ok hcaptured]
    exact .inl (hrest _)
  · refine .inr ⟨Action.outcome_bind_error hrefused, fun htellable => hunwritten ?_⟩
    have htells := htellable.told _ (rendered_eq_ok h).2
    exact ⟨htells.values, fun hon => ⟨(htells.logged hon).1, hcount htellable hon⟩⟩

/-- A statement that can be written is executed faithfully. -/
theorem execute_faithful : Faithful builder execute sql placeholders := by
  have hplaceholders := (rendered_eq_ok h).2
  cases hread : isRead (Connection.parser σ) builder.descriptor with
  | true =>
    refine Faithful.congr ?_ ((execute_of_read hread).trans (executeQuery_of_sent h))
    refine faithful_of_guarded _ hplaceholders hkeys
      (onClient_reports (PreparedStatement.run_reports _ _))
      (fun _ => rememberRead_quiet _ _ _ _) fun statement s _ => ?_
    unfold rememberRead
    rw [Action.outcome_bind_ok rfl]
    exact capture_bind_returns_or h hkeys (fun _ => ⟨_, rfl⟩) (fun _ _ => rfl) _
  | false =>
    cases hheld : builder.holdsBack sql with
    | true =>
      refine Faithful.congr (faithful_of_quiet (captureOnly_quiet _ _ _ _) ?_)
        ((execute_of_write hread).trans (executeStatement_of_held h hheld))
      exact capture_bind_returns_or h hkeys (fun _ => ⟨_, rfl⟩) (fun _ _ => rfl) _
    | false =>
      refine Faithful.congr ?_ ((execute_of_write hread).trans (executeStatement_of_sent h hheld))
      refine faithful_of_guarded _ hplaceholders hkeys (guardedWrite_reports _ _ _)
        (fun _ => rememberWrite_quiet _ _ _ _ _) fun written s hwritten => ?_
      obtain ⟨result, hanswer, -, hcount, -⟩ := answered_of_guardedWrite h hwritten
      unfold rememberWrite
      rw [Action.outcome_bind_ok rfl]
      refine capture_bind_returns_or h hkeys (fun _ => ⟨_, rfl⟩) (fun htellable hon => ?_) _
      show Numeral.isWritable written.1.rowCount = true
      rw [hcount]
      exact htellable.counted hon result hanswer

end Rendered

theorem rendered_raises (h : builder.descriptor.Sound) {fault : Fault}
    (hr : builder.rendered = .error fault) : builder.Raises fault := by
  have hrefuses : builder.descriptor.Refuses fault := by
    unfold rendered at hr
    cases hs : builder.sql with
    | error cause => rw [hs] at hr; cases hr; exact h.sql_refuses hs
    | ok text =>
      cases hp : builder.placeholders with
      | error cause =>
        rw [hs, hp] at hr
        cases hr
        exact Descriptor.boundPlaceholders_refuses hp
      | ok values => rw [hs, hp] at hr; cases hr
  exact hrefuses.imp_right fun ⟨hfault, hspelled⟩ =>
    ⟨hfault, fun htellable => hspelled htellable.spelled⟩

omit [Connection σ] in
/-- What is left alone by an execution makes up the statement. -/
theorem sameStatement_of_fades {before after : Builder σ}
    (h : Standing.Fades before.standing after.standing) :
    after.sql = before.sql ∧ after.placeholders = before.placeholders := by
  have hd : after.descriptor = before.descriptor := h.descriptor_eq
  have hdialect : after.dialect = before.dialect := h.dialect_eq
  unfold Builder.sql Builder.placeholders
  rw [hd, hdialect]
  exact ⟨rfl, rfl⟩

/-! ## Failures keep their context -/

/-- A connection that rejects a statement, and then the rollback as well. -/
def onFailing : Builder Scripted :=
  { client := { connection := {
      responses := [{ failure := some "locked" }], rollbackFailures := [some "gone"] } }
    dialect := .sqlite }

/-- A DELETE with a value that no marker takes. -/
def deleteWith (value : Value) : List (Operation Scripted) :=
  [.delete (.text "t") .null, .continued (.addPlaceholders (.map [(.int 1, value)]))]

theorem wellTyped_deleteWith (value : Value) :
    ∀ operation ∈ deleteWith value, operation.WellTyped := by
  intro operation hmem
  obtain rfl | hmem := List.mem_cons.mp hmem
  · exact ⟨_, rfl⟩
  · rw [List.mem_singleton.mp hmem]
    intro key hkey
    rw [List.mem_singleton.mp hkey]
    rfl

end SqlToolkit.Builder
