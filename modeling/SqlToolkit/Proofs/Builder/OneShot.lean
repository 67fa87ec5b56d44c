import SqlToolkit.Proofs.Builder.Modes
import SqlToolkit.Proofs.Builder.Execute
import SqlToolkit.Proofs.Transaction.Scope

/-!
# The mode for one execution

A mode for one execution decides about the execution that comes next. It is used up by an execution
that *completes*, that is, by one that gets its statement run or captured. An execution that fails
before that leaves the mode in force, for whatever is executed next.
-/

namespace SqlToolkit.Builder

open SqlToolkit.Action (Keeps)

variable {σ : Type} {builder : Builder σ} {sql : String} {placeholders : Value.Entries}

/-! ## The mode in force -/

/-- The mode that is in force: the default, unless another one is set for one execution. -/
theorem debugMode_of_set {mode : DebugMode} (h : builder.debugOnce = some mode) :
    builder.debugMode = if mode.enabled then mode else builder.debugDefault := by
  unfold debugMode
  rw [h]

theorem debugMode_of_none (h : builder.debugOnce = none) :
    builder.debugMode = builder.debugDefault := by
  unfold debugMode
  rw [h]

theorem setDebugOnce_of_ofValue {value : Value} {mode : DebugMode}
    (h : DebugMode.ofValue value = .ok mode) (builder : Builder σ) :
    (setDebugOnce value).after builder = { builder with debugOnce := some mode } := by
  unfold setDebugOnce
  rw [h]
  rfl

/-! ## Completed executions -/

variable [Connection σ]

/-- A statement that was written is run, or captured if it is held back, and logged if the mode asks
for that. -/
def Passes (builder : Builder σ) (sql : String) (placeholders : Value.Entries) : Prop :=
  if isRead (Connection.parser σ) builder.descriptor = true then
    ∃ statement, (PreparedStatement.run sql placeholders).outcome builder.client = .ok statement
  else if builder.holdsBack sql = true then
    (∃ shown, Interpolation.interpolate sql placeholders = .ok shown) ∧
      Loggable builder.debugMode placeholders none
  else ∃ written, (builder.guardedWrite sql placeholders).outcome builder = .ok written

/-- An execution gets the statement written, and then run or captured. -/
def Completes (builder : Builder σ) : Prop :=
  ∃ sql placeholders, builder.rendered = .ok (sql, placeholders) ∧ builder.Passes sql placeholders

theorem completes_of_rendered (h : builder.rendered = .ok (sql, placeholders)) :
    builder.Completes ↔ builder.Passes sql placeholders := by
  constructor
  · rintro ⟨_, _, h', hc⟩
    cases h.symm.trans h'
    exact hc
  · exact fun hc => ⟨sql, placeholders, h, hc⟩

/-- The mode for one execution is used up under a condition, and in force as before otherwise. -/
def UsedUpIff (condition : Prop) (before after : Option DebugMode) : Prop :=
  (condition → after = none) ∧ (¬ condition → after = before)

theorem UsedUpIff.of_held {condition : Prop} {before after : Option DebugMode} (hc : condition)
    (h : after = none) : UsedUpIff condition before after :=
  ⟨fun _ => h, fun hnot => absurd hc hnot⟩

theorem UsedUpIff.of_failed {condition : Prop} {before after : Option DebugMode}
    (hc : ¬ condition) (h : after = before) : UsedUpIff condition before after :=
  ⟨fun hheld => absurd hheld hc, fun _ => h⟩

omit [Connection σ] in
/-- After a guarded action the mode is used up if that action returned, and in force otherwise. -/
theorem usedUpIff_guarded {α : Type} {action : Action (Builder σ) α}
    {next : α → Action (Builder σ) ExecutionResult} (kind : QueryKind) (mode : DebugMode)
    (ha : Keeps Eq standing action) (hn : ∀ given s, ((next given).after s).debugOnce = none) :
    UsedUpIff (∃ given, action.outcome builder = .ok given) builder.debugOnce
      ((guarded kind mode sql placeholders action >>= next).after builder).debugOnce := by
  cases hgiven : action.outcome builder with
  | ok given =>
    refine .of_held ⟨given, rfl⟩ ?_
    rw [Action.after_bind_ok (outcome_guarded_of_ok kind mode _ _ hgiven)]
    exact hn given _
  | error fault =>
    obtain ⟨raised, hr⟩ :
        ∃ raised, (guarded kind mode sql placeholders action).outcome builder = .error raised :=
      outcome_guarded_of_error kind mode _ _ hgiven
    refine .of_failed (fun ⟨_, hok⟩ => by cases hok) ?_
    rw [Action.after_bind_error hr]
    exact (congrArg Standing.debugOnce (standing_detached.guarded_leaves ha builder)).symm

omit [Connection σ] in
theorem usedUpIff_captureOnly {mode : DebugMode} (hm : mode.enabled = true) (kind : QueryKind) :
    UsedUpIff ((∃ shown, Interpolation.interpolate sql placeholders = .ok shown) ∧
        Loggable mode placeholders none) builder.debugOnce
      ((captureOnly kind mode sql placeholders).after builder).debugOnce := by
  unfold captureOnly
  have hleft {fault : Fault} {entry : DebugEntry} {next : Unit → Action (Builder σ) ExecutionResult}
      (hf : (capture mode sql placeholders entry).outcome builder = .error fault) :
      ((capture mode sql placeholders entry >>= next).after builder).debugOnce =
        builder.debugOnce := by
    rw [Action.after_bind_error hf]
    exact (congrArg Standing.debugOnce
      ((capture_silent mode sql placeholders _).leavesStanding builder)).symm
  cases hs : Interpolation.interpolate sql placeholders with
  | ok shown =>
    by_cases hl : Loggable mode placeholders none
    · refine .of_held ⟨⟨shown, rfl⟩, hl⟩ ?_
      rw [Action.after_bind_ok (capture_returns hs hl _)]
      rfl
    · exact .of_failed (fun hboth => hl hboth.2) (hleft (capture_of_not_loggable hs hl _))
  | error fault =>
    exact .of_failed (fun hboth => by cases hboth.1.choose_spec) (hleft (capture_refuses hs hm _ _))

omit [Connection σ] in
/-- Remembering a statement uses the mode up, and what follows does not bring it back. -/
theorem debugOnce_of_remembered {α : Type} (statement : PreparedStatement) (last : LastRun)
    {rest : Action (Builder σ) α} (hrest : Silent rest) (s : Builder σ) :
    ((do remember statement last; rest : Action (Builder σ) α).after s).debugOnce = none := by
  rw [Action.after_bind_ok rfl]
  exact (congrArg Standing.debugOnce
    (hrest.leavesStanding ((remember statement last).after s))).symm

/-- An execution uses the mode for one execution up exactly if it completes. -/
theorem usedUpIff_execute (builder : Builder σ) :
    UsedUpIff builder.Completes builder.debugOnce (execute.after builder).debugOnce := by
  cases h : builder.rendered with
  | error fault =>
    refine .of_failed ?_ ?_
    · rintro ⟨_, _, h', -⟩
      cases h.symm.trans h'
    · rw [Action.after, execute_of_refused h]
  | ok statement =>
    obtain ⟨sql, placeholders⟩ := statement
    rw [completes_of_rendered h]
    unfold Passes
    cases hread : isRead (Connection.parser σ) builder.descriptor with
    | true =>
      rw [if_pos rfl, Action.after, execute_of_read hread, executeQuery_of_sent h, ← Action.after,
        ← outcome_onClient]
      exact usedUpIff_guarded _ _ (standing_detached.onClient_leaves _) fun _ =>
        debugOnce_of_remembered _ _ ((capture_silent _ _ _ _).bind fun _ => Keeps.pure _)
    | false =>
      rw [if_neg Bool.false_ne_true, Action.after, execute_of_write hread]
      cases hh : builder.holdsBack sql with
      | true =>
        rw [if_pos rfl, executeStatement_of_held h hh, ← Action.after]
        have hm : builder.debugMode.enabled = true := ((Bool.and_eq_true _ _).mp hh).1
        exact usedUpIff_captureOnly hm _
      | false =>
        rw [if_neg Bool.false_ne_true, executeStatement_of_sent h hh, ← Action.after]
        exact usedUpIff_guarded _ _ (standing_detached.scope_leaves _ _ _ _ _)
          fun _ => debugOnce_of_remembered _ _ ((capture_silent _ _ _ _).bind fun _ => Keeps.pure _)

/-! ## One execution -/

/-- From here on, whatever is done but setting a mode for one execution, the default is in force. -/
def DefaultFromHere (builder : Builder σ) : Prop :=
  ∀ later : List (Operation σ), (∀ operation ∈ later, operation.SetsNoMode) →
    (builder.performed later).debugMode = (builder.performed later).debugDefault

theorem defaultFromHere_iff :
    builder.DefaultFromHere ↔
      ∀ mode, builder.debugOnce = some mode → mode.enabled = false := by
  constructor
  · intro h mode ho
    by_contra hm
    -- with the default off, what is in force can only be the mode for one execution
    have hoff := h [.continued (.setDebug (.bool false))] fun operation hmem => by
      rw [List.mem_singleton.mp hmem]
      trivial
    have hset : (builder.performed [.continued (.setDebug (.bool false))]).debugOnce = some mode :=
      ho
    rw [debugMode_of_set hset, if_pos ((Bool.not_eq_false _).mp hm)] at hoff
    rw [hoff] at hm
    exact hm rfl
  · intro h later hlater
    have hused : UsedUp builder.debugOnce (builder.performed later).debugOnce :=
      usedUp_performed hlater
    rcases hused with hsame | hnone
    · cases ho : builder.debugOnce with
      | none => exact debugMode_of_none (hsame.trans ho)
      | some mode =>
        rw [debugMode_of_set (hsame.trans ho), h mode ho]
        exact if_neg Bool.false_ne_true
    · exact debugMode_of_none hnone

/-- A mode that was set for one execution, in force for as long as the statement is only filled in,
is in force for the next execution; and for no later one exactly if that execution completes, or if
the mode captures nothing. -/
theorem mode_covers_one_execution_iff (builder : Builder σ) {value : Value} {mode : DebugMode}
    (h : DebugMode.ofValue value = .ok mode) {setters : List (Operation σ)}
    (hs : ∀ operation ∈ setters, operation.Waits) :
    let ready := ((setDebugOnce value).after builder).performed setters
    ready.debugMode = (if mode.enabled then mode else ready.debugDefault) ∧
      ((execute.after ready).DefaultFromHere ↔ (mode.enabled = true → ready.Completes)) := by
  intro ready
  have hset : ready.debugOnce = some mode := by
    rw [debugOnce_performed hs, setDebugOnce_of_ofValue h]
  obtain ⟨hused, hkept⟩ := usedUpIff_execute ready
  refine ⟨debugMode_of_set hset, defaultFromHere_iff.trans ⟨fun hoff hm => ?_, fun hc m hm => ?_⟩⟩
  · by_contra hnot
    exact absurd hm (by rw [hoff mode ((hkept hnot).trans hset)]; exact Bool.false_ne_true)
  · cases hmode : mode.enabled with
    | true => cases (hused (hc hmode)).symm.trans hm
    | false =>
      rcases execute_fading ready with hf | hf
      · cases (congrArg Standing.debugOnce hf).symm.trans hm |>.symm.trans hset
        exact hmode
      · cases (congrArg Standing.debugOnce hf).symm.trans hm

end SqlToolkit.Builder
