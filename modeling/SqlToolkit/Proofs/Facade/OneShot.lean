import SqlToolkit.Connection.Scripted
import SqlToolkit.Proofs.Builder.OneShot
import SqlToolkit.Proofs.Facade.Call
import SqlToolkit.Proofs.Transaction.Write

/-!
# The mode for one call

A mode that the facade keeps for one call is taken by the first call that chooses its debug mode. A
call chooses once it has composed its statement; one that is refused before that, and a search for a
greatest value, leave the mode to the call after them.
-/

namespace SqlToolkit

open SqlToolkit.Action (Keeps)

variable {σ α : Type}

namespace Facade

open Builder (UsedUp UsedUpIff)

/-! ## Choosing a mode -/

/-- The mode of a call that takes one and brings none along. -/
def debugMode (facade : Facade σ) : DebugMode :=
  match facade.pendingDebug with
  | some mode => if mode.enabled then mode else facade.builder.debugDefault
  | none => facade.builder.debugDefault

def Request.BringsNone (request : Request σ) : Prop :=
  ∀ debug, request.debug = some debug → DebugMode.ofValue debug = .ok .off

/-- The request gets as far as choosing its debug mode. -/
def Request.Chooses (request : Request σ) (facade : Facade σ) : Prop :=
  request.debug.isSome = true ∧ request.compose.outcome facade.builder = .ok ()

theorem setDebugOnce_of_ofValue {value : Value} {mode : DebugMode}
    (h : DebugMode.ofValue value = .ok mode) (facade : Facade σ) :
    (setDebugOnce value).after facade = { facade with pendingDebug := some mode } := by
  unfold setDebugOnce
  rw [h]
  rfl

theorem after_onBuilder (action : Action (Builder σ) α) (facade : Facade σ) :
    (onBuilder action).after facade = { facade with builder := action.after facade.builder } :=
  Action.after_on builderPart action facade

theorem outcome_onBuilder (action : Action (Builder σ) α) (facade : Facade σ) :
    (onBuilder action).outcome facade = action.outcome facade.builder :=
  Action.outcome_on builderPart action facade

theorem after_takeDebug (debug : Value) (facade : Facade σ) :
    (takeDebug debug).after facade = { facade with pendingDebug := none } := by
  unfold takeDebug
  rw [Action.after_bind_ok (Action.outcome_get facade), Action.after_get,
    Action.after_bind_ok (Action.outcome_modify _ _), Action.after_modify]
  cases facade.pendingDebug with
  | none => rfl
  | some mode =>
    dsimp only
    rw [Action.after_bind, Action.ofAttempt_after]
    split
    · rfl
    · rfl

/-- A call that brings no mode along takes the one that is kept for it, or else its own. -/
theorem takeDebug_of_off {debug : Value} (h : DebugMode.ofValue debug = .ok .off)
    (facade : Facade σ) :
    (takeDebug debug).outcome facade =
      .ok ((facade.pendingDebug.map Value.debugMode).getD debug) := by
  unfold takeDebug
  rw [Action.outcome_bind_ok (Action.outcome_get facade), Action.after_get,
    Action.outcome_bind_ok (Action.outcome_modify _ _)]
  cases facade.pendingDebug with
  | none => rfl
  | some mode =>
    dsimp only
    rw [h]
    rfl

section Prepare

variable {request : Request σ} {facade : Facade σ} {debug : Value}

/-- Preparing a request that chooses its mode goes on from the composed statement. -/
theorem prepare_of_composed (hd : request.debug = some debug)
    (hc : request.compose.outcome facade.builder = .ok ()) :
    request.prepare facade = (do
      let mode ← takeDebug debug
      onBuilder (Builder.setDebugOnce mode) : Action (Facade σ) Unit)
        { facade with builder := request.compose.after facade.builder } := by
  unfold Request.prepare prepare
  rw [hd, ← after_onBuilder]
  exact Action.bind_of_ok ((outcome_onBuilder _ _).trans hc)

theorem onBuilder_leavesPending (action : Action (Builder σ) α) :
    Keeps Eq pendingDebug (onBuilder action) :=
  fun facade => by rw [after_onBuilder]

/-- A mode that is kept for a call is used up exactly if the call chooses its mode. -/
theorem usedUpIff_prepare (request : Request σ) (facade : Facade σ) :
    UsedUpIff (request.Chooses facade) facade.pendingDebug
      (request.prepare.after facade).pendingDebug := by
  cases hd : request.debug with
  | none =>
    refine .of_failed (fun hchooses => ?_) ?_
    · rw [Request.Chooses, hd] at hchooses
      exact Bool.false_ne_true hchooses.1
    · unfold Request.prepare
      rw [hd]
      exact (onBuilder_leavesPending request.compose facade).symm
  | some debug =>
    cases hc : request.compose.outcome facade.builder with
    | ok _ =>
      refine .of_held ⟨by rw [hd]; rfl, hc⟩ ?_
      rw [Action.after, prepare_of_composed hd hc, ← Action.after]
      refine Eq.trans (Action.view_after_bind pendingDebug
        (fun mode => onBuilder_leavesPending _) _) ?_
      rw [after_takeDebug]
    | error fault =>
      refine .of_failed (fun hchooses => ?_) ?_
      · cases hc.symm.trans hchooses.2
      · unfold Request.prepare prepare
        rw [hd, Action.after_bind_error ((outcome_onBuilder _ _).trans hc), after_onBuilder]

theorem modes_of_compose (request : Request σ) (builder : Builder σ) :
    (request.compose.after builder).debugDefault = builder.debugDefault ∧
      (request.compose.after builder).debugOnce = none :=
  Prod.mk.inj (request.starting.restarts builder)

/-- A request that brings no mode along and is prepared is executed under the mode kept for it, if
it takes one at all, and under the default otherwise. -/
theorem debugMode_of_prepare (hn : request.BringsNone)
    (h : request.prepare.outcome facade = .ok ()) :
    (request.prepare.after facade).builder.debugMode =
      if request.debug.isSome then facade.debugMode else facade.builder.debugDefault := by
  obtain ⟨hdefault, honce⟩ := modes_of_compose request facade.builder
  cases hd : request.debug with
  | none =>
    unfold Request.prepare
    rw [hd, after_onBuilder]
    exact (Builder.debugMode_of_none honce).trans hdefault
  | some debug =>
    have hoff := hn debug hd
    have hc : request.compose.outcome facade.builder = .ok () := by
      unfold Request.prepare prepare at h
      rw [hd] at h
      obtain ⟨_, hc, -⟩ := Action.of_outcome_bind_ok h
      exact (outcome_onBuilder _ _).symm.trans hc
    rw [Action.after, prepare_of_composed hd hc, ← Action.after,
      Action.after_bind_ok (takeDebug_of_off hoff _), after_takeDebug, after_onBuilder]
    dsimp only
    unfold debugMode
    cases facade.pendingDebug with
    | none =>
      show ((Builder.setDebugOnce debug).after _).debugMode = _
      rw [Builder.setDebugOnce_of_ofValue hoff]
      exact hdefault
    | some mode =>
      have hmode : DebugMode.ofValue (.debugMode mode) = .ok mode := rfl
      show ((Builder.setDebugOnce (.debugMode mode)).after _).debugMode = _
      rw [Builder.setDebugOnce_of_ofValue hmode, Builder.debugMode_of_set rfl]
      exact congrArg (fun m => if mode.enabled then mode else m) hdefault

/-- A request that brings no mode along is prepared as soon as it is composed. -/
theorem prepare_returns (hn : request.BringsNone)
    (hc : request.compose.outcome facade.builder = .ok ()) :
    request.prepare.outcome facade = .ok () := by
  cases hd : request.debug with
  | none =>
    unfold Request.prepare
    rw [hd]
    exact (outcome_onBuilder _ _).trans hc
  | some debug =>
    have hoff := hn debug hd
    rw [Action.outcome, prepare_of_composed hd hc, ← Action.outcome,
      Action.outcome_bind_ok (takeDebug_of_off hoff _), outcome_onBuilder]
    dsimp only
    cases facade.pendingDebug with
    | none =>
      show (Builder.setDebugOnce debug).outcome _ = _
      unfold Builder.setDebugOnce
      rw [hoff]
      rfl
    | some mode => rfl

end Prepare

/-! ## Calls -/

theorem Call.finish_leavesPending (call : Call α) (result : ExecutionResult) :
    Keeps Eq pendingDebug (call.finish result : Action (Facade σ) α) :=
  finish_leaves (fun _ => onBuilder_leavesPending _) (fun _ => onBuilder_leavesPending _) call
    result

/-- The call accepts its arguments and gets as far as choosing its debug mode. -/
def Call.Chooses (call : Call α) (facade : Facade σ) : Prop :=
  ∃ request, call.request facade.builder.dialect = .ok request ∧ request.Chooses facade

def Call.BringsNone (σ : Type) (call : Call α) : Prop :=
  ∀ dialect, ∀ request : Request σ, call.request dialect = .ok request → request.BringsNone

variable [Connection σ]

/-- However a call ends, it uses up the mode kept for it exactly if it chooses its mode. -/
theorem Call.usedUpIff_run (call : Call α) (facade : Facade σ) :
    UsedUpIff (call.Chooses facade) facade.pendingDebug
      (call.run.after facade).pendingDebug := by
  cases h : call.request (σ := σ) facade.builder.dialect with
  | error fault =>
    refine .of_failed ?_ ?_
    · rintro ⟨request, hr, -⟩
      cases h.symm.trans hr
    · rw [Action.after, run_of_refused h]
  | ok request =>
    have hprepared : (call.run.after facade).pendingDebug =
        (request.prepare.after facade).pendingDebug := by
      rw [Action.after, run_of_request h, ← Action.after]
      exact (Action.view_after_bind pendingDebug call.finish_leavesPending facade).trans
        (Action.view_after_bind pendingDebug (fun _ => onBuilder_leavesPending _) facade)
    obtain ⟨hused, hkept⟩ := usedUpIff_prepare request facade
    rw [hprepared]
    constructor
    · rintro ⟨other, hr, hc⟩
      cases h.symm.trans hr
      exact hused hc
    · exact fun hnot => hkept fun hc => hnot ⟨request, h, hc⟩

/-- What may be done in a session without setting a mode for one call: calls, anything at all on
the builder, and what has to do with the cache of column names. -/
inductive Step (σ : Type) where
  | make {α : Type} (call : Call α)
  | onBuilder (action : Action (Builder σ) Unit)
  | columnNames (table : String)
  | forgetColumns (table : Option String)
  | advance (span : Int)

def Step.run : Step σ → Action (Facade σ) Unit
  | .make call => do let _ ← call.run
  | .onBuilder action => Facade.onBuilder action
  | .columnNames table => do let _ ← Facade.columnNames table
  | .forgetColumns table => Facade.forgetColumns table
  | .advance span => Facade.advance span

def stepped (facade : Facade σ) (steps : List (Step σ)) : Facade σ :=
  steps.foldl (fun facade step => step.run.after facade) facade

theorem Call.run_usedUp (call : Call α) :
    Keeps UsedUp pendingDebug (call.run : Action (Facade σ) α) := by
  intro facade
  obtain ⟨hused, hkept⟩ := call.usedUpIff_run facade
  by_cases hc : call.Chooses facade
  · exact .inr (hused hc)
  · exact .inl (hkept hc)

/-- No step brings a mode for one call back. -/
theorem Step.run_usedUp (step : Step σ) : Keeps UsedUp pendingDebug step.run := by
  cases step with
  | make call => exact call.run_usedUp.bind fun _ => Keeps.pure _
  | onBuilder action => exact Keeps.of_eq (onBuilder_leavesPending action)
  | columnNames table =>
    have hcall := (Call.columns table .assoc (.bool false)).run_usedUp (σ := σ)
    exact (columnNames_keeps (fun _ _ => rfl) table hcall).bind fun _ => Keeps.pure _
  | forgetColumns | advance => exact Keeps.modify fun _ => rfl

theorem usedUp_stepped (facade : Facade σ) (steps : List (Step σ)) :
    UsedUp facade.pendingDebug (facade.stepped steps).pendingDebug := by
  induction steps generalizing facade with
  | nil => exact refl _
  | cons step rest ih => exact IsTrans.trans _ _ _ (step.run_usedUp facade) (ih _)

end Facade

/-! ## Writes under the default mode -/

namespace Builder

variable [Connection σ]

/-- The statement is a write that gets a transaction of its own and that the connection accepts. -/
structure AcceptedWrite (ready : Builder σ) (spelled : String) (values : Option Arguments) :
    Prop where
  write : isRead (Connection.parser σ) ready.descriptor = false
  owned : ∃ sql placeholders,
    ready.rendered = .ok (sql, placeholders) ∧ ready.ownsTransaction sql = true
  sent : ready.request = .ok (spelled, values)
  accepted : ∃ rows, (Connection.execute spelled values ready.client.connection).1 = .ok rows

/-- Without a debug mode an accepted write is committed. -/
theorem AcceptedWrite.calls {ready : Builder σ} {spelled : String} {values : Option Arguments}
    (h : ready.AcceptedWrite spelled values) (hoff : ready.debugMode = .off) :
    (execute.after ready).client.calls =
      ready.client.calls ++ [.execute spelled values, .commit] := by
  obtain ⟨sql, placeholders, hr, ho⟩ := h.owned
  obtain ⟨rows, hrows⟩ := h.accepted
  obtain ⟨made, hcalls, hown⟩ := executeStatement_ownWrite hr ho
  rw [after_execute_of_write h.write, hcalls]
  generalize executeStatement.outcome ready = given at hown
  cases hown with
  | unbound hq => cases h.sent.symm.trans hq
  | rejected hq hrejected =>
    cases h.sent.symm.trans hq
    cases hrows.symm.trans hrejected
  | undone hq _ hd =>
    rw [hoff] at hd
    cases hd
  | committed hq | unsettled hq => cases h.sent.symm.trans hq; rfl

end Builder

namespace Facade

variable [Connection σ]

/-! ## One call -/

/-- If the call gets its request prepared, it executes what was composed under the mode. -/
def Call.ExecutesUnder (call : Call α) (mode : DebugMode) (facade : Facade σ) : Prop :=
  ∀ request, call.request facade.builder.dialect = .ok request →
    request.prepare.outcome facade = .ok () →
      (request.prepare.after facade).builder.debugMode = mode

/-- If the call composes a write with a transaction of its own that the connection accepts, the
write is committed. -/
def Call.Commits (call : Call α) (facade : Facade σ) : Prop :=
  ∀ request, call.request facade.builder.dialect = .ok request →
    request.prepare.outcome facade = .ok () →
      ∀ spelled values, (request.prepare.after facade).builder.AcceptedWrite spelled values →
        (call.run.after facade).client.calls =
          facade.client.calls ++ [.execute spelled values, .commit]

theorem Call.commits_of_off {call : Call α} {facade : Facade σ}
    (h : call.ExecutesUnder .off facade) : call.Commits facade := by
  intro request hrequest hprepared spelled values hwrite
  rw [client_run_of_prepared hrequest hprepared,
    hwrite.calls (h request hrequest hprepared)]
  exact congrArg (fun client => client.calls ++ _) (request_leavesClient request facade).symm

/-- From here on, whatever is done but setting a mode for one call, a call that brings no mode along
executes under the default, and commits its writes if that is off. -/
def DefaultFromHere (facade : Facade σ) : Prop :=
  ∀ (steps : List (Step σ)) {β : Type} (call : Call β), call.BringsNone σ →
    let later := facade.stepped steps
    call.ExecutesUnder later.builder.debugDefault later ∧
      (later.builder.debugDefault = .off → call.Commits later)

theorem defaultFromHere_iff {facade : Facade σ} :
    facade.DefaultFromHere ↔
      ∀ mode, facade.pendingDebug = some mode → mode.enabled = false := by
  constructor
  · intro h mode hp
    by_contra hm
    -- with the default off, a call that reads the catalog would be executed under the mode kept
    let later := facade.stepped [.onBuilder (Builder.setDebug (.bool false))]
    let request : Request σ :=
      rawRequest (.text later.builder.dialect.tablesSql) .null (.bool false)
    have hnone : request.BringsNone := fun debug hd => by cases hd; rfl
    have hcall : Call.BringsNone σ (.tables (.bool false)) := by
      intro dialect other ho
      cases ho
      exact fun debug hd => by cases hd; rfl
    have hprepared : request.prepare.outcome later = .ok () := prepare_returns hnone rfl
    have hmode := (h _ (.tables (.bool false)) hcall).1 request rfl hprepared
    rw [debugMode_of_prepare hnone hprepared] at hmode
    have hkept : later.pendingDebug = some mode := hp
    have hforce : later.debugMode = mode := by
      unfold debugMode
      rw [hkept]
      exact if_pos ((Bool.not_eq_false _).mp hm)
    have hoff : mode = .off := hforce.symm.trans hmode
    rw [hoff] at hm
    exact hm rfl
  · intro h steps β call hnone
    have hexecutes : call.ExecutesUnder (facade.stepped steps).builder.debugDefault
        (facade.stepped steps) := by
      intro request hrequest hprepared
      rw [debugMode_of_prepare (hnone _ request hrequest) hprepared]
      split
      · unfold debugMode
        rcases usedUp_stepped facade steps with hsame | hgone
        · rw [hsame]
          split
          · next mode hp => rw [h mode hp]; rfl
          · rfl
        · rw [hgone]
      · rfl
    exact ⟨hexecutes, fun hoff => Call.commits_of_off (hoff ▸ hexecutes)⟩

/-- **A mode set for one execution or for one call covers exactly one, unless it is left over.** On
the builder the mode is in force for the next execution of the statement, and for none after it
exactly if that execution completes. On the facade it is in force for the next call, if that brings
no mode along, and for none after it exactly if that call chooses its mode. A mode that captures
nothing cannot be left over. -/
theorem one_shot_mode_covers_one_iff {value : Value} {mode : DebugMode}
    (h : DebugMode.ofValue value = .ok mode) (builder : Builder σ)
    {setters : List (Builder.Operation σ)} (hs : ∀ operation ∈ setters, operation.Waits)
    (facade : Facade σ) (call : Call α) :
    (let ready := ((Builder.setDebugOnce value).after builder).performed setters;
      (ready.debugMode = (if mode.enabled then mode else ready.debugDefault) ∧
          (Builder.execute.after ready).DefaultFromHere) ↔
        (mode.enabled = true → ready.Completes)) ∧
    (let armed := (setDebugOnce value).after facade;
      ((call.BringsNone σ → call.ExecutesUnder
            (if mode.enabled then mode else armed.builder.debugDefault) armed) ∧
          (call.run.after armed).DefaultFromHere) ↔
        (mode.enabled = true → call.Chooses armed)) := by
  obtain ⟨hforce, hiff⟩ := Builder.mode_covers_one_execution_iff builder h hs
  refine ⟨(and_iff_right hforce).trans hiff, ?_⟩
  intro armed
  have hkept : armed.pendingDebug = some mode := by
    show ((setDebugOnce value).after facade).pendingDebug = some mode
    rw [setDebugOnce_of_ofValue h]
  obtain ⟨hused, hleft⟩ := call.usedUpIff_run armed
  constructor
  · rintro ⟨-, hdefault⟩ hm
    by_contra hnot
    have hoff := defaultFromHere_iff.mp hdefault mode ((hleft hnot).trans hkept)
    exact Bool.false_ne_true (hoff.symm.trans hm)
  · intro hchooses
    constructor
    · intro hnone request hrequest hprepared
      rw [debugMode_of_prepare (hnone _ request hrequest) hprepared]
      unfold debugMode
      rw [hkept]
      dsimp only
      by_cases hm : mode.enabled = true
      · obtain ⟨other, hother, htakes, -⟩ := hchooses hm
        cases hrequest.symm.trans hother
        rw [if_pos htakes]
      · rw [if_neg hm, ite_self]
    · rw [defaultFromHere_iff]
      intro left hleftover
      by_cases hc : call.Chooses armed
      · cases (hused hc).symm.trans hleftover
      · cases ((hleft hc).trans hkept).symm.trans hleftover
        exact (Bool.not_eq_true _).mp fun hm => hc (hchooses hm)

end Facade

namespace Facade

def onScript : Facade Scripted := { builder := Builder.onScript }

def deletingBuilder : Builder Scripted :=
  (Builder.delete (.text "t") .null).after Builder.onScript

theorem one_shot_mode_covers_one_iff_silentDelete :
    DebugMode.ofValue (.text "silent") = .ok .silent ∧
      (∀ operation ∈ [Builder.Operation.filter (σ := Scripted) .null], operation.Waits) ∧
      (let ready := ((Builder.setDebugOnce (.text "silent")).after deletingBuilder).performed
          [.filter .null];
        ready.debugMode = .silent ∧ (Builder.execute.after ready).DefaultFromHere) ∧
      let call := Call.delete (.text "t") .null (.bool false)
      let armed := (setDebugOnce (.text "silent")).after onScript
      (call.run.after armed).client.calls = [.execute "DELETE FROM t" none, .rollback] ∧
        (call.run.after armed).DefaultFromHere := by
  have hmode : DebugMode.ofValue (.text "silent") = .ok .silent := by rfl
  have hwaits : ∀ operation ∈ [Builder.Operation.filter (σ := Scripted) .null],
      operation.Waits := by
    intro operation hmem
    rw [List.mem_singleton.mp hmem]
    trivial
  obtain ⟨hbuilder, hfacade⟩ := one_shot_mode_covers_one_iff hmode deletingBuilder hwaits onScript
    (.delete (.text "t") .null (.bool false))
  refine ⟨hmode, hwaits, hbuilder.mpr fun _ => ?_, rfl, (hfacade.mpr fun _ => ?_).2⟩
  · exact ⟨"DELETE FROM t", [], rfl, _, rfl⟩
  · exact ⟨_, rfl, rfl, rfl⟩

/-- An INSERT that is refused while it is composed leaves the mode to the DELETE after it, which is
rolled back. -/
theorem refused_insert_leaves_mode :
    let armed := (setDebugOnce (.text "silent")).after onScript
    let insertion := (Call.insert (.text "t") (.map []) (.bool false)).run
    let deletion := (Call.delete (.text "t") .null (.bool false)).run
    armed.builder.debugDefault = .off ∧
      insertion.outcome armed = .error (.nothingToInsert "t") ∧
      (deletion.after (insertion.after armed)).client.calls =
        [.execute "DELETE FROM t" none, .rollback] :=
  ⟨rfl, rfl, rfl⟩

end Facade

end SqlToolkit
