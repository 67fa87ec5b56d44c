import Mathlib.Data.List.TakeWhile
import SqlToolkit.Proofs.Builder.Failure
import SqlToolkit.Proofs.Builder.Statements

/-!
# What is captured of what is sent

A debug mode captures statements. What an action sent is read off the calls that it made, each
statement with the calls that settled it, and *tallies* with the entries that were captured as
executed if each of them shows the statement in its place. An execution tallies, whether its
statement fails or not, as long as the statement can be shown with its values. Counting rows does
not: a counting statement that the connection rejects goes uncaptured, and so does a statement that
is run again to count its rows.
-/

namespace SqlToolkit

open SqlToolkit.Action (Keeps)

/-! ## Statements and entries -/

/-- A statement that was sent in a driver's form to a connection as it was then, and the calls that
were made before the next statement. -/
structure Dispatch (σ : Type) where
  style : Paramstyle
  connection : σ
  sql : String
  values : Option Arguments
  settling : List Call

variable {σ : Type} [Connection σ]

/-- The connection refused the statement or a call that was to settle it. -/
def Dispatch.Failed (statement : Dispatch σ) : Prop :=
  Connection.RefusesOne statement.connection
    (.execute statement.sql statement.values :: statement.settling)

/-- The entry has the text of a statement with its values, that statement is what was sent in the
driver's form, and there is an error in the entry if and only if the statement failed. -/
structure DebugEntry.Shows (statement : Dispatch σ) (entry : DebugEntry) : Prop where
  text : ∃ sql, Interpolation.interpolate sql entry.placeholders = .ok entry.sql ∧
    PreparedStatement.request (Connection.parser σ) statement.style sql entry.placeholders =
      .ok (statement.sql, statement.values)
  error : entry.error.isSome = true ↔ statement.Failed

namespace Connection

def dispatches (style : Paramstyle) (connection : σ) : List Call → List (Dispatch σ)
  | [] => []
  | .execute sql values :: rest =>
    ⟨style, connection, sql, values, rest.takeWhile fun call => !call.sends⟩ ::
      dispatches style (answered connection (.execute sql values)) rest
  | call :: rest => dispatches style (answered connection call) rest

theorem dispatches_eq_nil {style : Paramstyle} {connection : σ} {calls : List Call}
    (h : ∀ call ∈ calls, call.sends = false) : dispatches style connection calls = [] := by
  induction calls generalizing connection with
  | nil => rfl
  | cons call rest ih =>
    have hrest (next : σ) : dispatches style next rest = [] :=
      ih fun later hlater => h later (List.mem_cons_of_mem _ hlater)
    cases call with
    | execute sql values => cases h _ List.mem_cons_self
    | commit | rollback | close => exact hrest _

theorem dispatches_singleton {style : Paramstyle} {connection : σ} {sql : String}
    {values : Option Arguments} {settling : List Call}
    (h : ∀ call ∈ settling, call.sends = false) :
    dispatches style connection (.execute sql values :: settling) =
      [⟨style, connection, sql, values, settling⟩] := by
  rw [dispatches, dispatches_eq_nil h, List.takeWhile_eq_self_iff.mpr]
  intro call hcall
  rw [h call hcall]
  rfl

theorem length_dispatches (style : Paramstyle) (connection : σ) (calls : List Call) :
    (dispatches style connection calls).length = calls.countP Call.sends := by
  induction calls generalizing connection with
  | nil => rfl
  | cons call rest ih =>
    cases call with
    | execute sql values =>
      rw [dispatches, List.length_cons, ih, List.countP_cons_of_pos rfl]
    | commit | rollback | close =>
      rw [List.countP_cons_of_neg (by exact Bool.false_ne_true)]
      exact ih _

end Connection

open Connection (RefusesOne dispatches)

namespace Builder

variable {builder after : Builder σ} {sql : String} {placeholders : Value.Entries} {α : Type}

/-! ## What is captured -/

/-- What becomes of an entry that is captured: one with the text of the statement, if the statement
can be shown with its values. -/
def shownAs (sql : String) (placeholders : Value.Entries) (entry : DebugEntry) :
    List DebugEntry :=
  match Interpolation.interpolate sql placeholders with
  | .ok shown => [{ entry with sql := shown, placeholders }]
  | .error _ => []

/-- Whether an entry is of an executed statement does not depend on its text. -/
theorem filter_shownAs (sql : String) (placeholders : Value.Entries) (entry : DebugEntry) :
    (shownAs sql placeholders entry).filter (·.executed) =
      if entry.executed then shownAs sql placeholders entry else [] := by
  unfold shownAs
  cases Interpolation.interpolate sql placeholders with
  | error fault => exact (ite_self _).symm
  | ok shown => cases entry.executed <;> simp

omit [Connection σ] in
theorem entries_capture {mode : DebugMode} (h : mode.enabled = true) (sql : String)
    (placeholders : Value.Entries) (entry : DebugEntry) (builder : Builder σ) :
    ((capture mode sql placeholders entry).after builder).entries =
      builder.entries ++ shownAs sql placeholders entry := by
  unfold capture shownAs
  rw [if_pos h]
  cases Interpolation.interpolate sql placeholders with
  | error fault => exact (List.append_nil _).symm
  | ok shown =>
    rw [Action.after_bind_ok rfl, Action.after_bind_ok rfl]
    split
    · dsimp only
      split <;> rfl
    · rfl

omit [Connection σ] in
/-- A write that is only captured leaves an entry of a statement that was not executed. -/
theorem entries_captureOnly {mode : DebugMode} (h : mode.enabled = true) (kind : QueryKind)
    (sql : String) (placeholders : Value.Entries) (builder : Builder σ) :
    ((captureOnly kind mode sql placeholders).after builder).entries =
      builder.entries ++
        shownAs sql placeholders { kind, sql, simulated := true, executed := false } := by
  unfold captureOnly
  refine (Action.view_after_bind entries (fun _ => ?_) _).trans (entries_capture h _ _ _ _)
  exact Keeps.bind (Keeps.modify fun _ => rfl) fun _ => Keeps.pure _

omit [Connection σ] in
theorem entries_executionFault {mode : DebugMode} (h : mode.enabled = true) (kind : QueryKind)
    (sql : String) (placeholders : Value.Entries) (reason : String) (builder : Builder σ) :
    ((executionFault kind mode sql placeholders reason).after builder).entries =
      builder.entries ++
        shownAs sql placeholders { kind, sql, elapsed := builder.lap, error := some reason } := by
  unfold executionFault
  cases hs : Interpolation.interpolate sql placeholders with
  | error fault =>
    unfold shownAs
    rw [hs]
    exact (List.append_nil _).symm
  | ok shown =>
    rw [Action.after_bind_ok (Action.outcome_ofAttempt _ _), Action.ofAttempt_after,
      Action.after_bind_ok rfl, Action.after_bind_ok (Action.outcome_get _), Action.after_get]
    refine (Action.view_after_bind entries (fun _ => Keeps.pure _) _).trans ?_
    exact entries_capture h sql placeholders _ _

/-- What a guard captures of an action that captures nothing itself. -/
def caught (builder : Builder σ) (kind : QueryKind) (sql : String) (placeholders : Value.Entries)
    (action : Action (Builder σ) α) : List DebugEntry :=
  match action.outcome builder with
  | .ok _ => []
  | .error fault =>
    if fault.isToolkit then []
    else shownAs sql placeholders
      { kind, sql, elapsed := (action.after builder).lap, error := some fault.message }

omit [Connection σ] in
theorem length_caught_le (builder : Builder σ) (kind : QueryKind) (sql : String)
    (placeholders : Value.Entries) (action : Action (Builder σ) α) :
    (caught builder kind sql placeholders action).length ≤ 1 := by
  unfold caught shownAs
  split
  · exact Nat.zero_le 1
  · split
    · exact Nat.zero_le 1
    · split
      · exact Nat.le_refl 1
      · exact Nat.zero_le 1

omit [Connection σ] in
theorem entries_guarded {mode : DebugMode} (h : mode.enabled = true) (kind : QueryKind)
    (sql : String) (placeholders : Value.Entries) {action : Action (Builder σ) α}
    (hentries : (action.after builder).entries = builder.entries) :
    ((guarded kind mode sql placeholders action).after builder).entries =
      builder.entries ++ caught builder kind sql placeholders action := by
  unfold guarded caught
  rw [Action.after_bind_ok (Action.outcome_attempt _ _), Action.attempt_after, ← hentries]
  cases action.outcome builder with
  | ok result => exact (List.append_nil _).symm
  | error fault =>
    dsimp only
    split
    · exact (List.append_nil _).symm
    · refine (Action.view_after_bind entries (fun raised => Keeps.throw raised) _).trans ?_
      exact entries_executionFault h kind sql placeholders fault.message _

/-! ## Running one statement -/

/-- Done with the builder, the action runs one statement and captures nothing. If the statement can
be sent, the connection is to blame for every failure. -/
structure Runs (builder : Builder σ) (sql : String) (placeholders : Value.Entries)
    (action : Action (Builder σ) α) : Prop where
  entries : (action.after builder).entries = builder.entries
  reports : builder.client.Makes
    (fun connection made =>
      RefusesOne connection made ↔ ∃ message, action.outcome builder = .error (.driver message))
    (action.after builder).client
  sends : ∀ spelled values,
    PreparedStatement.request (Connection.parser σ) builder.client.paramstyle sql placeholders =
      .ok (spelled, values) →
      builder.client.SendsOne spelled values (action.after builder).client ∧
      ∀ fault, action.outcome builder = .error fault → ∃ message, fault = .driver message
  refused : ∀ cause,
    PreparedStatement.request (Connection.parser σ) builder.client.paramstyle sql placeholders =
      .error cause →
      builder.client.SendsNothing (action.after builder).client ∧
      ∃ fault, action.outcome builder = .error fault

omit [Connection σ] in
theorem onClient_leavesEntries (action : Action (Client σ) α) :
    Keeps Eq entries (onClient action : Action (Builder σ) α) :=
  fun builder => by rw [after_onClient]; rfl

theorem runs_onClient (builder : Builder σ) (sql : String) (placeholders : Value.Entries) :
    builder.Runs sql placeholders (onClient (PreparedStatement.run sql placeholders)) := by
  refine ⟨(onClient_leavesEntries _ builder).symm,
    onClient_reports (PreparedStatement.run_reports sql placeholders) builder, ?_, ?_⟩
  · intro spelled values h
    obtain ⟨statement, hs⟩ := PreparedStatement.outcome_run_of_request h
    rw [after_onClient, outcome_onClient, hs]
    refine ⟨?_, fun fault hf => ?_⟩
    · show builder.client.SendsOne _ _ ((PreparedStatement.run sql placeholders).after _)
      rw [PreparedStatement.after_run_of_request h]
      exact Client.run_sendsOne spelled values builder.client
    · cases hr : (Client.run spelled values).outcome builder.client with
      | ok result => rw [hr] at hf; cases hf
      | error cause =>
        rw [hr] at hf
        cases hf
        exact Client.run_failsByRefusal spelled values _ _ hr
  · intro cause h
    have hrun := PreparedStatement.run_of_refused h
    rw [after_onClient, outcome_onClient, Action.outcome, hrun, withClient, Action.after, hrun]
    exact ⟨.nothing rfl rfl (List.forall_mem_nil _), cause, rfl⟩

omit [Connection σ] in
/-- What follows without doing anything or failing makes no difference to a failure. -/
theorem outcome_bind_eq_error_iff {β : Type} {action : Action (Builder σ) α}
    {next : α → Action (Builder σ) β} (hn : ∀ given s, ∃ result, next given s = .ok result s)
    {fault : Fault} :
    (action >>= next).outcome builder = .error fault ↔ action.outcome builder = .error fault := by
  cases hr : action.outcome builder with
  | error cause =>
    rw [Action.outcome_bind_error hr]
    exact ⟨fun hf => congrArg _ (Except.error.inj hf), fun hf => congrArg _ (Except.error.inj hf)⟩
  | ok given =>
    obtain ⟨result, hresult⟩ := hn given (action.after builder)
    rw [Action.outcome_bind_ok hr, Action.outcome, hresult]
    constructor
    · intro hf
      cases hf
    · intro hf
      cases hf

theorem Runs.bind {β : Type} {action : Action (Builder σ) α} {next : α → Action (Builder σ) β}
    (h : builder.Runs sql placeholders action)
    (hn : ∀ given s, ∃ result, next given s = .ok result s) :
    builder.Runs sql placeholders (action >>= next) := by
  have hafter : (action >>= next).after builder = action.after builder := by
    rw [Action.after_bind]
    split
    · next given _ =>
      obtain ⟨result, hresult⟩ := hn given (action.after builder)
      rw [Action.after, hresult]
    · rfl
  obtain ⟨hentries, hreports, hsends, hrefused⟩ := h
  constructor
  · rwa [hafter]
  · simpa only [hafter, outcome_bind_eq_error_iff hn] using hreports
  · simpa only [hafter, outcome_bind_eq_error_iff hn] using hsends
  · simpa only [hafter, outcome_bind_eq_error_iff hn] using hrefused

/-- In a debug mode a write with a transaction of its own is such an action, and is rolled back. -/
theorem runs_guardedWrite (ho : builder.ownsTransaction sql = true)
    (hd : builder.debugMode.enabled = true) :
    builder.Runs sql placeholders (builder.guardedWrite sql placeholders) := by
  have hreports := guardedWrite_reports builder sql placeholders builder
  have hrollback : ∀ call ∈ [Call.rollback], call.sends = false :=
    fun call hcall => List.mem_singleton.mp hcall ▸ rfl
  -- which calls were made is known, and reporting tells what they led to
  have hmakes {made : List Call} {kind : σ → List Call → Prop}
      (hcalls : ((builder.guardedWrite sql placeholders).after builder).client.calls =
        builder.client.calls ++ made) (hkind : ∀ connection, kind connection made) :
      builder.client.Makes kind ((builder.guardedWrite sql placeholders).after builder).client := by
    obtain ⟨made', hcalls', hconnection, -⟩ := hreports
    cases List.append_cancel_left (hcalls.symm.trans hcalls')
    exact ⟨made, hcalls, hconnection, hkind _⟩
  have hleaves : Keeps Eq entries (builder.guardedWrite sql placeholders) :=
    scope_keeps (fun action => onClient_leavesEntries action)
      ((onClient_leavesEntries _).bind fun _ => Keeps.get.bind fun _ => Keeps.pure _)
  refine ⟨(hleaves builder).symm, hreports, fun spelled values h => ?_, fun cause h => ?_⟩
  · cases hr : (Connection.execute spelled values builder.client.connection).1 with
    | error message =>
      obtain ⟨⟨fault, hfault⟩, hcalls⟩ := guardedWrite_of_rejected ho h hr
      refine ⟨hmakes hcalls fun _ => ⟨[.rollback], rfl, hrollback⟩, fun other hother => ?_⟩
      obtain ⟨made, hmade, -, hrefused⟩ := hreports
      cases List.append_cancel_left (hmade.symm.trans hcalls)
      obtain ⟨reason, hreason⟩ := hrefused.mp (.inl ⟨message, hr⟩)
      exact ⟨reason, Except.error.inj (hother.symm.trans hreason)⟩
    | ok rows =>
      obtain ⟨⟨written, houtcome⟩, hcalls⟩ := guardedWrite_of_undone ho h hr hd
      refine ⟨hmakes hcalls fun _ => ⟨[.rollback], rfl, hrollback⟩, fun fault hfault => ?_⟩
      rw [houtcome] at hfault
      cases hback : (Connection.rollback
          (Connection.execute spelled values builder.client.connection).2).1 with
      | ok _ => rw [hback] at hfault; cases hfault
      | error message => rw [hback] at hfault; cases hfault; exact ⟨message, rfl⟩
  · obtain ⟨hfails, hcalls⟩ := guardedWrite_of_refused ho h
    exact ⟨hmakes hcalls fun _ => hrollback, hfails⟩

/-! ## Tallies -/

/-- The statement is sent, although it cannot be shown with its values. -/
def Hides (parser : SqlParser) (style : Paramstyle) (sql : String) (placeholders : Value.Entries) :
    Prop :=
  (PreparedStatement.request parser style sql placeholders).isOk = true ∧
    (Interpolation.interpolate sql placeholders).isOk = false

/-- The statement is shown although it cannot be sent, because that was no fault of the toolkit. -/
def Invents (parser : SqlParser) (style : Paramstyle) (sql : String)
    (placeholders : Value.Entries) (outcome : Attempt α) : Prop :=
  (PreparedStatement.request parser style sql placeholders).isOk = false ∧
    (Interpolation.interpolate sql placeholders).isOk = true ∧
      ∃ fault, outcome = .error fault ∧ fault.isToolkit = false

/-- There is a slip if the statement is sent and cannot be shown, if it is shown without being sent,
or if it returns and successes are not recorded. -/
def Slips (parser : SqlParser) (style : Paramstyle) (sql : String) (placeholders : Value.Entries)
    (outcome : Attempt α) (successes : Bool) : Prop :=
  Hides parser style sql placeholders ∨ Invents parser style sql placeholders outcome ∨
    (successes = false ∧ outcome.isOk = true)

omit [Connection σ] in
/-- A statement whose values are under names and positions can be shown if they can be written. -/
theorem not_hides_of_markers (parser : SqlParser)
    (h : ∀ key ∈ Entries.keys placeholders, key.isMarkerKey = true)
    (hwritable : Interpolation.Writable placeholders) (style : Paramstyle) (sql : String) :
    ¬ Hides parser style sql placeholders := by
  rintro ⟨-, hhidden⟩
  obtain ⟨shown, hshown⟩ := Interpolation.interpolate_returns sql h hwritable
  rw [hshown] at hhidden
  cases hhidden

/-- Running such a statement is no slip where successes are recorded. -/
theorem not_slips_of_markers (h : ∀ key ∈ Entries.keys placeholders, key.isMarkerKey = true)
    (hwritable : Interpolation.Writable placeholders) (sql : String) (client : Client σ) :
    ¬ Slips (Connection.parser σ) client.paramstyle sql placeholders
      ((PreparedStatement.run sql placeholders).outcome client) true := by
  rintro (hhides | ⟨hunsent, -, fault, hfault, houtside⟩ | ⟨hmissed, -⟩)
  · exact not_hides_of_markers _ h hwritable _ sql hhides
  · cases hr : PreparedStatement.request (Connection.parser σ) client.paramstyle
      sql placeholders with
    | ok sending => rw [hr] at hunsent; cases hunsent
    | error cause =>
      rw [Action.outcome, PreparedStatement.run_of_refused hr] at hfault
      cases hfault
      rcases PreparedStatement.request_refusal hr with htoolkit | ⟨-, ⟨key, hmem, hunkeyed⟩, -⟩
      · cases htoolkit.symm.trans houtside
      · cases (Value.isKey_of_isMarkerKey (h key hmem)).symm.trans hunkeyed
  · cases hmissed

/-- What a statement gives does not matter, only whether it fails and how. -/
theorem slips_map {β : Type} {parser : SqlParser} {style : Paramstyle} {outcome : Attempt α}
    {successes : Bool}
    (f : α → β) :
    Slips parser style sql placeholders (outcome.map f) successes ↔
      Slips parser style sql placeholders outcome successes := by
  unfold Slips Invents
  cases outcome with
  | error fault =>
    have hfaults (other : Fault) : (.error fault : Attempt β) = .error other ↔
        (.error fault : Attempt α) = .error other :=
      ⟨fun h => congrArg _ (Except.error.inj h), fun h => congrArg _ (Except.error.inj h)⟩
    simp only [Except.map, hfaults]
    rfl
  | ok given =>
    simp only [Except.map, reduceCtorEq, false_and, exists_false]
    rfl

/-- The entries show the statements, each the one in its place, unless there was a slip. After a
slip they are not even as many. -/
structure Balanced (slip : Prop) (sent : List (Dispatch σ)) (captured : List DebugEntry) :
    Prop where
  shown : ¬ slip → List.Forall₂ DebugEntry.Shows sent captured
  uneven : slip → sent.length ≠ captured.length

/-- The statements sent between two states of a builder balance with the entries captured as
executed. -/
def Tallied (slip : Prop) (before after : Builder σ) : Prop :=
  before.client.Makes
    (fun connection made => Balanced slip (dispatches before.client.paramstyle connection made)
      ((after.entries.drop before.entries.length).filter (·.executed)))
    after.client

theorem Tallied.congr {slip slip' : Prop} {before after : Builder σ} (h : Tallied slip before after)
    (hslip : slip ↔ slip') : Tallied slip' before after := by
  rwa [← propext hslip]

/-- What is captured of a statement that is run: if that failed from outside the entry of a failure,
and if it returned the entry of a success or, unless successes are recorded, nothing. -/
structure Records (sql : String) (placeholders : Value.Entries) (outcome : Attempt α)
    (successes : Bool) (captured : List DebugEntry) : Prop where
  returned : ∀ given, outcome = .ok given → ∃ entry : DebugEntry,
    entry.error = none ∧ captured = if successes then shownAs sql placeholders entry else []
  failed : ∀ fault, outcome = .error fault → ∃ entry : DebugEntry,
    entry.error.isSome = true ∧
      captured = if fault.isToolkit then [] else shownAs sql placeholders entry

variable {successes : Bool}

/-- The entry for a statement that was sent balances it, unless the statement cannot be shown. -/
theorem balanced_of_sent {style : Paramstyle} {spelled : String} {values : Option Arguments}
    {connection : σ} {settling : List Call} {entry : DebugEntry} {outcome : Attempt α}
    (hr : PreparedStatement.request (Connection.parser σ) style sql placeholders =
      .ok (spelled, values))
    (herror : entry.error.isSome = true ↔
      RefusesOne connection (.execute spelled values :: settling))
    (hrecorded : ¬ (successes = false ∧ outcome.isOk = true)) :
    Balanced (Slips (Connection.parser σ) style sql placeholders outcome successes)
      [⟨style, connection, spelled, values, settling⟩] (shownAs sql placeholders entry) := by
  unfold Slips Hides Invents shownAs
  rw [hr]
  cases hshown : Interpolation.interpolate sql placeholders with
  | error fault =>
    exact ⟨fun hslip => (hslip (.inl ⟨rfl, rfl⟩)).elim, fun _ => Nat.one_ne_zero⟩
  | ok shown =>
    refine ⟨fun _ => .cons ⟨⟨sql, hshown, hr⟩, herror⟩ .nil, ?_⟩
    rintro (⟨-, hhidden⟩ | ⟨hunsent, -⟩ | hmissed)
    · cases hhidden
    · cases hunsent
    · exact (hrecorded hmissed).elim

section Tallies

variable {action : Action (Builder σ) α} (h : builder.Runs sql placeholders action)
  (hclient : after.client = (action.after builder).client)
  (hrecords : Records sql placeholders (action.outcome builder) successes
    ((after.entries.drop builder.entries.length).filter (·.executed)))

include h hclient hrecords

theorem Runs.tallied_of_refused {cause : Fault}
    (hr : PreparedStatement.request (Connection.parser σ) builder.client.paramstyle
      sql placeholders = .error cause) :
    Tallied (Slips (Connection.parser σ) builder.client.paramstyle sql placeholders
      (action.outcome builder) successes) builder after := by
  obtain ⟨hnothing, fault, hfault⟩ := h.refused cause hr
  obtain ⟨entry, -, hcaptured⟩ := hrecords.failed fault hfault
  unfold Tallied Slips Hides Invents
  rw [hclient, hcaptured, hr, hfault]
  refine hnothing.mono fun made hmade => ?_
  rw [Connection.dispatches_eq_nil hmade]
  cases ht : fault.isToolkit with
  | true =>
    refine ⟨fun _ => .nil, ?_⟩
    rintro (⟨hsent, -⟩ | ⟨-, -, other, hother, houtside⟩ | ⟨-, hok⟩)
    · cases hsent
    · cases hother
      cases ht.symm.trans houtside
    · cases hok
  | false =>
    unfold shownAs
    cases Interpolation.interpolate sql placeholders with
    | error cause' =>
      refine ⟨fun _ => .nil, ?_⟩
      rintro (⟨hsent, -⟩ | ⟨-, hshown, -⟩ | ⟨-, hok⟩)
      · cases hsent
      · cases hshown
      · cases hok
    | ok shown =>
      exact ⟨fun hslip => (hslip (.inr (.inl ⟨rfl, rfl, fault, rfl, ht⟩))).elim,
        fun _ => Nat.zero_ne_one⟩

theorem Runs.tallied_of_sent {spelled : String} {values : Option Arguments}
    (hr : PreparedStatement.request (Connection.parser σ) builder.client.paramstyle
      sql placeholders =
      .ok (spelled, values)) :
    Tallied (Slips (Connection.parser σ) builder.client.paramstyle sql placeholders
      (action.outcome builder) successes) builder after := by
  obtain ⟨hone, hblame⟩ := h.sends spelled values hr
  unfold Tallied
  rw [hclient]
  refine (hone.and h.reports).mono fun made hmade => ?_
  obtain ⟨⟨settling, rfl, hsettling⟩, hrefused⟩ := hmade
  rw [Connection.dispatches_singleton hsettling]
  cases ho : action.outcome builder with
  | error fault =>
    obtain ⟨message, rfl⟩ := hblame fault ho
    obtain ⟨entry, herror, hcaptured⟩ := hrecords.failed _ ho
    rw [hcaptured]
    exact balanced_of_sent hr (iff_of_true herror (hrefused.mpr ⟨message, ho⟩))
      fun hmissed => nomatch hmissed.2
  | ok given =>
    obtain ⟨entry, hnone, hcaptured⟩ := hrecords.returned given ho
    rw [hcaptured]
    cases hs : successes with
    | true =>
      refine balanced_of_sent hr (iff_of_false ?_ ?_) fun hmissed => nomatch hmissed.1
      · rw [hnone]
        exact Bool.false_ne_true
      · intro hfailed
        obtain ⟨message, hm⟩ := hrefused.mp hfailed
        cases ho.symm.trans hm
    | false =>
      exact ⟨fun hslip => (hslip (.inr (.inr ⟨rfl, rfl⟩))).elim, fun _ => Nat.one_ne_zero⟩

theorem Runs.tallied :
    Tallied (Slips (Connection.parser σ) builder.client.paramstyle sql placeholders
      (action.outcome builder) successes) builder after := by
  cases hr : PreparedStatement.request (Connection.parser σ) builder.client.paramstyle
    sql placeholders with
  | error cause => exact h.tallied_of_refused hclient hrecords hr
  | ok sending => exact h.tallied_of_sent hclient hrecords hr

end Tallies

/-- A guarded run tallies if what follows it captures successes as far as they are recorded. -/
theorem Runs.tallied_guarded {action : Action (Builder σ) α}
    (h : builder.Runs sql placeholders action) {mode : DebugMode} (hm : mode.enabled = true)
    (kind : QueryKind) {β : Type} {next : α → Action (Builder σ) β}
    (hclient : ∀ given, LeavesClient (next given))
    (hnext : ∀ given s, ∃ entry : DebugEntry, entry.executed = true ∧ entry.error = none ∧
      ((next given).after s).entries =
        s.entries ++ if successes then shownAs sql placeholders entry else []) :
    Tallied (Slips (Connection.parser σ) builder.client.paramstyle sql placeholders
      (action.outcome builder) successes) builder
      ((guarded kind mode sql placeholders action >>= next).after builder) := by
  have hcaught := entries_guarded hm kind sql placeholders h.entries
  refine h.tallied ?_ ⟨fun given ho => ?_, fun fault ho => ?_⟩
  · exact (Action.view_after_bind Builder.client hclient builder).trans
      (guarded_client kind mode sql placeholders action builder)
  · rw [Action.after_bind_ok (outcome_guarded_of_ok kind mode sql placeholders ho)]
    obtain ⟨entry, hexecuted, hnone, hentries⟩ := hnext given
      ((guarded kind mode sql placeholders action).after builder)
    refine ⟨entry, hnone, ?_⟩
    rw [hentries, hcaught, caught, ho, List.append_nil, List.drop_left]
    cases successes with
    | true => rw [if_pos rfl, filter_shownAs, hexecuted, if_pos rfl]
    | false => rfl
  · obtain ⟨raised, hraised⟩ := outcome_guarded_of_error kind mode sql placeholders ho
    refine ⟨{ kind, sql, elapsed := (action.after builder).lap, error := some fault.message }, rfl,
      ?_⟩
    rw [Action.after_bind_error hraised, hcaught, caught, ho, List.drop_left]
    dsimp only
    split
    · rfl
    · rw [filter_shownAs, if_pos rfl]

/-! ## Executions -/

/-- What went before makes no difference if it made no call and captured nothing. -/
theorem Tallied.of_start {slip : Prop} {start before : Builder σ} (h : Tallied slip start after)
    (hclient : start.client = before.client) (hentries : start.entries = before.entries) :
    Tallied slip before after := by
  unfold Tallied at h ⊢
  rwa [hclient, hentries] at h

theorem tallied_of_same {before : Builder σ} (hclient : after.client = before.client)
    (hentries : (after.entries.drop before.entries.length).filter (·.executed) = []) :
    Tallied False before after := by
  unfold Tallied
  rw [hclient, hentries]
  exact .nothing rfl rfl ⟨fun _ => .nil, False.elim⟩

theorem tallied_refl (builder : Builder σ) : Tallied False builder builder :=
  tallied_of_same rfl (by rw [List.drop_length]; rfl)

omit [Connection σ] in
theorem entries_rememberRead (hd : builder.debugMode.enabled = true) (sql : String)
    (placeholders : Value.Entries) (statement : PreparedStatement) (s : Builder σ) :
    ((builder.rememberRead sql placeholders statement).after s).entries = s.entries ++
      shownAs sql placeholders
        { kind := builder.descriptor.kind, sql, elapsed := builder.lap } := by
  unfold rememberRead
  rw [Action.after_bind_ok rfl]
  refine (Action.view_after_bind entries (fun _ => Keeps.pure _) _).trans ?_
  exact entries_capture hd _ _ _ _

theorem entries_rememberWrite (hd : builder.debugMode.enabled = true) (sql : String)
    (placeholders : Value.Entries) (statement : PreparedStatement) (insertId : Value)
    (s : Builder σ) :
    ((builder.rememberWrite sql placeholders statement insertId).after s).entries = s.entries ++
      shownAs sql placeholders { kind := builder.descriptor.kind, sql, elapsed := builder.lap
                                 affectedRows := some statement.rowCount
                                 simulated := builder.debugMode.enabled } := by
  unfold rememberWrite
  rw [Action.after_bind_ok rfl]
  refine (Action.view_after_bind entries (fun _ => Keeps.pure _) _).trans ?_
  exact entries_capture hd _ _ _ _

/-- There is a slip in executing the current statement, as a read or as a write. One that is held
back is not sent. -/
def SlipsExecuting (builder : Builder σ) (asRead : Bool) : Prop :=
  match builder.rendered with
  | .error _ => False
  | .ok (sql, placeholders) =>
    if asRead then
      Slips (Connection.parser σ) builder.client.paramstyle sql placeholders
        ((PreparedStatement.run sql placeholders).outcome builder.client) true
    else builder.holdsBack sql = false ∧
      Slips (Connection.parser σ) builder.client.paramstyle sql placeholders
        ((builder.guardedWrite sql placeholders).outcome builder) true

/-- There is no slip in executing a sound statement as a read, if its values can be written. -/
theorem not_slipsExecuting_of_sound (h : builder.descriptor.Sound)
    (hwritable : ∀ placeholders, builder.placeholders = .ok placeholders →
      Interpolation.Writable placeholders) :
    ¬ builder.SlipsExecuting true := by
  unfold SlipsExecuting
  cases hr : builder.rendered with
  | error fault => exact id
  | ok written =>
    obtain ⟨-, hplaceholders⟩ := rendered_eq_ok hr
    dsimp only
    rw [if_pos rfl]
    exact not_slips_of_markers
      (Descriptor.boundPlaceholders_keys h.placeholders hplaceholders) (hwritable _ hplaceholders)
      _ _

section Executions

variable (hd : builder.debugMode.enabled = true)

include hd

theorem executeQuery_tallied :
    Tallied (builder.SlipsExecuting true) builder (executeQuery.after builder) := by
  unfold SlipsExecuting
  cases h : builder.rendered with
  | error fault =>
    rw [Action.after, executeQuery_of_refused h]
    exact tallied_refl builder
  | ok written =>
    obtain ⟨sql, placeholders⟩ := written
    rw [Action.after_congr (executeQuery_of_sent h)]
    dsimp only
    rw [if_pos rfl, ← outcome_onClient]
    exact (runs_onClient builder sql placeholders).tallied_guarded hd _
      (fun _ => (rememberRead_quiet _ _ _ _).leavesClient) fun statement s =>
        ⟨_, rfl, rfl, entries_rememberRead hd sql placeholders statement s⟩

theorem executeStatement_tallied :
    Tallied (builder.SlipsExecuting false) builder (executeStatement.after builder) := by
  unfold SlipsExecuting
  cases h : builder.rendered with
  | error fault =>
    rw [Action.after, executeStatement_of_refused h]
    exact tallied_refl builder
  | ok written =>
    obtain ⟨sql, placeholders⟩ := written
    dsimp only
    rw [if_neg Bool.false_ne_true]
    cases hh : builder.holdsBack sql with
    | true =>
      refine (tallied_of_same (client_of_held h hh) ?_).congr
        ⟨False.elim, fun hslip => Bool.noConfusion hslip.1⟩
      rw [Action.after_congr (executeStatement_of_held h hh)]
      rw [entries_captureOnly hd, List.drop_left, filter_shownAs]
      rfl
    | false =>
      have ho : builder.ownsTransaction sql = true := by
        unfold holdsBack at hh
        rwa [hd, Bool.true_and, Bool.not_eq_false'] at hh
      rw [Action.after_congr (executeStatement_of_sent h hh)]
      refine Tallied.congr ?_ ⟨fun hslip => ⟨rfl, hslip⟩, And.right⟩
      exact (runs_guardedWrite ho hd).tallied_guarded hd _
        (fun _ => (rememberWrite_quiet _ _ _ _ _).leavesClient) fun given s =>
          ⟨_, rfl, rfl, entries_rememberWrite hd sql placeholders given.1 given.2 s⟩

theorem execute_tallied :
    Tallied (builder.SlipsExecuting (isRead (Connection.parser σ) builder.descriptor)) builder
      (execute.after builder) := by
  cases hread : isRead (Connection.parser σ) builder.descriptor with
  | true =>
    rw [Action.after_congr (execute_of_read hread)]
    exact executeQuery_tallied hd
  | false =>
    rw [after_execute_of_write hread]
    exact executeStatement_tallied hd

end Executions

/-! ## Counting rows -/

theorem outcome_runCounting (sql : String) (placeholders : Value.Entries) (builder : Builder σ) :
    (runCounting sql placeholders).outcome builder =
      ((PreparedStatement.run sql placeholders).outcome builder.client).map fun statement =>
        (statement.listing.rows.length : Int) := by
  unfold runCounting
  rw [Action.outcome_bind, outcome_onClient]
  cases (PreparedStatement.run sql placeholders).outcome builder.client <;> rfl

theorem runs_runCounting (builder : Builder σ) (sql : String) (placeholders : Value.Entries) :
    builder.Runs sql placeholders (runCounting sql placeholders) :=
  (runs_onClient builder sql placeholders).bind fun _ _ => ⟨_, rfl⟩

omit [Connection σ] in
/-- A row of positions can always be fetched. -/
theorem fetchCount_returns (statement : PreparedStatement) (s : Builder σ) :
    ∃ row, (do
      let (row, _) := statement.fetch (← get).client.foldCase .num
      Action.ofAttempt row : Action (Builder σ) Value) s = .ok row s := by
  rw [Action.get_bind]
  have hrow : ∃ row, (statement.fetch s.client.foldCase .num).1 = .ok row := by
    unfold PreparedStatement.fetch
    split <;> exact ⟨_, rfl⟩
  obtain ⟨row, hrow⟩ := hrow
  refine ⟨row, ?_⟩
  dsimp only
  rw [hrow]
  rfl

theorem runs_runProbe (builder : Builder σ) (probe : String) (placeholders : Value.Entries) :
    builder.Runs probe placeholders (runProbe probe placeholders) :=
  (runs_onClient builder probe placeholders).bind fetchCount_returns

theorem client_runProbe (builder : Builder σ) (probe : String) (placeholders : Value.Entries) :
    ((runProbe probe placeholders).after builder).client =
      (PreparedStatement.run probe placeholders).after builder.client := by
  unfold runProbe
  rw [Action.view_after_bind Builder.client fun _ => Keeps.get.bind fun _ => Keeps.ofAttempt _,
    after_onClient]
  rfl

theorem outcome_runProbe_eq_error_iff {probe : String} {fault : Fault} :
    (runProbe probe placeholders).outcome builder = .error fault ↔
      (PreparedStatement.run probe placeholders).outcome builder.client = .error fault := by
  rw [← outcome_onClient]
  exact outcome_bind_eq_error_iff fetchCount_returns

/-- There is a slip in counting rows again if the statement returns, which is not recorded, or for
one of the reasons for which there is a slip in any execution. -/
def SlipsCountingAgain (client : Client σ) (sql : String) (placeholders : Value.Entries) : Prop :=
  Slips (Connection.parser σ) client.paramstyle sql placeholders
    ((PreparedStatement.run sql placeholders).outcome client) false

/-- There is a slip in counting the rows of the last read. A counting statement that was sent and
rejected is not captured at all. -/
def SlipsCounting (builder : Builder σ) (sql : String) (placeholders : Value.Entries) : Prop :=
  match builder.probe? sql with
  | none => SlipsCountingAgain builder.client sql placeholders
  | some probe =>
    match (PreparedStatement.run probe placeholders).outcome builder.client with
    | .ok _ => Hides (Connection.parser σ) builder.client.paramstyle probe placeholders
    | .error fault => fault.isToolkit = false ∧
      ((PreparedStatement.request (Connection.parser σ) builder.client.paramstyle
        probe placeholders).isOk = true ∨
        SlipsCountingAgain builder.client sql placeholders)

theorem countP_of_one {spelled : String} {values : Option Arguments} {made : List Call}
    (h : ∃ settling, made = .execute spelled values :: settling ∧
      ∀ call ∈ settling, call.sends = false) : made.countP Call.sends = 1 := by
  obtain ⟨settling, rfl, hsettling⟩ := h
  rw [List.countP_cons_of_pos rfl, List.countP_eq_zero.mpr]
  intro call hcall
  rw [hsettling call hcall]
  exact Bool.false_ne_true

section Counting

variable (hd : builder.debugMode.enabled = true)

include hd

theorem countAgain_tallied (sql : String) (placeholders : Value.Entries) :
    Tallied (SlipsCountingAgain builder.client sql placeholders) builder
      ((countAgain sql placeholders).after builder) := by
  rw [Action.after_congr (countAgain_eq sql placeholders builder), ← bind_pure
    (guarded .raw builder.debugMode sql placeholders (runCounting sql placeholders))]
  refine Tallied.congr ?_ (slips_map fun statement : PreparedStatement =>
    (statement.listing.rows.length : Int))
  rw [← outcome_runCounting]
  exact (runs_runCounting builder sql placeholders).tallied_guarded hd .raw
    (fun _ => Keeps.pure _) fun _ s =>
      ⟨{ kind := .raw, sql }, rfl, rfl, (List.append_nil _).symm⟩

theorem tallied_of_probe {probe : String} {row : Value}
    (hrow : (runProbe probe placeholders).outcome builder = .ok row) :
    Tallied (Hides (Connection.parser σ) builder.client.paramstyle probe placeholders) builder
      ((do
        capture builder.debugMode probe placeholders
          { kind := .raw, sql := probe, elapsed := builder.lap }
        Action.ofAttempt (countOf row) : Action (Builder σ) Int).after
          ((runProbe probe placeholders).after builder)) := by
  have hslips : Slips (Connection.parser σ) builder.client.paramstyle probe placeholders
      ((runProbe probe placeholders).outcome builder) true ↔
        Hides (Connection.parser σ) builder.client.paramstyle probe placeholders := by
    unfold Slips Invents
    rw [hrow]
    simp
  refine Tallied.congr ((runs_runProbe builder probe placeholders).tallied ?_
    ⟨fun given ho => ?_, fun fault ho => ?_⟩) hslips
  · refine Action.view_after_bind Builder.client (fun _ => Keeps.ofAttempt _) _ |>.trans ?_
    exact ((capture_silent _ _ _ _).leavesClient _).symm
  · refine ⟨{ kind := .raw, sql := probe, elapsed := builder.lap }, rfl, ?_⟩
    rw [Action.view_after_bind entries (fun _ => Keeps.ofAttempt _), entries_capture hd,
      (runs_runProbe builder probe placeholders).entries, List.drop_left, filter_shownAs,
      if_pos rfl]
  · cases hrow.symm.trans ho

omit hd in
theorem tallied_of_unbound {probe : String} {fault : Fault}
    (hf : (runProbe probe placeholders).outcome builder = .error fault)
    (ht : fault.isToolkit = true) :
    Tallied False builder ((runProbe probe placeholders).after builder) := by
  have hruns := runs_runProbe builder probe placeholders
  cases hr : PreparedStatement.request (Connection.parser σ) builder.client.paramstyle
    probe placeholders with
  | ok sending =>
    obtain ⟨message, rfl⟩ := (hruns.sends sending.1 sending.2 hr).2 fault hf
    cases ht
  | error cause =>
    unfold Tallied
    rw [hruns.entries, List.drop_length]
    refine (hruns.refused cause hr).1.mono fun made hmade => ?_
    rw [Connection.dispatches_eq_nil hmade]
    exact ⟨fun _ => .nil, False.elim⟩

/-- Once a counting statement was sent and rejected, there are fewer entries than statements,
whatever becomes of counting again. -/
theorem tallied_of_rejected {probe : String} {sending : String × Option Arguments}
    (hr : PreparedStatement.request (Connection.parser σ) builder.client.paramstyle
      probe placeholders = .ok sending)
    (s : Builder σ) (hs : s.client = ((runProbe probe placeholders).after builder).client)
    (hentries : s.entries = builder.entries) (hmode : s.debugMode = builder.debugMode)
    (sql : String) :
    Tallied True builder ((countAgain sql placeholders).after s) := by
  have hprobe := ((runs_runProbe builder probe placeholders).sends sending.1 sending.2 hr).1
  have hruns := runs_runCounting s sql placeholders
  rw [← hs] at hprobe
  unfold Tallied
  rw [Action.after_congr (countAgain_eq sql placeholders s),
    entries_guarded (hmode ▸ hd) .raw sql placeholders hruns.entries, guarded_client, hentries,
    List.drop_left]
  cases hagain : PreparedStatement.request (Connection.parser σ) s.client.paramstyle
    sql placeholders with
  | ok again =>
    refine Client.Makes.append (fun made made' hmade hmade' => ?_) hprobe
      (hruns.sends again.1 again.2 hagain).1
    refine ⟨fun h => (h trivial).elim, fun _ => ?_⟩
    have hfew : ((caught s .raw sql placeholders
        (runCounting sql placeholders)).filter (·.executed)).length ≤ 1 :=
      (List.length_filter_le _ _).trans (length_caught_le _ _ _ _ _)
    rw [Connection.length_dispatches, List.countP_append, countP_of_one hmade, countP_of_one hmade']
    omega
  | error cause =>
    -- values that were bound for the counting statement can be bound again, so one is missing
    have hcause := PreparedStatement.isToolkit_of_request hr hagain
    have hcaught : caught s .raw sql placeholders (runCounting sql placeholders) = [] := by
      unfold caught
      rw [outcome_runCounting, Action.outcome, PreparedStatement.run_of_refused hagain]
      exact if_pos hcause
    refine Client.Makes.append (fun made made' hmade hmade' => ?_) hprobe
      (hruns.refused cause hagain).1
    refine ⟨fun h => (h trivial).elim, fun _ => ?_⟩
    rw [Connection.length_dispatches, List.countP_append, countP_of_one hmade, hcaught]
    exact Nat.ne_of_gt (Nat.lt_of_lt_of_le Nat.one_pos (Nat.le_add_right 1 _))

/-- A failure of the counting statement that is not the toolkit's own is logged, and then the
statement is run again. -/
theorem tallied_of_noted (probe sql : String) (event : LogEvent) :
    Tallied
      ((PreparedStatement.request (Connection.parser σ) builder.client.paramstyle
        probe placeholders).isOk = true ∨
        SlipsCountingAgain builder.client sql placeholders)
      builder ((countAgain sql placeholders).after
        ((note event).after ((runProbe probe placeholders).after builder))) := by
  set noted := (note event).after ((runProbe probe placeholders).after builder) with hnoted
  have hentries : noted.entries = builder.entries :=
    (runs_runProbe builder probe placeholders).entries
  have hmode : noted.debugMode = builder.debugMode :=
    (debugMode_of_standing (standing_detached.runProbe_leaves probe placeholders builder)).symm
  cases hr : PreparedStatement.request (Connection.parser σ) builder.client.paramstyle
    probe placeholders with
  | ok sending =>
    refine (tallied_of_rejected hd hr noted rfl hentries hmode sql).congr ?_
    exact ⟨fun _ => .inl rfl, fun _ => trivial⟩
  | error cause =>
    have hclient : noted.client = builder.client := by
      rw [hnoted]
      refine (client_runProbe builder probe placeholders).trans ?_
      rw [Action.after, PreparedStatement.run_of_refused hr]
    have hagain := countAgain_tallied (hmode ▸ hd) sql placeholders
    rw [hclient] at hagain
    refine (hagain.of_start hclient hentries).congr ⟨fun hslip => .inr hslip, ?_⟩
    rintro (hsent | hslip)
    · cases hsent
    · exact hslip

theorem countRead_tallied (sql : String) (placeholders : Value.Entries) :
    Tallied (builder.SlipsCounting sql placeholders) builder
      ((countRead sql placeholders).after builder) := by
  unfold SlipsCounting
  cases hp : builder.probe? sql with
  | none =>
    rw [Action.after_congr (countRead_of_no_probe hp)]
    exact countAgain_tallied hd sql placeholders
  | some probe =>
    unfold countRead
    rw [Action.after_get_bind, hp]
    dsimp only
    rw [Action.after_bind_ok (Action.outcome_attempt _ _), Action.attempt_after]
    cases ho : (PreparedStatement.run probe placeholders).outcome builder.client with
    | ok statement =>
      obtain ⟨row, hrow⟩ : ∃ row, (runProbe probe placeholders).outcome builder = .ok row := by
        cases hrow : (runProbe probe placeholders).outcome builder with
        | ok row => exact ⟨row, rfl⟩
        | error fault => cases ho.symm.trans (outcome_runProbe_eq_error_iff.mp hrow)
      rw [hrow]
      exact tallied_of_probe hd hrow
    | error fault =>
      have hf := outcome_runProbe_eq_error_iff.mpr ho
      rw [hf]
      dsimp only
      cases ht : fault.isToolkit with
      | true =>
        rw [if_pos rfl]
        exact (tallied_of_unbound hf ht).congr ⟨False.elim, fun hslip => Bool.noConfusion hslip.1⟩
      | false =>
        rw [if_neg Bool.false_ne_true, Action.after_bind_ok rfl]
        exact (tallied_of_noted hd probe sql _).congr ⟨fun hslip => ⟨rfl, hslip⟩, And.right⟩

end Counting

end Builder

end SqlToolkit
