import SqlToolkit.Proofs.Builder.Reading

/-!
# Whose row id is given

A *history* is kept from outside: how the most recent execution ended, and the row id that was
reported to the statement run last if that was an INSERT. The builder answers the question for the
id of the inserted row by the statement run last. So the answer is the one of the most recent
execution unless that raised a fault or was held back, and an INSERT was run last before it.
-/

namespace SqlToolkit

open SqlToolkit.Action (Keeps)

/-- What is answered about a statement, given the row id that was reported to it if it inserted
rows. -/
def Dialect.rowIdAnswer (dialect : Dialect) : Option Value → Attempt Value
  | none => .error (.sequence .noInsert)
  | some id =>
    if dialect.supportsLastInsertId then .ok id else .error (.noLastInsertId dialect.name)

namespace Builder

variable {σ : Type}

/-! ## What is remembered of an INSERT -/

/-- What the question for the id of an inserted row depends on. -/
def insertion (builder : Builder σ) : Dialect × Bool × Value :=
  (builder.dialect, builder.last.wasInsert, builder.last.insertId)

theorem insertion_detached : Detached (insertion : Builder σ → Dialect × Bool × Value) :=
  ⟨fun _ _ => rfl, fun _ _ => rfl, fun _ _ => rfl⟩

theorem Composing.leavesInsertion {α : Type} {action : Action (Builder σ) α}
    (h : Composing action) : Keeps Eq insertion action := fun builder => by
  have hinsertion := congrArg insertion (h.leavesBesides builder)
  exact hinsertion

/-- A statement that is started does not make the last one forgotten. -/
theorem Starting.leavesInsertion {α : Type} {action : Action (Builder σ) α} (h : Starting action) :
    Keeps Eq insertion action := by
  obtain ⟨rest, hrest, rfl⟩ := h
  refine Keeps.bind (Keeps.modify fun builder => ?_) fun _ => hrest.leavesInsertion
  unfold cleared insertion LastRun.retire
  split <;> rfl

theorem captureOnly_leavesInsertion (kind : QueryKind) (mode : DebugMode) (sql : String)
    (placeholders : Value.Entries) :
    Keeps Eq insertion (captureOnly kind mode sql placeholders :
      Action (Builder σ) ExecutionResult) :=
  (insertion_detached.capture_leaves _ _ _ _).bind fun _ =>
    Keeps.bind (Keeps.modify fun _ => rfl) fun _ => Keeps.pure _

/-- What is remembered: whether the statement run last was an INSERT and, where the dialect reports
it, the row id. -/
structure Remembers (builder : Builder σ) (inserted : Option Value) : Prop where
  wasInsert : builder.last.wasInsert = inserted.isSome
  id : ∀ id, inserted = some id → builder.dialect.supportsLastInsertId = true →
    builder.last.insertId = id

variable {builder builder' : Builder σ} {inserted : Option Value}

theorem Remembers.of_same (h : builder.Remembers inserted)
    (hsame : builder.insertion = builder'.insertion) : builder'.Remembers inserted := by
  obtain ⟨hdialect, hlast⟩ := Prod.mk.inj hsame
  obtain ⟨hwas, hid⟩ := Prod.mk.inj hlast
  exact ⟨hwas ▸ h.wasInsert, fun id hinserted hsupported =>
    hid ▸ h.id id hinserted (hdialect ▸ hsupported)⟩

/-- The question for the row id is answered by what is remembered. -/
theorem Remembers.lastInsertId (h : builder.Remembers inserted) :
    builder.lastInsertId = builder.dialect.rowIdAnswer inserted := by
  unfold Builder.lastInsertId Dialect.rowIdAnswer
  rw [h.wasInsert]
  cases inserted with
  | none => rfl
  | some id =>
    cases hs : builder.dialect.supportsLastInsertId with
    | false => rfl
    | true => rw [h.id id rfl hs]; rfl

/-! ## Executions -/

variable [Connection σ]

/-- If executing the current statement gets it run: the row id that the connection reports, if the
statement is a write that inserts rows. -/
def inserted? (builder : Builder σ) (asRead : Bool) : Option (Option Value) :=
  match builder.rendered with
  | .ok (sql, placeholders) =>
    if builder.runs asRead sql placeholders then
      some (if !asRead && insertsRows (Connection.parser σ) builder.descriptor.kind sql then
        builder.answer?.map (·.rowId.getD .null) else none)
    else none
  | .error _ => none

variable {sql : String} {placeholders : Value.Entries}

theorem inserted?_of_rendered (h : builder.rendered = .ok (sql, placeholders)) (asRead : Bool) :
    builder.inserted? asRead =
      if builder.runs asRead sql placeholders then
        some (if !asRead && insertsRows (Connection.parser σ) builder.descriptor.kind sql then
          builder.answer?.map (·.rowId.getD .null) else none)
      else none := by
  unfold inserted?
  rw [h]

theorem inserted?_of_refused {fault : Fault} (h : builder.rendered = .error fault)
    (asRead : Bool) : builder.inserted? asRead = none := by
  unfold inserted?
  rw [h]

theorem last_rememberWrite (builder : Builder σ) (sql : String) (placeholders : Value.Entries)
    (statement : PreparedStatement) (insertId : Value) (s : Builder σ) :
    ((builder.rememberWrite sql placeholders statement insertId).after s).last =
      { descriptor := .current, sql := some sql, placeholders, wasRead := false,
        wasInsert := insertsRows (Connection.parser σ) builder.descriptor.kind sql
        affected := max statement.rowCount 0, insertId } :=
  Action.view_after_bind last (fun _ => (last_detached.capture_leaves _ _ _ _).bind fun _ =>
    Keeps.pure _) s

/-- A read that is run is remembered as no INSERT. -/
theorem remembers_executeQuery (h : builder.Remembers inserted) :
    (executeQuery.after builder).Remembers ((builder.inserted? true).getD inserted) := by
  cases hr : builder.rendered with
  | error fault =>
    rw [inserted?_of_refused hr, Action.after, executeQuery_of_refused hr]
    exact h
  | ok rendered =>
    obtain ⟨sql, placeholders⟩ := rendered
    rw [inserted?_of_rendered hr, runs_read, Action.after_congr (executeQuery_of_sent hr)]
    cases hrun : (PreparedStatement.run sql placeholders).outcome builder.client with
    | error fault =>
      obtain ⟨raised, hraised⟩ := outcome_guarded_of_error builder.descriptor.kind
        builder.debugMode sql placeholders ((outcome_onClient _ builder).trans hrun)
      rw [Action.after_bind_error hraised]
      exact h.of_same (insertion_detached.guarded_leaves (insertion_detached.onClient_leaves _)
        builder)
    | ok statement =>
      rw [Action.after_bind_ok (outcome_guarded_of_ok _ _ _ _
        ((outcome_onClient _ builder).trans hrun))]
      have hlast := last_rememberRead builder sql placeholders statement
        ((guarded builder.descriptor.kind builder.debugMode sql placeholders
          (onClient (PreparedStatement.run sql placeholders))).after builder)
      refine ⟨by rw [hlast]; rfl, fun id hid => by cases hid⟩

/-- A write that is run is remembered with the row id that was reported to it. -/
theorem remembers_executeStatement (h : builder.Remembers inserted) :
    (executeStatement.after builder).Remembers ((builder.inserted? false).getD inserted) := by
  have hdialect := executeStatement_fading.leavesDialect builder
  cases hr : builder.rendered with
  | error fault =>
    rw [inserted?_of_refused hr, Action.after, executeStatement_of_refused hr]
    exact h
  | ok rendered =>
    obtain ⟨sql, placeholders⟩ := rendered
    rw [inserted?_of_rendered hr, runs_write]
    cases hh : builder.holdsBack sql with
    | true =>
      rw [Action.after_congr (executeStatement_of_held hr hh)]
      exact h.of_same (captureOnly_leavesInsertion _ _ _ _ builder)
    | false =>
      have hsent := executeStatement_of_sent hr hh
      cases hw : (builder.guardedWrite sql placeholders).outcome builder with
      | error fault =>
        obtain ⟨raised, hraised⟩ := outcome_guarded_of_error builder.descriptor.kind
          builder.debugMode sql placeholders hw
        rw [Action.after_congr hsent, Action.after_bind_error hraised]
        exact h.of_same (insertion_detached.guarded_leaves
          (insertion_detached.scope_leaves _ _ _ _ _) builder)
      | ok written =>
        obtain ⟨result, hanswer, -, -, hid⟩ := answered_of_guardedWrite hr hw
        rw [Action.after_congr hsent,
          Action.after_bind_ok (outcome_guarded_of_ok _ _ _ _ hw)] at hdialect ⊢
        have hlast := last_rememberWrite builder sql placeholders written.1 written.2
          ((guarded builder.descriptor.kind builder.debugMode sql placeholders
            (builder.guardedWrite sql placeholders)).after builder)
        rw [hanswer]
        constructor
        · rw [hlast]
          cases insertsRows (Connection.parser σ) builder.descriptor.kind sql with
          | true => rfl
          | false => rfl
        · intro id hsome hsupported
          rw [← hdialect] at hsupported
          rw [hlast, hid, hsupported]
          cases hi : insertsRows (Connection.parser σ) builder.descriptor.kind sql with
          | true =>
            rw [hi] at hsome
            exact Option.some.inj hsome
          | false =>
            rw [hi] at hsome
            cases hsome

theorem remembers_execute (h : builder.Remembers inserted) :
    (execute.after builder).Remembers
      ((builder.inserted? (isRead (Connection.parser σ) builder.descriptor)).getD inserted) := by
  cases hread : isRead (Connection.parser σ) builder.descriptor with
  | true =>
    rw [Action.after_congr (execute_of_read hread)]
    exact remembers_executeQuery h
  | false =>
    rw [after_execute_of_write hread]
    exact remembers_executeStatement h

end Builder

/-! ## Histories -/

/-- How the most recent execution ended. One that is incomplete raised a fault or was held back. A
completed one has the row id that was reported to its statement, if that inserted rows. -/
inductive Ending where
  | none
  | incomplete
  | completed (inserted : Option Value)

/-- How the most recent execution ended, and the row id that was reported to the statement run last,
if that inserted rows. -/
structure History where
  latest : Ending := .none
  inserted : Option Value := none

namespace History

variable {σ : Type}

/-- The history after an execution, given what was reported to its statement, if that was run, and
whether the execution returned. -/
def executed (history : History) (ran : Option (Option Value)) (returned : Bool) : History :=
  match ran with
  | none => { history with latest := .incomplete }
  | some inserted => { latest := if returned then .completed inserted else .incomplete, inserted }

/-- What a builder remembers is about the statement run last. A completed execution ran it. -/
structure Kept (history : History) (builder : Builder σ) : Prop where
  remembers : builder.Remembers history.inserted
  unused : history.latest = .none → history.inserted = none
  completed : ∀ inserted, history.latest = .completed inserted → history.inserted = inserted

/-- The most recent execution did not complete, and the statement run last before it inserted rows
and can be asked for the id. -/
def LeftOver (history : History) (dialect : Dialect) : Prop :=
  history.latest = .incomplete ∧ history.inserted.isSome = true ∧
    dialect.supportsLastInsertId = true

variable {history : History} {builder builder' : Builder σ}

theorem Kept.of_same (h : history.Kept builder) (hsame : builder.insertion = builder'.insertion) :
    history.Kept builder' :=
  ⟨h.remembers.of_same hsame, h.unused, h.completed⟩

theorem kept_executed {ran : Option (Option Value)}
    (hr : builder.Remembers (ran.getD history.inserted)) (returned : Bool) :
    (history.executed ran returned).Kept builder := by
  cases ran with
  | none => exact ⟨hr, nofun, nofun⟩
  | some inserted =>
    cases returned with
    | true => exact ⟨hr, nofun, fun _ hlatest => Ending.completed.inj hlatest⟩
    | false => exact ⟨hr, nofun, nofun⟩

variable [Connection σ]

/-- The history after a search for the greatest value, which executes a statement of its own if that
can be composed. -/
def searched (history : History) (builder : Builder σ) (table column : Value) : History :=
  let ask : Action (Builder σ) Unit := Builder.askMaximum table column
  let asked := ask.after builder
  match ask.outcome builder with
  | .error _ => history
  | .ok _ => history.executed (asked.inserted? true) (Builder.executeQuery.outcome asked).isOk

def after (history : History) (builder : Builder σ) : Builder.Operation σ → History
  | .continued .execute =>
    history.executed (builder.inserted? (Builder.isRead (Connection.parser σ) builder.descriptor))
      (Builder.execute.outcome builder).isOk
  | .continued .executeQuery =>
    history.executed (builder.inserted? true) (Builder.executeQuery.outcome builder).isOk
  | .continued .executeStatement =>
    history.executed (builder.inserted? false) (Builder.executeStatement.outcome builder).isOk
  | .maximum table column => history.searched builder table column
  | _ => history

end History

namespace Builder

variable {σ : Type} {builder : Builder σ} {history : History}

/-- The row id is given exactly if the most recent execution completed, inserted rows and can be
asked for it, and then it is the one that was reported to its statement. Otherwise the question is
refused. -/
structure OwnsId (builder : Builder σ) (latest : Ending) : Prop where
  value : ∀ id, builder.lastInsertId = .ok id ↔
    latest = .completed (some id) ∧ builder.dialect.supportsLastInsertId = true
  refusal : ∀ fault, builder.lastInsertId = .error fault →
    fault = .sequence .noInsert ∨ fault = .noLastInsertId builder.dialect.name

theorem refusal_of_lastInsertId {fault : Fault} (h : builder.lastInsertId = .error fault) :
    fault = .sequence .noInsert ∨ fault = .noLastInsertId builder.dialect.name := by
  unfold lastInsertId at h
  split at h
  · cases h
    exact .inl rfl
  · split at h
    · cases h
      exact .inr rfl
    · cases h

theorem rowIdAnswer_eq_ok {dialect : Dialect} {inserted : Option Value} {id : Value} :
    dialect.rowIdAnswer inserted = .ok id ↔
      inserted = some id ∧ dialect.supportsLastInsertId = true := by
  unfold Dialect.rowIdAnswer
  cases inserted with
  | none => exact ⟨nofun, nofun⟩
  | some reported =>
    cases dialect.supportsLastInsertId with
    | false => exact ⟨nofun, nofun⟩
    | true => exact ⟨fun h => ⟨congrArg some (Except.ok.inj h), rfl⟩, fun h => congrArg _
        (Option.some.inj h.1)⟩

theorem ownsId_iff (h : history.Kept builder) :
    builder.OwnsId history.latest ↔ ¬ history.LeftOver builder.dialect := by
  have hanswer {id : Value} : builder.lastInsertId = .ok id ↔
      history.inserted = some id ∧ builder.dialect.supportsLastInsertId = true := by
    rw [h.remembers.lastInsertId]
    exact rowIdAnswer_eq_ok
  constructor
  · rintro howns ⟨hlatest, hinserted, hsupported⟩
    obtain ⟨id, hid⟩ := Option.isSome_iff_exists.mp hinserted
    have hcompleted := ((howns.value id).mp (hanswer.mpr ⟨hid, hsupported⟩)).1
    rw [hlatest] at hcompleted
    cases hcompleted
  · intro hleft
    refine ⟨fun id => ⟨fun hok => ?_, fun hcompleted => ?_⟩, fun _ => refusal_of_lastInsertId⟩
    · obtain ⟨hid, hsupported⟩ := hanswer.mp hok
      refine ⟨?_, hsupported⟩
      cases hlatest : history.latest with
      | none => cases hid.symm.trans (h.unused hlatest)
      | incomplete => exact (hleft ⟨hlatest, hid ▸ rfl, hsupported⟩).elim
      | completed inserted => rw [← h.completed inserted hlatest, hid]
    · obtain ⟨hlatest, hsupported⟩ := hcompleted
      exact hanswer.mpr ⟨h.completed _ hlatest, hsupported⟩

/-! ## Runs -/

variable [Connection σ]

theorem kept_historySearched (h : history.Kept builder) (table column : Value) :
    (history.searched builder table column).Kept ((maximum table column).after builder) := by
  have hkept := h.of_same (askMaximum_keeps table column (fun hs => hs.leavesInsertion) builder)
  rw [maximum_eq]
  unfold History.searched
  dsimp only
  cases ha : (askMaximum table column).outcome builder with
  | error fault =>
    rw [Action.after_bind_error ha]
    exact hkept
  | ok _ =>
    rw [Action.after_bind_ok ha]
    have hexecuted := History.kept_executed (remembers_executeQuery hkept.remembers)
      (executeQuery.outcome ((askMaximum table column).after builder)).isOk
    cases he : executeQuery.outcome ((askMaximum table column).after builder) with
    | error fault =>
      rw [Action.after_bind_error he]
      rwa [he] at hexecuted
    | ok _ =>
      rw [Action.after_bind_ok he, Action.after_map]
      rw [he] at hexecuted
      exact hexecuted.of_same (fetch_leaves (fun _ _ => rfl) .num _)

/-- Whatever an operation does, what the builder remembers stays true to the history. -/
theorem Operation.run_keptHistory (operation : Operation σ) (h : history.Kept builder) :
    (history.after builder operation).Kept (operation.run.after builder) := by
  have untouched {α : Type} {action : Action (Builder σ) α} (ha : Keeps Eq insertion action) :
      history.Kept (action.after builder) :=
    h.of_same (ha builder)
  have executed {α : Type} {action : Action (Builder σ) α} {ran : Option (Option Value)}
      (hr : (action.after builder).Remembers (ran.getD history.inserted)) :
      (history.executed ran (action.outcome builder).isOk).Kept
        ((do let _ ← action : Action (Builder σ) Unit).after builder) := by
    rw [Action.after_discard]
    exact History.kept_executed hr _
  cases operation with
  | clear | rawQuery | select | insert | update | delete =>
    exact untouched (Starting.leavesInsertion (Operation.run_starting trivial))
  | filter => exact untouched (Composing.leavesInsertion (Operation.run_composing trivial))
  | maximum table column =>
    unfold Operation.run
    rw [Action.after_discard]
    exact kept_historySearched h table column
  | continued operation =>
    cases operation with
    | fromTable | distinct | groupBy | orderBy | limit | setParameters | addPlaceholders =>
      exact untouched (Composing.leavesInsertion (Operation.run_composing trivial))
    | setDebugOnce | setDebug =>
      exact untouched ((Keeps.ofAttempt _).bind fun _ => Keeps.modify fun _ => rfl)
    | execute => exact executed (remembers_execute h.remembers)
    | executeQuery => exact executed (remembers_executeQuery h.remembers)
    | executeStatement => exact executed (remembers_executeStatement h.remembers)
    | numRows => exact untouched (insertion_detached.numRows_leaves.bind fun _ => Keeps.pure _)
    | fetch mode =>
      exact untouched ((fetch_leaves (fun _ _ => rfl) mode).bind fun _ => Keeps.pure _)
    | fetchAll mode =>
      exact untouched ((fetchAll_leaves (fun _ _ => rfl) mode).bind fun _ => Keeps.pure _)
    | dropResult | forgetEntries => exact untouched (Keeps.modify fun _ => rfl)
    | onClient action => exact untouched (insertion_detached.onClient_leaves action)

/-- The history after some operations, whether they returned or failed. -/
def historyFrom (history : History) (builder : Builder σ) : List (Operation σ) → History
  | [] => history
  | operation :: rest =>
    historyFrom (history.after builder operation) (operation.run.after builder) rest

theorem kept_historyFrom (h : history.Kept builder) (operations : List (Operation σ)) :
    (historyFrom history builder operations).Kept (builder.performed operations) := by
  induction operations generalizing history builder with
  | nil => exact h
  | cons operation rest ih => exact ih (operation.run_keptHistory h)

/-- **The row id is that of the statement run last.** After any operations, whether they succeed or
fail, the question for the id of the inserted row is answered for the statement that was run last,
with the id that was reported to it if it inserted rows. So the answer belongs to the most recent
execution, and is refused if that has none, exactly if it is no id that was left over: the most
recent execution raised a fault or was held back, and an insertion was run last before. -/
theorem row_id_of_latest_execution_iff {dialect : Dialect} {client : Client σ} {debug : Value}
    {lap : Duration} (h : create dialect client debug lap = .ok builder)
    (operations : List (Operation σ)) :
    let later := builder.performed operations
    let history := historyFrom {} builder operations
    later.lastInsertId = later.dialect.rowIdAnswer history.inserted ∧
      (later.OwnsId history.latest ↔ ¬ history.LeftOver later.dialect) := by
  intro later history
  have hstart : ({} : History).Kept builder := by
    unfold create at h
    cases hd : DebugMode.ofValue debug with
    | error fault => rw [hd] at h; cases h
    | ok mode => rw [hd] at h; cases h; exact ⟨⟨rfl, nofun⟩, fun _ => rfl, nofun⟩
  have hkept : history.Kept later := kept_historyFrom hstart operations
  exact ⟨hkept.remembers.lastInsertId, ownsId_iff hkept⟩

/-- A connection that reports a row id for the first statement and rejects the second. -/
def lockedAfterInsert : Scripted :=
  { responses := [{ result := { rowId := some (.int 7) } }, { failure := some "locked" }] }

def onLockedAfterInsert : Builder Scripted :=
  { client := { connection := lockedAfterInsert }, dialect := .sqlite }

def insertThenDelete : List (Operation Scripted) :=
  [.rawQuery (.text "INSERT INTO t VALUES (1)"), .continued .execute, .delete (.text "t") .null,
    .continued .execute]

theorem row_id_of_latest_execution_insertThenDelete :
    create .sqlite { connection := lockedAfterInsert } (.bool false) {} =
        .ok onLockedAfterInsert ∧
      let later := onLockedAfterInsert.performed (insertThenDelete.take 3)
      (historyFrom {} onLockedAfterInsert (insertThenDelete.take 3)).latest =
        .completed (some (.int 7)) ∧
      later.OwnsId (.completed (some (.int 7))) ∧ later.lastInsertId = .ok (.int 7) := by
  have hcreate : create .sqlite { connection := lockedAfterInsert } (.bool false) {} =
      .ok onLockedAfterInsert := rfl
  have hlatest : (historyFrom {} onLockedAfterInsert (insertThenDelete.take 3)).latest =
      .completed (some (.int 7)) := rfl
  obtain ⟨-, howns⟩ := row_id_of_latest_execution_iff hcreate (insertThenDelete.take 3)
  rw [hlatest] at howns
  have hown := howns.mpr fun hleft => nomatch hlatest.symm.trans hleft.1
  exact ⟨hcreate, hlatest, hown, (hown.value _).mpr ⟨rfl, rfl⟩⟩

/-- The deletion fails, and the question is answered with the id of the row inserted before. -/
theorem row_id_left_over_by_failed_deletion :
    create .sqlite { connection := lockedAfterInsert } (.bool false) {} =
        .ok onLockedAfterInsert ∧
      (∃ fault, execute.outcome (onLockedAfterInsert.performed (insertThenDelete.take 3)) =
        .error fault) ∧
      (onLockedAfterInsert.performed insertThenDelete).lastInsertId = .ok (.int 7) ∧
      (historyFrom {} onLockedAfterInsert insertThenDelete).latest = .incomplete ∧
      ¬ (onLockedAfterInsert.performed insertThenDelete).OwnsId .incomplete := by
  have hanswer : (onLockedAfterInsert.performed insertThenDelete).lastInsertId = .ok (.int 7) := rfl
  exact ⟨rfl, ⟨_, rfl⟩, hanswer, rfl, fun howns => nomatch ((howns.value _).mp hanswer).1⟩

end Builder

end SqlToolkit
