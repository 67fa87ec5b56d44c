import SqlToolkit.Proofs.Builder.Execute
import SqlToolkit.Proofs.Connection.Alike

/-!
# Builders that cannot be told apart

Two builders are *alike* if their clients are, and if they agree on everything that decides how the
next statement is executed and on the rows that are left of the last one. Composing, executing and
fetching respect this: done with both builders, they end alike. What was captured and logged, which
statement was executed last, and how long it took are no part of it, and so nothing of that kind
shows, except that the result of an execution tells the time it took.
-/

namespace SqlToolkit

open SqlToolkit.Action (Agree Respects EndAlike)

/-- The result of an execution but for the time that it took. -/
def ExecutionResult.timeless (result : ExecutionResult) : ExecutionResult :=
  { result with elapsed := {} }

namespace Builder

variable {σ : Type} [Connection σ]

/-- The builders cannot be told apart by what is done with them next. -/
structure Alike (earlier earlier' : List Call) (builder builder' : Builder σ) : Prop where
  client : builder.client.Alike earlier earlier' builder'.client
  standing : builder.standing = builder'.standing
  result : builder.result = builder'.result

section

variable {earlier earlier' : List Call} {builder builder' : Builder σ}

theorem Alike.dialect (h : builder.Alike earlier earlier' builder') :
    builder.dialect = builder'.dialect :=
  congrArg Standing.dialect h.standing

theorem Alike.descriptor (h : builder.Alike earlier earlier' builder') :
    builder.descriptor = builder'.descriptor :=
  congrArg Standing.descriptor h.standing

theorem Alike.debugMode (h : builder.Alike earlier earlier' builder') :
    builder.debugMode = builder'.debugMode :=
  debugMode_of_standing h.standing

theorem Alike.sql (h : builder.Alike earlier earlier' builder') : builder.sql = builder'.sql := by
  unfold Builder.sql
  rw [h.descriptor, h.dialect]

theorem Alike.placeholders (h : builder.Alike earlier earlier' builder') :
    builder.placeholders = builder'.placeholders := by
  unfold Builder.placeholders
  rw [h.descriptor]

theorem Alike.ownsTransaction (h : builder.Alike earlier earlier' builder') (sql : String) :
    builder.ownsTransaction sql = builder'.ownsTransaction sql := by
  unfold Builder.ownsTransaction
  rw [h.client.inTransaction]

end

variable {earlier earlier' : List Call} {α : Type}

/-! ## Composing -/

/-- Composing looks at nothing but the statement. -/
theorem Composing.respects {action : Action (Builder σ) α} (h : Composing action) :
    Respects (Alike earlier earlier') action := by
  induction h with
  | pure result => exact Respects.pure result
  | throw fault => exact Respects.throw fault
  | ofAttempt result => exact Respects.ofAttempt result
  | edit change =>
    exact Agree.modify fun _ _ h =>
      ⟨h.client, congrArg (fun s : Standing => { s with descriptor := change s.descriptor })
        h.standing, h.result⟩
  | look hsame _ ih =>
    refine Agree.get_bind fun builder builder' hs => ?_
    rw [hsame builder builder' hs.descriptor]
    exact ih builder'
  | bind _ _ ih ihn => exact ih.bind ihn

theorem setDebugOnce_respects (mode : Value) :
    Respects (Alike earlier earlier') (setDebugOnce mode : Action (Builder σ) Unit) :=
  (Respects.ofAttempt _).bind fun mode => Agree.modify fun _ _ h =>
    ⟨h.client, congrArg (fun s : Standing => { s with debugOnce := some mode }) h.standing,
      h.result⟩

theorem setDebug_respects (mode : Value) :
    Respects (Alike earlier earlier') (setDebug mode : Action (Builder σ) Unit) :=
  (Respects.ofAttempt _).bind fun mode => Agree.modify fun _ _ h =>
    ⟨h.client, congrArg (fun s : Standing => { s with debugDefault := mode }) h.standing,
      h.result⟩

/-! ## Capturing and remembering -/

/-- A change of what was captured, logged or remembered of the last statement. -/
theorem unseen_agree {change change' : Builder σ → Builder σ}
    (h : ∀ builder : Builder σ, ((change builder).client, (change builder).standing,
      (change builder).result) = (builder.client, builder.standing, builder.result))
    (h' : ∀ builder : Builder σ, ((change' builder).client, (change' builder).standing,
      (change' builder).result) = (builder.client, builder.standing, builder.result)) :
    Agree (Alike earlier earlier') (modify change : Action (Builder σ) PUnit) (modify change') := by
  refine Agree.modify fun builder builder' hs => ?_
  obtain ⟨hclient, hstanding, hresult⟩ := by simpa only [Prod.mk.injEq] using h builder
  obtain ⟨hclient', hstanding', hresult'⟩ := by simpa only [Prod.mk.injEq] using h' builder'
  constructor
  · rw [hclient, hclient']
    exact hs.client
  · rw [hstanding, hstanding', hs.standing]
  · rw [hresult, hresult', hs.result]

theorem note_agree (event event' : LogEvent) :
    Agree (Alike earlier earlier') (note event : Action (Builder σ) Unit) (note event') :=
  unseen_agree (fun _ => rfl) fun _ => rfl

/-- Whether an entry can be written does not depend on the time that its statement took. -/
theorem capture_agree (mode : DebugMode) (sql : String) (placeholders : Value.Entries)
    {entry entry' : DebugEntry} (h : entry.affectedRows = entry'.affectedRows) :
    Agree (Alike earlier earlier') (capture mode sql placeholders entry : Action (Builder σ) Unit)
      (capture mode sql placeholders entry') := by
  unfold capture
  split
  · refine (Respects.ofAttempt _).bind fun shown =>
      Agree.bind (unseen_agree (fun _ => rfl) fun _ => rfl) fun _ => ?_
    have hsame : { entry with sql := shown, placeholders }.isWritable =
        { entry' with sql := shown, placeholders }.isWritable := by
      unfold DebugEntry.isWritable
      rw [h]
    rw [hsame]
    split
    · split
      · exact Respects.throw _
      · exact note_agree _ _
    · exact Respects.pure _
  · exact Respects.pure _

theorem executionFault_respects (kind : QueryKind) (mode : DebugMode) (sql : String)
    (placeholders : Value.Entries) (reason : String) :
    Respects (Alike earlier earlier')
      (executionFault kind mode sql placeholders reason : Action (Builder σ) Fault) :=
  (Respects.ofAttempt _).bind fun _ => (note_agree _ _).bind fun _ =>
    Agree.get_bind fun _ _ _ => (capture_agree _ _ _ (by rfl)).bind fun _ => Respects.pure _

theorem guarded_respects {action : Action (Builder σ) α} (kind : QueryKind) (mode : DebugMode)
    (sql : String) (placeholders : Value.Entries)
    (h : Respects (Alike earlier earlier') action) :
    Respects (Alike earlier earlier') (guarded kind mode sql placeholders action) := by
  refine (Agree.attempt h).bind fun answer => ?_
  split
  · exact Respects.pure _
  · split
    · exact Respects.throw _
    · exact (executionFault_respects _ _ _ _ _).bind fun _ => Respects.throw _

theorem remember_agree (statement : PreparedStatement) (last last' : LastRun) :
    Agree (Alike earlier earlier') (remember statement last : Action (Builder σ) Unit)
      (remember statement last') :=
  Agree.modify fun _ _ h =>
    ⟨h.client, congrArg (fun s : Standing => { s with debugOnce := none }) h.standing, rfl⟩

theorem captureOnly_respects (kind : QueryKind) (mode : DebugMode) (sql : String)
    (placeholders : Value.Entries) :
    Respects (Alike earlier earlier')
      (captureOnly kind mode sql placeholders : Action (Builder σ) ExecutionResult) :=
  (capture_agree _ _ _ (by rfl)).bind fun _ =>
    Agree.bind (Agree.modify fun _ _ h =>
      ⟨h.client, congrArg (fun s : Standing => { s with debugOnce := none }) h.standing,
        h.result⟩) fun _ => Respects.pure _

/-! ## Executing -/

theorem onClient_respects {action : Action (Client σ) α}
    (h : Respects (Client.Alike earlier earlier') action) :
    Respects (Alike earlier earlier') (onClient action) :=
  Agree.on (fun _ _ hs => hs.client) (fun _ _ _ _ hs ht => ⟨ht, hs.standing, hs.result⟩) h

theorem scope_respects {body : Action (Builder σ) (α × Bool)} (owned : Bool)
    (h : Respects (Alike earlier earlier') body) :
    Respects (Alike earlier earlier') (transactionScope Part.whole owned body) := by
  have abandoned : Respects (Alike earlier earlier') (abandon owned : Action (Builder σ) Unit) := by
    refine Agree.get_bind fun builder builder' hs => ?_
    rw [hs.client.inTransaction]
    split
    · exact onClient_respects Client.rollback_respects
    · exact Respects.pure _
  have concluded : ∀ rollbackOnly,
      Respects (Alike earlier earlier')
        (conclude owned rollbackOnly : Action (Builder σ) Unit) := by
    intro rollbackOnly
    unfold conclude
    split
    · split
      · exact onClient_respects Client.rollback_respects
      · exact onClient_respects Client.commit_respects
    · exact Respects.pure _
  unfold transactionScope
  simp only [Action.on_whole]
  -- owned or not, the body runs next; how it ended decides what follows
  split
  case' isTrue => refine (onClient_respects Client.beginTransaction_respects).bind fun _ => ?_
  all_goals
    refine (Agree.attempt h).bind fun given => ?_
    split
    · exact abandoned.bind fun _ => Respects.throw _
    · exact (concluded _).bind fun _ => Respects.pure _

/-- The row id is read after a statement that returned, so it is that of this statement. -/
theorem sendWrite_respects (sql : String) (placeholders : Value.Entries)
    (wantsId rollbackOnly : Bool) :
    Respects (Alike earlier earlier') (sendWrite sql placeholders wantsId rollbackOnly :
      Action (Builder σ) ((PreparedStatement × Value) × Bool)) := by
  intro builder builder' hs
  have hrun := onClient_respects (PreparedStatement.run_respects sql placeholders) builder builder'
    hs
  refine hrun.bind fun statement hr _ => ?_
  rw [outcome_onClient] at hr
  have hid : ((onClient (PreparedStatement.run sql placeholders)).after builder).client.lastRowId =
      ((onClient (PreparedStatement.run sql placeholders)).after builder').client.lastRowId := by
    rw [after_onClient, after_onClient]
    exact PreparedStatement.lastRowId_alike hs.client hr
  refine ⟨?_, hrun.after⟩
  show Except.ok _ = Except.ok _
  rw [hid]

theorem executeQuery_respects :
    Respects (Alike earlier earlier')
      (ExecutionResult.timeless <$> executeQuery : Action (Builder σ) ExecutionResult) := by
  unfold executeQuery
  simp only [map_bind, map_pure]
  refine Agree.get_bind fun builder builder' hs => ?_
  rw [hs.sql, hs.placeholders, hs.descriptor, hs.debugMode]
  exact (Respects.ofAttempt _).bind fun sql => (Respects.ofAttempt _).bind fun placeholders =>
    (guarded_respects _ _ _ _
      (onClient_respects (PreparedStatement.run_respects _ _))).bind fun statement =>
      (remember_agree _ _ _).bind fun _ =>
        (capture_agree _ _ _ (by rfl)).bind fun _ => Respects.pure _

theorem rememberWrite_agree {builder builder' : Builder σ}
    (hs : builder.Alike earlier earlier' builder') (sql : String) (placeholders : Value.Entries)
    (statement : PreparedStatement) (insertId : Value) :
    Agree (Alike earlier earlier')
      (ExecutionResult.timeless <$> builder.rememberWrite sql placeholders statement insertId)
      (ExecutionResult.timeless <$>
        builder'.rememberWrite sql placeholders statement insertId) := by
  unfold rememberWrite
  simp only [map_bind, map_pure]
  rw [hs.descriptor, hs.debugMode]
  exact (remember_agree _ _ _).bind fun _ => (capture_agree _ _ _ (by rfl)).bind fun _ =>
    Respects.pure _

theorem executeStatement_respects :
    Respects (Alike earlier earlier')
      (ExecutionResult.timeless <$> executeStatement : Action (Builder σ) ExecutionResult) := by
  unfold executeStatement
  simp only [map_bind]
  refine Agree.get_bind fun builder builder' hs => ?_
  rw [hs.sql, hs.placeholders, hs.descriptor, hs.debugMode]
  refine (Respects.ofAttempt _).bind fun sql => (Respects.ofAttempt _).bind fun placeholders => ?_
  rw [hs.ownsTransaction, hs.dialect]
  split
  · exact (captureOnly_respects _ _ _ _).map _
  · simp only [map_bind]
    refine (guarded_respects _ _ _ _
      (scope_respects _ (sendWrite_respects _ _ _ _))).bind fun written => ?_
    exact rememberWrite_agree hs _ _ _ _

theorem execute_respects :
    Respects (Alike earlier earlier')
      (ExecutionResult.timeless <$> execute : Action (Builder σ) ExecutionResult) := by
  unfold execute
  simp only [map_bind]
  refine Agree.get_bind fun builder builder' hs => ?_
  rw [hs.descriptor]
  split
  · exact executeQuery_respects
  · exact executeStatement_respects

/-! ## Fetching -/

theorem fetchWith_respects (nothing : α)
    (fetch : PreparedStatement → Attempt α × PreparedStatement) :
    Respects (Alike earlier earlier') (fetchWith nothing fetch : Action (Builder σ) α) := by
  refine Agree.get_bind fun builder builder' hs => ?_
  rw [hs.result]
  split
  · exact Respects.pure _
  · exact Agree.bind (Agree.modify fun _ _ h => ⟨h.client, h.standing, rfl⟩) fun _ =>
      Respects.ofAttempt _

theorem fetch_respects (mode : FetchMode) :
    Respects (Alike earlier earlier') (fetch mode : Action (Builder σ) Value) := by
  refine Agree.get_bind fun builder builder' hs => ?_
  dsimp only
  rw [hs.client.foldCase]
  exact fetchWith_respects _ _

theorem fetchAll_respects (mode : FetchMode) :
    Respects (Alike earlier earlier') (fetchAll mode : Action (Builder σ) (List Value)) := by
  refine Agree.get_bind fun builder builder' hs => ?_
  dsimp only
  rw [hs.client.foldCase]
  exact fetchWith_respects _ _

end Builder

end SqlToolkit
