import SqlToolkit.Proofs.Builder.Bookkeeping

/-!
# What happens to a statement that is being composed

Running a statement leaves the composed one as it is, and so does everything that is done with the
client. Setters change the part that they set. Of all that neither starts a statement nor sets a
condition, a *continuation*, nothing changes the kind of the statement or its condition.
-/

namespace SqlToolkit.Builder

open SqlToolkit.Action (Keeps)

variable {σ : Type}

@[simp] theorem outcome_clear (builder : Builder σ) : clear.outcome builder = .ok ⟨⟩ := rfl

@[simp] theorem outcome_edit (change : Descriptor → Descriptor) (builder : Builder σ) :
    (edit change).outcome builder = .ok () := rfl

@[simp] theorem after_edit (change : Descriptor → Descriptor) (builder : Builder σ) :
    (edit change).after builder =
      { builder with descriptor := change builder.descriptor } := rfl

/-! ## Running -/

theorem Detached.onClient_leaves {T α : Type} {view : Builder σ → T} (h : Detached view)
    (action : Action (Client σ) α) : Keeps Eq view (onClient action) :=
  fun builder => by
    unfold onClient
    rw [Action.after_on]
    exact (h.client builder _).symm

theorem onClient_leavesDescriptor {α : Type} (action : Action (Client σ) α) :
    LeavesDescriptor (onClient action) :=
  fun builder => congrArg Standing.descriptor (standing_detached.onClient_leaves action builder)

variable [Connection σ]

/-- A guard keeps what its body keeps and no action of the client changes. -/
theorem scope_keeps {T α : Type} {R : T → T → Prop} [IsPreorder T R] {view : Builder σ → T}
    (hclient : ∀ action : Action (Client σ) Unit, Keeps R view (onClient action)) {owned : Bool}
    {body : Action (Builder σ) (α × Bool)} (h : Keeps R view body) :
    Keeps R view (transactionScope Part.whole owned body) := by
  have abandoned : Keeps R view (abandon owned : Action (Builder σ) Unit) := by
    refine Keeps.get.bind fun builder => ?_
    split
    · exact hclient _
    · exact Keeps.pure _
  have concluded : ∀ rollbackOnly,
      Keeps R view (conclude owned rollbackOnly : Action (Builder σ) Unit) := by
    intro rollbackOnly
    unfold conclude
    split
    · exact hclient _
    · exact Keeps.pure _
  unfold transactionScope
  simp only [Action.on_whole]
  -- owned or not, the body runs next; how it ended decides what follows
  split
  case' isTrue => refine (hclient _).bind fun _ => ?_
  all_goals
    refine h.attempt.bind fun given => ?_
    split
    · exact abandoned.bind fun _ => Keeps.throw _
    · exact (concluded _).bind fun _ => Keeps.pure _

section Detached

variable {T : Type} {view : Builder σ → T}

/-- A write inside its guard works on the client alone. -/
theorem Detached.scope_leaves (h : Detached view) (owned : Bool) (sql : String)
    (placeholders : Value.Entries) (wantsId rollbackOnly : Bool) :
    Keeps Eq view (transactionScope Part.whole owned
      (sendWrite sql placeholders wantsId rollbackOnly)) :=
  scope_keeps h.onClient_leaves ((h.onClient_leaves _).bind fun _ =>
    Keeps.get.bind fun _ => Keeps.pure _)

theorem Detached.countAgain_leaves (h : Detached view) (sql : String)
    (placeholders : Value.Entries) : Keeps Eq view (countAgain sql placeholders) :=
  Keeps.get.bind fun _ => h.guarded_leaves ((h.onClient_leaves _).bind fun _ =>
    (Keeps.ofAttempt _).bind fun _ => Keeps.pure _)

theorem Detached.runProbe_leaves (h : Detached view) (probe : String)
    (placeholders : Value.Entries) : Keeps Eq view (runProbe probe placeholders) :=
  (h.onClient_leaves _).bind fun _ => Keeps.get.bind fun _ => Keeps.ofAttempt _

theorem Detached.countRead_leaves (h : Detached view) (sql : String)
    (placeholders : Value.Entries) : Keeps Eq view (countRead sql placeholders) := by
  refine Keeps.get.bind fun builder => ?_
  split
  · exact h.countAgain_leaves sql placeholders
  · refine (h.runProbe_leaves _ _).attempt.bind fun row => ?_
    split
    · exact (h.capture_leaves _ _ _ _).bind fun _ => Keeps.ofAttempt _
    · split
      · exact Keeps.throw _
      · exact (h.note_leaves _).bind fun _ => h.countAgain_leaves sql placeholders

/-- Counting the rows runs statements of its own and remembers none of them. -/
theorem Detached.numRows_leaves (h : Detached view) : Keeps Eq view numRows := by
  refine Keeps.get.bind fun builder => ?_
  dsimp only
  split
  · exact Keeps.throw _
  · split
    · exact h.countRead_leaves _ _
    · exact Keeps.pure _

end Detached

theorem executeStatement_fading :
    Fading (executeStatement : Action (Builder σ) ExecutionResult) := by
  refine Keeps.get.bind fun builder => (Keeps.ofAttempt _).bind fun sql =>
    (Keeps.ofAttempt _).bind fun placeholders => ?_
  dsimp only
  split
  · exact (captureOnly_quiet _ _ _ _).fading
  · exact (Keeps.of_eq (standing_detached.guarded_leaves
      (standing_detached.scope_leaves _ _ _ _ _))).bind fun _ =>
        (rememberWrite_quiet _ _ _ _ _).fading

theorem executeQuery_fading : Fading (executeQuery : Action (Builder σ) ExecutionResult) :=
  Keeps.get.bind fun _ =>
    (Keeps.ofAttempt _).bind fun _ =>
      (Keeps.ofAttempt _).bind fun _ =>
        (Keeps.of_eq (standing_detached.guarded_leaves
          (standing_detached.onClient_leaves _))).bind fun _ =>
          (remember_quiet _ _).fading.bind fun _ =>
            (capture_silent _ _ _ _).quiet.fading.bind fun _ => Keeps.pure _

theorem execute_fading : Fading (execute : Action (Builder σ) ExecutionResult) := by
  refine Keeps.get.bind fun builder => ?_
  split
  · exact executeQuery_fading
  · exact executeStatement_fading

theorem numRows_fading : Fading (numRows : Action (Builder σ) Int) :=
  Keeps.of_eq standing_detached.numRows_leaves

/-! ## Continuations -/

/-- What may be done with a builder besides starting a statement and setting its condition. -/
inductive Continuation (σ : Type) where
  | fromTable (table : Value)
  | distinct (flag : Value)
  | groupBy (grouping : Value)
  | orderBy (order : Value)
  | limit (bounds : Value)
  | setParameters (settings : Value)
  | addPlaceholders (placeholders : Value)
  | setDebugOnce (mode : Value)
  | setDebug (mode : Value)
  | execute
  | executeQuery
  | executeStatement
  | numRows
  | fetch (mode : FetchMode)
  | fetchAll (mode : FetchMode)
  | dropResult
  | forgetEntries
  | onClient (action : Action (Client σ) Unit)

def Continuation.run : Continuation σ → Action (Builder σ) Unit
  | .fromTable table => Builder.fromTable table
  | .distinct flag => Builder.distinct flag
  | .groupBy grouping => Builder.groupBy grouping
  | .orderBy order => Builder.orderBy order
  | .limit bounds => Builder.limit bounds
  | .setParameters settings => Builder.setParameters settings
  | .addPlaceholders placeholders => Builder.addPlaceholders placeholders
  | .setDebugOnce mode => Builder.setDebugOnce mode
  | .setDebug mode => Builder.setDebug mode
  | .execute => do let _ ← Builder.execute
  | .executeQuery => do let _ ← Builder.executeQuery
  | .executeStatement => do let _ ← Builder.executeStatement
  | .numRows => do let _ ← Builder.numRows
  | .fetch mode => do let _ ← Builder.fetch mode
  | .fetchAll mode => do let _ ← Builder.fetchAll mode
  | .dropResult => Builder.dropResult
  | .forgetEntries => Builder.forgetEntries
  | .onClient action => Builder.onClient action

section View

variable {T : Type} (view : Descriptor → T)

omit [Connection σ] in
theorem view_of_leavesDescriptor {α : Type} {action : Action (Builder σ) α}
    (h : LeavesDescriptor action) :
    Keeps Eq (fun builder : Builder σ => view builder.descriptor) action :=
  fun builder => congrArg view (h builder)

omit [Connection σ] in
theorem view_of_discarded {α : Type} {action : Action (Builder σ) α}
    (h : LeavesDescriptor action) :
    Keeps Eq (fun builder : Builder σ => view builder.descriptor)
      (do let _ ← action : Action (Builder σ) Unit) :=
  (view_of_leavesDescriptor view h).bind fun _ => Keeps.pure _

variable {view}

omit [Connection σ] in
theorem edit_view {change : Descriptor → Descriptor} (h : ∀ d, view (change d) = view d) :
    Keeps Eq (fun builder : Builder σ => view builder.descriptor) (edit change) :=
  Keeps.modify fun builder => h builder.descriptor

omit [Connection σ] in
theorem editParameters_view (h : ∀ d parameters, view { d with parameters } = view d)
    (change : Parameters → Parameters) :
    Keeps Eq (fun builder : Builder σ => view builder.descriptor) (editParameters change) :=
  edit_view fun d => h d (change d.parameters)

variable (view)

omit [Connection σ] in
theorem fromTable_view (h : ∀ d table, view { d with table } = view d) (table : Value) :
    Keeps Eq (fun builder : Builder σ => view builder.descriptor) (fromTable table) :=
  (Keeps.ofAttempt _).bind fun table => edit_view fun d => h d table

/-- What a continuation changes in a statement is its parameters or, if it sets the table or adds
values for markers, those. -/
theorem Continuation.run_view_of (operation : Continuation σ)
    (htable : ∀ given, operation = .fromTable given → ∀ d table, view { d with table } = view d)
    (hparameters : ∀ d parameters, view { d with parameters } = view d)
    (hplaceholders : ∀ given, operation = .addPlaceholders given →
      ∀ d placeholders, view { d with placeholders } = view d) :
    Keeps Eq (fun builder : Builder σ => view builder.descriptor) operation.run := by
  cases operation with
  | fromTable table => exact fromTable_view view (htable table rfl) table
  | distinct flag => exact editParameters_view hparameters ({ · with selectDistinct := flag })
  | groupBy grouping => exact editParameters_view hparameters ({ · with groupBy := grouping })
  | orderBy order => exact editParameters_view hparameters ({ · with orderBy := order })
  | limit bounds =>
    exact (Keeps.ofAttempt _).bind fun _ => editParameters_view hparameters _
  | setParameters settings =>
    exact (Keeps.ofAttempt _).bind fun _ => (Keeps.ofAttempt _).bind fun _ =>
      Keeps.get.bind fun _ => (editParameters_view hparameters _).bind fun _ => Keeps.ofAttempt _
  | addPlaceholders given =>
    exact (Keeps.ofAttempt _).bind fun _ => edit_view fun d => hplaceholders given rfl d _
  | setDebugOnce mode => exact (Keeps.ofAttempt _).bind fun _ => Keeps.modify fun _ => rfl
  | setDebug mode => exact (Keeps.ofAttempt _).bind fun _ => Keeps.modify fun _ => rfl
  | execute => exact view_of_discarded view execute_fading.leavesDescriptor
  | executeQuery => exact view_of_discarded view executeQuery_fading.leavesDescriptor
  | executeStatement => exact view_of_discarded view executeStatement_fading.leavesDescriptor
  | numRows => exact view_of_discarded view numRows_fading.leavesDescriptor
  | fetch mode => exact view_of_discarded view (fetch_silent mode).leavesDescriptor
  | fetchAll mode => exact view_of_discarded view (fetchAll_silent mode).leavesDescriptor
  | dropResult => exact Keeps.modify fun _ => rfl
  | forgetEntries => exact Keeps.modify fun _ => rfl
  | onClient action => exact view_of_leavesDescriptor view (onClient_leavesDescriptor action)

/-- What a continuation changes in a statement is its table, its parameters or, if values for
markers are added, those. -/
theorem Continuation.run_view (operation : Continuation σ)
    (htable : ∀ d table, view { d with table } = view d)
    (hparameters : ∀ d parameters, view { d with parameters } = view d)
    (hplaceholders : ∀ given, operation = .addPlaceholders given →
      ∀ d placeholders, view { d with placeholders } = view d) :
    Keeps Eq (fun builder : Builder σ => view builder.descriptor) operation.run :=
  operation.run_view_of view (fun _ _ => htable) hparameters hplaceholders

end View

/-- The kind and the condition of the statement being composed. -/
def aim (builder : Builder σ) : QueryKind × Condition.Clause :=
  (builder.descriptor.kind, builder.descriptor.clause)

/-- A continuation changes neither the kind of the statement nor its condition. -/
theorem Continuation.run_aim (operation : Continuation σ) :
    Keeps Eq aim (operation.run : Action (Builder σ) Unit) :=
  operation.run_view (fun d => (d.kind, d.clause)) (fun _ _ => rfl) (fun _ _ => rfl)
    fun _ _ _ _ => rfl

end SqlToolkit.Builder
