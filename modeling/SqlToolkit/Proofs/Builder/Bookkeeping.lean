import SqlToolkit.Builder.Results
import SqlToolkit.Proofs.Action

/-!
# Bookkeeping

Capturing, logging, remembering and fetching work on what was run before. None of it makes a call on
the connection, touches the statement being composed or sets a debug mode, whatever it refuses; all
that remembering a statement does is to use up the mode for one execution. So what an action did
stands when its fault is turned into an execution fault.
-/

namespace SqlToolkit.Builder

open SqlToolkit.Action (Keeps)

variable {σ : Type}

/-! ## What is left alone -/

abbrev LeavesClient {α : Type} (action : Action (Builder σ) α) : Prop :=
  Keeps Eq Builder.client action

abbrev LeavesDescriptor {α : Type} (action : Action (Builder σ) α) : Prop :=
  Keeps Eq Builder.descriptor action

/-- What decides how the next statement is executed, apart from the client. -/
structure Standing where
  dialect : Dialect
  debugDefault : DebugMode
  debugOnce : Option DebugMode
  descriptor : Descriptor

def standing (builder : Builder σ) : Standing :=
  ⟨builder.dialect, builder.debugDefault, builder.debugOnce, builder.descriptor⟩

theorem debugMode_of_standing {builder builder' : Builder σ}
    (h : builder.standing = builder'.standing) : builder.debugMode = builder'.debugMode := by
  have hdefault : builder.debugDefault = builder'.debugDefault :=
    congrArg Standing.debugDefault h
  have honce : builder.debugOnce = builder'.debugOnce := congrArg Standing.debugOnce h
  unfold debugMode
  rw [hdefault, honce]

/-- The same, except that the debug mode for one execution may have been used up. -/
def Standing.Fades (before after : Standing) : Prop :=
  after = before ∨ after = { before with debugOnce := none }

instance : IsPreorder Standing Standing.Fades where
  refl _ := .inl rfl
  trans first second third h h' := by
    rcases h with rfl | rfl
    · exact h'
    · rcases h' with rfl | rfl
      · exact .inr rfl
      · exact .inr rfl

theorem Standing.Fades.dialect_eq {before after : Standing} (h : before.Fades after) :
    after.dialect = before.dialect := by
  rcases h with rfl | rfl
  · rfl
  · rfl

theorem Standing.Fades.debugDefault_eq {before after : Standing} (h : before.Fades after) :
    after.debugDefault = before.debugDefault := by
  rcases h with rfl | rfl
  · rfl
  · rfl

theorem Standing.Fades.descriptor_eq {before after : Standing} (h : before.Fades after) :
    after.descriptor = before.descriptor := by
  rcases h with rfl | rfl
  · rfl
  · rfl

/-- An action that runs statements or works on what was run. -/
abbrev Fading {α : Type} (action : Action (Builder σ) α) : Prop :=
  Keeps Standing.Fades standing action

theorem Fading.leavesDescriptor {α : Type} {action : Action (Builder σ) α} (h : Fading action) :
    LeavesDescriptor action :=
  fun builder => (h builder).descriptor_eq.symm

theorem Fading.leavesDialect {α : Type} {action : Action (Builder σ) α} (h : Fading action) :
    Keeps Eq Builder.dialect action :=
  fun builder => (h builder).dialect_eq.symm

/-- The client and all that decides about the next execution are the same after the action. -/
abbrev Silent {α : Type} (action : Action (Builder σ) α) : Prop :=
  Keeps Eq (fun builder : Builder σ => (builder.client, builder.standing)) action

theorem Silent.leavesClient {α : Type} {action : Action (Builder σ) α} (h : Silent action) :
    LeavesClient action :=
  fun builder => congrArg Prod.fst (h builder)

theorem Silent.leavesStanding {α : Type} {action : Action (Builder σ) α} (h : Silent action) :
    Keeps Eq standing action :=
  fun builder => congrArg Prod.snd (h builder)

theorem Silent.leavesDescriptor {α : Type} {action : Action (Builder σ) α} (h : Silent action) :
    LeavesDescriptor action :=
  fun builder => congrArg Standing.descriptor (h.leavesStanding builder)

/-- The client is the same after the action, and the debug mode for one execution may have been
used up. -/
structure Quiet {α : Type} (action : Action (Builder σ) α) : Prop where
  leavesClient : LeavesClient action
  fading : Fading action

theorem Silent.quiet {α : Type} {action : Action (Builder σ) α} (h : Silent action) :
    Quiet action :=
  ⟨h.leavesClient, Keeps.of_eq h.leavesStanding⟩

theorem Quiet.bind {α β : Type} {action : Action (Builder σ) α} {next : α → Action (Builder σ) β}
    (h : Quiet action) (hn : ∀ result, Quiet (next result)) : Quiet (action >>= next) :=
  ⟨h.leavesClient.bind fun result => (hn result).leavesClient,
    h.fading.bind fun result => (hn result).fading⟩

/-! ## Capturing and remembering -/

theorem note_silent (event : LogEvent) : Silent (note event : Action (Builder σ) Unit) :=
  Keeps.modify fun _ => rfl

theorem capture_silent (mode : DebugMode) (sql : String) (placeholders : Value.Entries)
    (entry : DebugEntry) :
    Silent (capture mode sql placeholders entry : Action (Builder σ) Unit) := by
  unfold capture
  split
  · refine (Keeps.ofAttempt _).bind fun shown => ?_
    refine Keeps.bind (Keeps.modify fun _ => rfl) fun _ => ?_
    split
    · split
      · exact (Keeps.throw _).bind fun _ => note_silent _
      · exact note_silent _
    · exact Keeps.pure _
  · exact Keeps.pure _

theorem executionFault_silent (kind : QueryKind) (mode : DebugMode) (sql : String)
    (placeholders : Value.Entries) (reason : String) :
    Silent (executionFault kind mode sql placeholders reason : Action (Builder σ) Fault) :=
  (Keeps.ofAttempt _).bind fun _ =>
    (note_silent _).bind fun _ =>
      Keeps.get.bind fun _ => (capture_silent _ _ _ _).bind fun _ => Keeps.pure _

theorem remember_quiet (statement : PreparedStatement) (last : LastRun) :
    Quiet (remember statement last : Action (Builder σ) Unit) :=
  ⟨Keeps.modify fun _ => rfl, fun _ => .inr rfl⟩

theorem captureOnly_quiet (kind : QueryKind) (mode : DebugMode) (sql : String)
    (placeholders : Value.Entries) :
    Quiet (captureOnly kind mode sql placeholders : Action (Builder σ) ExecutionResult) :=
  (capture_silent _ _ _ _).quiet.bind fun _ =>
    Quiet.bind ⟨Keeps.modify fun _ => rfl, fun _ => .inr rfl⟩ fun _ =>
      Silent.quiet (Keeps.pure _)

theorem rememberWrite_quiet [Connection σ] (builder : Builder σ) (sql : String)
    (placeholders : Value.Entries)
    (statement : PreparedStatement) (insertId : Value) :
    Quiet (builder.rememberWrite sql placeholders statement insertId) :=
  (remember_quiet _ _).bind fun _ =>
    (capture_silent _ _ _ _).quiet.bind fun _ => Silent.quiet (Keeps.pure _)

/-! ## Guarded actions -/

/-- What a guarded action did stands, whatever becomes of its fault. -/
theorem guarded_silent {α : Type} (kind : QueryKind) (mode : DebugMode) (sql : String)
    (placeholders : Value.Entries) (action : Action (Builder σ) α) (builder : Builder σ) :
    let final := (guarded kind mode sql placeholders action).after builder
    (final.client, final.standing) =
      ((action.after builder).client, (action.after builder).standing) := by
  unfold guarded
  rw [Action.after_bind_ok (Action.outcome_attempt _ _), Action.attempt_after]
  cases action.outcome builder with
  | ok result => rfl
  | error fault =>
    have turned : Silent (do
        throw (← executionFault kind mode sql placeholders fault.message) : Action (Builder σ) α) :=
      (executionFault_silent _ _ _ _ _).bind fun raised => Keeps.throw raised
    dsimp only
    split
    · rfl
    · exact (turned (action.after builder)).symm

theorem guarded_client {α : Type} (kind : QueryKind) (mode : DebugMode) (sql : String)
    (placeholders : Value.Entries) (action : Action (Builder σ) α) (builder : Builder σ) :
    ((guarded kind mode sql placeholders action).after builder).client =
      (action.after builder).client :=
  congrArg Prod.fst (guarded_silent kind mode sql placeholders action builder)

/-! ## Views without the client -/

/-- What is seen of a builder is neither its client nor what it captured or logged. -/
structure Detached {T : Type} (view : Builder σ → T) : Prop where
  client : ∀ builder client, view { builder with client } = view builder
  entries : ∀ builder entries, view { builder with entries } = view builder
  log : ∀ builder log, view { builder with log } = view builder

theorem standing_detached : Detached (standing : Builder σ → Standing) :=
  ⟨fun _ _ => rfl, fun _ _ => rfl, fun _ _ => rfl⟩

section Detached

variable {T : Type} {view : Builder σ → T}

theorem Detached.note_leaves (h : Detached view) (event : LogEvent) :
    Keeps Eq view (note event) :=
  Keeps.modify fun builder => h.log builder _

theorem Detached.capture_leaves (h : Detached view) (mode : DebugMode) (sql : String)
    (placeholders : Value.Entries) (entry : DebugEntry) :
    Keeps Eq view (capture mode sql placeholders entry) := by
  unfold capture
  split
  · refine (Keeps.ofAttempt _).bind fun shown =>
      Keeps.bind (Keeps.modify fun builder => h.entries builder _) fun _ => ?_
    split
    · split
      · exact (Keeps.throw _).bind fun _ => h.note_leaves _
      · exact h.note_leaves _
    · exact Keeps.pure _
  · exact Keeps.pure _

theorem Detached.guarded_leaves {α : Type} {kind : QueryKind} {mode : DebugMode} {sql : String}
    {placeholders : Value.Entries} {action : Action (Builder σ) α} (h : Detached view)
    (ha : Keeps Eq view action) : Keeps Eq view (guarded kind mode sql placeholders action) := by
  refine ha.attempt.bind fun given => ?_
  split
  · exact Keeps.pure _
  · split
    · exact Keeps.throw _
    · exact ((Keeps.ofAttempt _).bind fun _ => (h.note_leaves _).bind fun _ =>
        Keeps.get.bind fun _ => (h.capture_leaves _ _ _ _).bind fun _ =>
          Keeps.pure _).bind fun _ => Keeps.throw _

end Detached

/-! ## Fetching -/

section Fetching

variable {T : Type} {view : Builder σ → T}

/-- Fetching takes rows off the result, and does nothing else. -/
theorem fetchWith_leaves (h : ∀ builder result, view { builder with result } = view builder)
    {α : Type} (nothing : α) (fetch : PreparedStatement → Attempt α × PreparedStatement) :
    Keeps Eq view (fetchWith nothing fetch) := by
  refine Keeps.get.bind fun builder => ?_
  split
  · exact Keeps.pure _
  · exact Keeps.bind (Keeps.modify fun builder => h builder _) fun _ => Keeps.ofAttempt _

theorem fetch_leaves (h : ∀ builder result, view { builder with result } = view builder)
    (mode : FetchMode) : Keeps Eq view (fetch mode) :=
  Keeps.get.bind fun _ => fetchWith_leaves h _ _

theorem fetchAll_leaves (h : ∀ builder result, view { builder with result } = view builder)
    (mode : FetchMode) : Keeps Eq view (fetchAll mode) :=
  Keeps.get.bind fun _ => fetchWith_leaves h _ _

end Fetching

theorem fetch_silent (mode : FetchMode) : Silent (fetch mode : Action (Builder σ) Value) :=
  fetch_leaves (fun _ _ => rfl) mode

theorem fetchAll_silent (mode : FetchMode) :
    Silent (fetchAll mode : Action (Builder σ) (List Value)) :=
  fetchAll_leaves (fun _ _ => rfl) mode

end SqlToolkit.Builder
