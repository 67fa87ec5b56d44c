import SqlToolkit.Connection.Scripted
import SqlToolkit.Proofs.Builder.Alike
import SqlToolkit.Proofs.Builder.Operation

/-!
# Starting a statement forgets the past

Whatever was done with a builder before, once a statement is started nothing of it shows. Two
builders in the same setting are alike as soon as both start the same statement, also if the start
is refused, and stay alike. What still tells of the past is the number of rows of the statement
executed last, which a builder can be asked for at any time.
-/

namespace SqlToolkit.Builder

open SqlToolkit.Action (Agree EndAlike Keeps Respects)

variable {σ : Type} [Connection σ] {α β : Type}

/-- What two builders have in common that have the same dialect and the same default debug mode and
work on the same connection, whatever was done with them before. -/
structure SameSetting (builder builder' : Builder σ) : Prop where
  client : builder.client.SameSetting builder'.client
  dialect : builder.dialect = builder'.dialect
  debugDefault : builder.debugDefault = builder'.debugDefault

variable {earlier earlier' : List Call} {builder builder' : Builder σ}

theorem Alike.sameSetting (h : builder.Alike earlier earlier' builder') :
    builder.SameSetting builder' :=
  ⟨h.client.toSameSetting, h.dialect, congrArg Standing.debugDefault h.standing⟩

/-- Builders that are alike go on being so from here. -/
theorem Alike.fromHere (h : builder.Alike earlier earlier' builder') :
    builder.Alike builder.client.calls builder'.client.calls builder' :=
  ⟨h.client.toSameSetting.alike, h.standing, h.result⟩

/-! ## Entry points -/

/-- Done with builders in the same setting, the action makes them alike. -/
def Forgets (action : Action (Builder σ) α) : Prop :=
  ∀ builder builder' : Builder σ, builder.SameSetting builder' →
    EndAlike (Alike builder.client.calls builder'.client.calls) action action builder builder'

theorem Forgets.bind {action : Action (Builder σ) α} {next : α → Action (Builder σ) β}
    (h : Forgets action)
    (hn : ∀ earlier earlier' result, Respects (Alike earlier earlier') (next result)) :
    Forgets (action >>= next) := by
  intro builder builder' hs
  have hfirst := h builder builder' hs
  exact hfirst.bind fun result _ _ => hn _ _ result _ _ hfirst.after

theorem Forgets.map (f : α → β) {action : Action (Builder σ) α} (h : Forgets action) :
    Forgets (f <$> action) := by
  rw [map_eq_pure_bind]
  exact h.bind fun _ _ _ => Respects.pure _

theorem clear_forgets : Forgets (clear : Action (Builder σ) Unit) := by
  intro builder builder' hs
  have hstanding : (cleared builder).standing = (cleared builder').standing := by
    unfold cleared standing
    rw [hs.dialect, hs.debugDefault]
  exact ⟨rfl, hs.client.alike, hstanding, rfl⟩

theorem Starting.forgets {action : Action (Builder σ) α} (h : Starting action) :
    Forgets action := by
  obtain ⟨rest, hrest, rfl⟩ := h
  exact clear_forgets.bind fun _ _ _ => hrest.respects

theorem maximum_forgets {column : Value} (h : column.isWritable = true) (table : Value) :
    Forgets (maximum table column : Action (Builder σ) Value) := by
  rw [maximum_eq]
  refine (askMaximum_starting h table).forgets.bind fun _ _ _ => ?_
  rw [← bind_map_left ExecutionResult.timeless executeQuery fun _ => firstColumn <$> fetch .num]
  exact executeQuery_respects.bind fun _ => (fetch_respects .num).map _

/-- A search that is refused makes nothing alike, and nothing different. -/
theorem maximum_respects {column : Value} (h : column.isWritable = false) (table : Value) :
    Respects (Alike earlier earlier') (maximum table column : Action (Builder σ) Value) := by
  rw [maximum_eq, askMaximum_of_not_isWritable h]
  exact Respects.throw _

/-! ## Operations -/

/-- What an operation gives back: nothing, what an execution tells but for the time it took, or what
was fetched. -/
inductive Answer where
  | done
  | executed (result : ExecutionResult)
  | value (given : Value)
  | values (given : List Value)

def Operation.answer : Operation σ → Action (Builder σ) Answer
  | .maximum table column => .value <$> Builder.maximum table column
  | .continued .execute => .executed <$> ExecutionResult.timeless <$> Builder.execute
  | .continued .executeQuery => .executed <$> ExecutionResult.timeless <$> Builder.executeQuery
  | .continued .executeStatement =>
    .executed <$> ExecutionResult.timeless <$> Builder.executeStatement
  | .continued (.fetch mode) => .value <$> Builder.fetch mode
  | .continued (.fetchAll mode) => .values <$> Builder.fetchAll mode
  | operation => (fun _ => .done) <$> operation.run

/-- Nothing is lost of an operation that is performed for what it gives back. -/
theorem Operation.after_answer (operation : Operation σ) (builder : Builder σ) :
    operation.answer.after builder = operation.run.after builder := by
  cases operation with
  | maximum => rw [Operation.run, Action.after_discard]; exact Action.after_map _ _ _
  | continued operation =>
    cases operation with
    | execute | executeQuery | executeStatement =>
      simp only [Operation.answer, Operation.run, Continuation.run, Action.after_map,
        Action.after_discard]
    | fetch | fetchAll =>
      simp only [Operation.answer, Operation.run, Continuation.run, Action.after_map,
        Action.after_discard]
    | _ => exact Action.after_map _ _ _
  | _ => exact Action.after_map _ _ _

/-- The operation starts a new statement. The search for a greatest value does so if its column can
be written. -/
def Operation.Starts : Operation σ → Prop
  | .filter _ | .continued _ => False
  | .maximum _ column => column.isWritable = true
  | _ => True

/-- The operation does not count the rows of the statement executed last, and leaves the client
alone but for executing. -/
def Operation.Onward : Operation σ → Prop
  | .continued .numRows | .continued (.onClient _) => False
  | _ => True

theorem Operation.answer_forgets {operation : Operation σ} (h : operation.Starts) :
    Forgets operation.answer := by
  cases operation with
  | clear => exact clear_starting.forgets.map _
  | rawQuery sql => exact (rawQuery_starting sql).forgets.map _
  | select fields => exact (select_starting fields).forgets.map _
  | insert table values => exact (insert_starting table values).forgets.map _
  | update table values condition => exact (update_starting table values condition).forgets.map _
  | delete table condition => exact (delete_starting table condition).forgets.map _
  | maximum table column => exact (maximum_forgets h table).map _
  | filter | continued => exact h.elim

theorem Continuation.answer_respects {operation : Continuation σ}
    (h : Operation.Onward (.continued operation)) :
    Respects (Alike earlier earlier') (Operation.answer (.continued operation)) := by
  cases operation with
  | fromTable table => exact (fromTable_composing table).respects.map _
  | distinct flag =>
    exact (editParameters_composing ({ · with selectDistinct := flag })).respects.map _
  | groupBy grouping =>
    exact (editParameters_composing ({ · with groupBy := grouping })).respects.map _
  | orderBy order => exact (editParameters_composing ({ · with orderBy := order })).respects.map _
  | limit bounds => exact (limit_composing bounds).respects.map _
  | setParameters settings => exact (setParameters_composing settings).respects.map _
  | addPlaceholders given => exact (addPlaceholders_composing given).respects.map _
  | setDebugOnce mode => exact (setDebugOnce_respects mode).map _
  | setDebug mode => exact (setDebug_respects mode).map _
  | execute => exact execute_respects.map _
  | executeQuery => exact executeQuery_respects.map _
  | executeStatement => exact executeStatement_respects.map _
  | fetch mode => exact (fetch_respects mode).map _
  | fetchAll mode => exact (fetchAll_respects mode).map _
  | dropResult =>
    exact Agree.map _ (Agree.modify fun _ _ hs => ⟨hs.client, hs.standing, rfl⟩)
  | forgetEntries => exact Agree.map _ (unseen_agree (fun _ => rfl) fun _ => rfl)
  | numRows | onClient => exact h.elim

/-- Done with builders that are alike, an operation ends alike, and the builders stay so. -/
theorem Operation.answer_alike {operation : Operation σ} (h : operation.Onward)
    (hs : builder.Alike builder.client.calls builder'.client.calls builder') :
    EndAlike (Alike builder.client.calls builder'.client.calls) operation.answer operation.answer
      builder builder' := by
  cases operation with
  | filter condition => exact (filter_composing condition).respects.map _ builder builder' hs
  | continued operation => exact Continuation.answer_respects h builder builder' hs
  | maximum table column =>
    cases hwritable : column.isWritable with
    | true =>
      have hstarts : (Operation.maximum table column : Operation σ).Starts := hwritable
      exact Operation.answer_forgets hstarts builder builder' hs.sameSetting
    | false => exact (maximum_respects hwritable table).map _ builder builder' hs
  | _ =>
    refine Operation.answer_forgets ?_ builder builder' hs.sameSetting
    trivial

/-! ## What shows -/

/-- What shows of an operation: how it ended and what it gave back, the SQL and the values of the
statement as they are then, and the calls that it made. -/
structure Observation where
  outcome : Attempt Answer
  written : Attempt Value
  placeholders : Attempt Value.Entries
  calls : List Call

def Operation.observe (operation : Operation σ) (builder : Builder σ) : Observation :=
  let left := operation.run.after builder
  { outcome := operation.answer.outcome builder
    written := left.written
    placeholders := left.placeholders
    calls := left.client.calls.drop builder.client.calls.length }

/-- What shows of some operations, whether they return or fail. -/
def observed (builder : Builder σ) : List (Operation σ) → List Observation
  | [] => []
  | operation :: rest => operation.observe builder :: (operation.run.after builder).observed rest

theorem Alike.written (h : builder.Alike earlier earlier' builder') :
    builder.written = builder'.written := by
  unfold Builder.written
  rw [h.descriptor, h.sql]

theorem Operation.observe_eq {operation : Operation σ}
    (h : EndAlike (Alike builder.client.calls builder'.client.calls) operation.answer
      operation.answer builder builder') :
    operation.observe builder = operation.observe builder' := by
  have hs := h.after
  rw [operation.after_answer, operation.after_answer] at hs
  obtain ⟨made, hmade, hmade'⟩ := hs.client.calls
  unfold Operation.observe
  dsimp only
  rw [h.outcome, hs.written, hs.placeholders, hmade, hmade', List.drop_left, List.drop_left]

/-- Whatever is done next with builders that are alike, they show the same. -/
theorem observed_eq {later : List (Operation σ)} (hl : ∀ operation ∈ later, operation.Onward)
    (hs : builder.Alike earlier earlier' builder') :
    builder.observed later = builder'.observed later := by
  induction later generalizing builder builder' earlier earlier' with
  | nil => rfl
  | cons operation rest ih =>
    obtain ⟨hfirst, hrest⟩ := List.forall_mem_cons.mp hl
    have hend := Operation.answer_alike hfirst hs.fromHere
    have hnext := hend.after
    rw [operation.after_answer, operation.after_answer] at hnext
    unfold observed
    rw [Operation.observe_eq hend, ih hrest hnext]

/-- **Starting a statement forgets the past.** Let two builders have the same dialect and the same
default debug mode, and let their clients have the same settings and connections that answer alike
from now on; all else may differ, and with it all that was done with the builders before. If both
are given the same operations, and the first of them starts a statement, then all of these show the
same: results, rows and faults, the SQL and the values of the statement after each of them, and the
calls on the connection. -/
theorem started_statement_forgets_past (h : builder.SameSetting builder') {entry : Operation σ}
    (he : entry.Starts) {later : List (Operation σ)}
    (hl : ∀ operation ∈ later, operation.Onward) :
    builder.observed (entry :: later) = builder'.observed (entry :: later) := by
  have hend := Operation.answer_forgets he builder builder' h
  have hnext := hend.after
  rw [entry.after_answer, entry.after_answer] at hnext
  unfold observed
  rw [Operation.observe_eq hend, observed_eq hl hnext]

/-- A DELETE was executed, and another one was begun with values and a mode of its own. -/
def abandonedDelete : Builder Scripted :=
  onScript.performed
    [.delete (.text "t") .null, .continued .execute, .delete (.text "u") (.text "a = 1"),
      .continued (.addPlaceholders (.map [(.text "x", .int 2)])),
      .continued (.setDebugOnce (.text "silent"))]

theorem started_statement_forgets_past_abandonedDelete :
    let next : List (Operation Scripted) := [.continued .execute]
    abandonedDelete.SameSetting onScript ∧
      abandonedDelete.client.calls = [.execute "DELETE FROM t" none, .commit] ∧
      abandonedDelete.debugMode = .silent ∧
      Operation.Starts (.delete (σ := Scripted) (.text "v") .null) ∧
      (∀ operation ∈ next, operation.Onward) ∧
      abandonedDelete.observed (.delete (.text "v") .null :: next) =
        onScript.observed (.delete (.text "v") .null :: next) ∧
      (onScript.observed (.delete (.text "v") .null :: next)).map Observation.calls =
        [[], [.execute "DELETE FROM v" none, .commit]] := by
  intro next
  have hconnection : abandonedDelete.client.connection = onScript.client.connection := by rfl
  have hsetting : abandonedDelete.SameSetting onScript := by
    refine ⟨⟨?_, rfl, rfl, rfl⟩, rfl, rfl⟩
    rw [hconnection]
    exact Connection.AnswersAlike.refl _
  have hnext : ∀ operation ∈ next, operation.Onward := by
    intro operation hmem
    rw [List.mem_singleton.mp hmem]
    trivial
  have hstarts : Operation.Starts (.delete (σ := Scripted) (.text "v") .null) := trivial
  exact ⟨hsetting, rfl, rfl, hstarts, hnext,
    started_statement_forgets_past hsetting hstarts hnext, rfl⟩

end SqlToolkit.Builder
