import Mathlib.Data.List.Forall2
import SqlToolkit.Connection.Scripted
import SqlToolkit.Proofs.Builder.Compose
import SqlToolkit.Proofs.Builder.Rows

/-!
# Rows are handed over once and in order

A *ledger* is kept from outside: the rows that the connection answered to the execution completed
last, and the values that fetches have handed over since. Starting a statement begins an empty one.
What a builder still holds are the rows that the ledger shows as owed, so the values handed over are
an initial part of the rows and the next fetch goes on from there. There is one exception. The first
column of a row without columns is refused, but the rows that it was to be taken from are gone.
-/

namespace SqlToolkit

open SqlToolkit.Action (Keeps)

/-! ## Shapes of rows -/

/-- Every row has every shape, except that a row without columns has no first one. -/
theorem FetchMode.shape_eq_error {mode : FetchMode} {columns : List String} {row : List Value}
    {fault : Fault} (h : mode.shape columns row = .error fault) : mode = .column ∧ row = [] := by
  cases mode with
  | column =>
    cases row with
    | nil => exact ⟨rfl, rfl⟩
    | cons first rest => cases h
  | object | assoc | num => cases h

theorem forall₂_of_mapM {α β : Type} {f : α → Attempt β} {items : List α} {results : List β}
    (h : items.mapM f = .ok results) :
    List.Forall₂ (fun result item => f item = .ok result) results items := by
  induction items generalizing results with
  | nil => cases h; exact .nil
  | cons item rest ih =>
    rw [List.mapM_cons] at h
    cases hi : f item with
    | error fault => rw [hi] at h; cases h
    | ok first =>
      rw [hi] at h
      cases hr : rest.mapM f with
      | error fault => rw [hr] at h; cases h
      | ok others =>
        rw [hr] at h
        cases h
        exact .cons hi (ih hr)

theorem ok_of_mapM {α β : Type} {f : α → Attempt β} {items : List α} {results : List β}
    (h : items.mapM f = .ok results) {item : α} (hm : item ∈ items) :
    ∃ result, f item = .ok result := by
  have hall := forall₂_of_mapM h
  clear h
  induction hall with
  | nil => cases hm
  | cons hfirst _ ih =>
    rcases List.mem_cons.mp hm with rfl | hm
    · exact ⟨_, hfirst⟩
    · exact ih hm

namespace Listing

theorem all_num (listing : Listing) (fold : String → String) :
    listing.all fold .num = .ok (listing.rows.map .tuple) := by
  obtain ⟨columns, rows⟩ := listing
  show rows.mapM (fun row => (.ok (.tuple row) : Attempt Value)) = _
  induction rows with
  | nil => rfl
  | cons row rest ih => rw [List.mapM_cons, ih]; rfl

/-- What fetches give tells the rows apart. -/
theorem rows_eq_of_all_num {listing other : Listing} {fold : String → String}
    (h : listing.all fold .num = other.all fold .num) : listing.rows = other.rows := by
  rw [all_num, all_num] at h
  exact List.map_injective_iff.mpr (fun _ _ => Value.tuple.inj) (Except.ok.inj h)

theorem drop_drop (listing : Listing) (count more : Nat) :
    (listing.drop count).drop more = listing.drop (count + more) := by
  unfold drop
  rw [List.drop_drop]

end Listing

namespace Builder

variable {σ : Type}

variable [Connection σ]

/-! ## Completed executions -/

/-- What the connection answers to the current statement, if it is sent now and accepted. -/
def answer? (builder : Builder σ) : Option ResultSet :=
  match builder.request with
  | .ok (spelled, values) =>
    (Connection.execute spelled values builder.client.connection).1.toOption
  | .error _ => none

/-- A statement that was written, executed as a read or as a write, is run, and settled where that
is not left to an open transaction. -/
def runs (builder : Builder σ) (asRead : Bool) (sql : String) (placeholders : Value.Entries) :
    Bool :=
  if asRead then ((PreparedStatement.run sql placeholders).outcome builder.client).isOk
  else !builder.holdsBack sql &&
    ((builder.guardedWrite sql placeholders).outcome builder).isOk

/-- The rows of an execution that gets the current statement run. One that fails before that, or is
held back by a debug mode, has none. -/
def executed? (builder : Builder σ) (asRead : Bool) : Option Listing :=
  match builder.rendered with
  | .ok (sql, placeholders) =>
    if builder.runs asRead sql placeholders then builder.answer?.map ResultSet.listing else none
  | .error _ => none

variable {builder : Builder σ} {sql : String} {placeholders : Value.Entries}

theorem answer?_eq {spelled : String} {values : Option Arguments} {result : ResultSet}
    (h : builder.request = .ok (spelled, values))
    (hr : (Connection.execute spelled values builder.client.connection).1 = .ok result) :
    builder.answer? = some result := by
  unfold answer?
  rw [h]
  dsimp only
  rw [hr]
  rfl

theorem executed?_of_rendered (h : builder.rendered = .ok (sql, placeholders)) (asRead : Bool) :
    builder.executed? asRead =
      if builder.runs asRead sql placeholders then builder.answer?.map ResultSet.listing
      else none := by
  unfold executed?
  rw [h]

theorem executed?_of_refused {fault : Fault} (h : builder.rendered = .error fault)
    (asRead : Bool) : builder.executed? asRead = none := by
  unfold executed?
  rw [h]

theorem runs_read (builder : Builder σ) (sql : String) (placeholders : Value.Entries) :
    builder.runs true sql placeholders =
      ((PreparedStatement.run sql placeholders).outcome builder.client).isOk :=
  rfl

theorem runs_write (builder : Builder σ) (sql : String) (placeholders : Value.Entries) :
    builder.runs false sql placeholders =
      (!builder.holdsBack sql &&
        ((builder.guardedWrite sql placeholders).outcome builder).isOk) :=
  rfl

/-- A guarded write that returned has the rows and the row count that the connection answered, and
the row id if it was asked for that. -/
theorem answered_of_guardedWrite {written : PreparedStatement × Value}
    (h : builder.rendered = .ok (sql, placeholders))
    (hw : (builder.guardedWrite sql placeholders).outcome builder = .ok written) :
    ∃ result, builder.answer? = some result ∧ written.1.listing = result.listing ∧
      written.1.rowCount = result.affected ∧
      written.2 =
        if insertsRows (Connection.parser σ) builder.descriptor.kind sql
            && builder.dialect.supportsLastInsertId
        then result.rowId.getD .null else .null := by
  obtain ⟨rollbackOnly, hbody⟩ := body_of_scope closed_of_ownsTransaction hw
  obtain ⟨statement, hrun, hwritten⟩ := Action.of_outcome_bind_ok hbody
  obtain ⟨_, hread, hwritten⟩ := Action.of_outcome_bind_ok hwritten
  cases hread
  cases hwritten
  rw [outcome_onClient] at hrun
  obtain ⟨spelled, values, result, hs, hr, hlisting, hcount, hid⟩ :=
    PreparedStatement.answered_of_run hrun
  rw [after_onClient]
  -- opening a transaction changes neither the form nor the connection
  have hclient : (if builder.ownsTransaction sql then builder.opened else builder).client =
      { builder.client with
        inTransaction := builder.ownsTransaction sql || builder.client.inTransaction } := by
    cases builder.ownsTransaction sql <;> rfl
  rw [hclient] at hs hr
  refine ⟨result, answer?_eq ((request_of_rendered h).trans hs) hr, hlisting, hcount, ?_⟩
  dsimp only
  split
  · exact hid
  · rfl

omit [Connection σ] in
/-- Remembering a statement puts its rows in place of those of the last one. -/
theorem listing_of_remembered {α : Type} (statement : PreparedStatement) (last : LastRun)
    {rest : Action (Builder σ) α} (hrest : LeavesListing rest) (s : Builder σ) :
    ((do remember statement last; rest : Action (Builder σ) α).after s).listing =
      statement.listing := by
  rw [Action.after_bind_ok rfl]
  exact (hrest ((remember statement last).after s)).symm

/-- After an execution as a read there are the rows that it was answered, or those from before. -/
theorem listing_executeQuery (builder : Builder σ) :
    (executeQuery.after builder).listing = (builder.executed? true).getD builder.listing := by
  cases h : builder.rendered with
  | error fault =>
    rw [executed?_of_refused h, Action.after, executeQuery_of_refused h]
    rfl
  | ok rendered =>
    obtain ⟨sql, placeholders⟩ := rendered
    rw [executed?_of_rendered h, runs_read, Action.after, executeQuery_of_sent h, ← Action.after]
    cases hrun : (PreparedStatement.run sql placeholders).outcome builder.client with
    | error fault =>
      obtain ⟨raised, hr⟩ := outcome_guarded_of_error builder.descriptor.kind
        builder.debugMode sql placeholders ((outcome_onClient _ builder).trans hrun)
      rw [Action.after_bind_error hr]
      exact (listing_detached.guarded_leaves (listing_detached.onClient_leaves _) builder).symm
    | ok statement =>
      obtain ⟨spelled, values, result, hs, hr, hlisting, -, -⟩ :=
        PreparedStatement.answered_of_run hrun
      rw [answer?_eq ((request_of_rendered h).trans hs) hr, Action.after_bind_ok
        (outcome_guarded_of_ok _ _ _ _ ((outcome_onClient _ builder).trans hrun))]
      exact (listing_of_remembered _ _ ((listing_detached.capture_leaves _ _ _ _).bind fun _ =>
        Keeps.pure _) _).trans hlisting

theorem listing_executeStatement (builder : Builder σ) :
    (executeStatement.after builder).listing =
      (builder.executed? false).getD builder.listing := by
  cases h : builder.rendered with
  | error fault =>
    rw [executed?_of_refused h, Action.after, executeStatement_of_refused h]
    rfl
  | ok rendered =>
    obtain ⟨sql, placeholders⟩ := rendered
    rw [executed?_of_rendered h, runs_write]
    cases hh : builder.holdsBack sql with
    | true =>
      rw [Action.after, executeStatement_of_held h hh, ← Action.after]
      exact (captureOnly_leavesListing _ _ _ _ builder).symm
    | false =>
      rw [Action.after, executeStatement_of_sent h hh, ← Action.after]
      cases hw : (builder.guardedWrite sql placeholders).outcome builder with
      | error fault =>
        obtain ⟨raised, hr⟩ := outcome_guarded_of_error builder.descriptor.kind
          builder.debugMode sql placeholders hw
        rw [Action.after_bind_error hr]
        exact (listing_detached.guarded_leaves
          (listing_detached.scope_leaves _ _ _ _ _) builder).symm
      | ok written =>
        obtain ⟨result, hanswer, hlisting, -⟩ := answered_of_guardedWrite h hw
        rw [hanswer, Action.after_bind_ok (outcome_guarded_of_ok _ _ _ _ hw)]
        exact (listing_of_remembered _ _ ((listing_detached.capture_leaves _ _ _ _).bind fun _ =>
          Keeps.pure _) _).trans hlisting

theorem listing_execute (builder : Builder σ) :
    (execute.after builder).listing =
      (builder.executed? (isRead (Connection.parser σ) builder.descriptor)).getD
        builder.listing := by
  cases h : isRead (Connection.parser σ) builder.descriptor with
  | true => rw [Action.after, execute_of_read h, ← Action.after, listing_executeQuery]
  | false => rw [after_execute_of_write h, listing_executeStatement]

end Builder

/-! ## The ledger -/

/-- A row as it was handed over: in which shape, under which column names, and what was given. -/
structure Handed where
  mode : FetchMode
  columns : List String
  value : Value

def Handed.Shows (handed : Handed) (row : List Value) : Prop :=
  handed.mode.shape handed.columns row = .ok handed.value

/-- The rows that the connection answered to the execution completed last, and what was handed over
of them, in order. There is neither before the first execution of a statement. -/
structure Ledger where
  answered : Listing := {}
  handed : List Handed := []

namespace Ledger

variable {σ : Type}

/-- The rows that were not handed over. -/
def owed (ledger : Ledger) : Listing := ledger.answered.drop ledger.handed.length

/-- The ledger after an execution, which gets a statement run or changes nothing. -/
def executed (ledger : Ledger) : Option Listing → Ledger
  | some answered => { answered }
  | none => ledger

/-- The ledger after a call that was to hand rows over. One that fails hands over none. -/
def handOver (ledger : Ledger) (fold : String → String) (mode : FetchMode)
    (given : Attempt (List Value)) : Ledger :=
  match given with
  | .ok values =>
    let columns := ledger.answered.columns.map fold
    { ledger with handed := ledger.handed ++ values.map fun value => { mode, columns, value } }
  | .error _ => ledger

/-- The ledger after the next row was fetched. What is given when none is owed is no row. -/
def fetched (ledger : Ledger) (builder : Builder σ) (mode : FetchMode) : Ledger :=
  ledger.handOver builder.client.foldCase mode
    (((Builder.fetch mode).outcome builder).map fun value =>
      if ledger.owed.rows.isEmpty then [] else [value])

def fetchedAll (ledger : Ledger) (builder : Builder σ) (mode : FetchMode) : Ledger :=
  ledger.handOver builder.client.foldCase mode ((Builder.fetchAll mode).outcome builder)

/-- The rows handed over are an initial part of the rows answered, and what can be fetched are the
rows after these: one at a time, with null once there are none, or all at once. -/
structure Agrees (ledger : Ledger) (builder : Builder σ) : Prop where
  handed : List.Forall₂ Handed.Shows ledger.handed
    (ledger.answered.rows.take ledger.handed.length)
  next : ∀ mode, (Builder.fetch mode).outcome builder =
    ledger.owed.next builder.client.foldCase mode
  rest : ∀ mode, (Builder.fetchAll mode).outcome builder =
    ledger.owed.all builder.client.foldCase mode

/-- What a builder holds are the rows that are owed. -/
structure Kept (ledger : Ledger) (builder : Builder σ) : Prop where
  handed : List.Forall₂ Handed.Shows ledger.handed
    (ledger.answered.rows.take ledger.handed.length)
  owed : builder.listing = ledger.owed

variable {ledger : Ledger} {builder builder' : Builder σ} {mode : FetchMode}

theorem Kept.agrees (h : ledger.Kept builder) : ledger.Agrees builder :=
  ⟨h.handed, fun mode => by rw [Builder.outcome_fetch, h.owed],
    fun mode => by rw [Builder.outcome_fetchAll, h.owed]⟩

/-- What fetches give tells which rows a builder holds. -/
theorem Agrees.rows_eq (h : ledger.Agrees builder) : builder.listing.rows = ledger.owed.rows :=
  Listing.rows_eq_of_all_num ((Builder.outcome_fetchAll .num builder).symm.trans (h.rest .num))

/-! ## Handing over -/

/-- Values handed over for rows at the front of those owed are owed no longer. -/
theorem Kept.handOver (h : ledger.Kept builder) {fold : String → String} (values : List Value)
    (hv : List.Forall₂
      (fun value row => mode.shape (ledger.answered.columns.map fold) row = .ok value)
      values (ledger.owed.rows.take values.length))
    (hl : builder'.listing = builder.listing.drop values.length) :
    (ledger.handOver fold mode (.ok values)).Kept builder' := by
  have hlength : (ledger.handOver fold mode (.ok values)).handed.length =
      ledger.handed.length + values.length := by
    unfold Ledger.handOver
    rw [List.length_append, List.length_map]
  constructor
  · rw [hlength, List.take_add]
    exact List.rel_append h.handed (List.forall₂_map_left_iff.mpr hv)
  · rw [hl, h.owed]
    unfold Ledger.owed
    rw [hlength, Listing.drop_drop]
    rfl

theorem Kept.fetched (h : ledger.Kept builder)
    (hm : ¬ (mode = .column ∧ ledger.owed.rows.head? = some [])) :
    (ledger.fetched builder mode).Kept ((Builder.fetch mode).after builder) := by
  have hafter := Builder.listing_fetch mode builder
  unfold Ledger.fetched
  rw [h.agrees.next]
  unfold Listing.next
  cases hrows : ledger.owed.rows with
  | nil =>
    refine h.handOver [] .nil (hafter.trans ?_)
    rw [h.owed, Listing.drop, Listing.drop, hrows]
    rfl
  | cons row rest =>
    dsimp only
    cases hs : mode.shape (ledger.owed.columns.map builder.client.foldCase) row with
    | error fault =>
      obtain ⟨hmode, rfl⟩ := FetchMode.shape_eq_error hs
      exact absurd ⟨hmode, by rw [hrows]; rfl⟩ hm
    | ok value =>
      refine h.handOver [value] ?_ hafter
      rw [hrows]
      exact .cons hs .nil

theorem Kept.fetchedAll (h : ledger.Kept builder)
    (hm : ¬ (mode = .column ∧ [] ∈ ledger.owed.rows)) :
    (ledger.fetchedAll builder mode).Kept ((Builder.fetchAll mode).after builder) := by
  have hafter := Builder.listing_fetchAll mode builder
  unfold Ledger.fetchedAll
  rw [h.agrees.rest]
  unfold Listing.all
  cases hs : ledger.owed.rows.mapM
      (mode.shape (ledger.owed.columns.map builder.client.foldCase)) with
  | error fault =>
    obtain ⟨row, hmem, hrow⟩ := exists_of_mapM_error hs
    obtain ⟨hmode, rfl⟩ := FetchMode.shape_eq_error hrow
    exact absurd ⟨hmode, hmem⟩ hm
  | ok values =>
    have hshown := forall₂_of_mapM hs
    have hlength : values.length = ledger.owed.rows.length := hshown.length_eq
    refine h.handOver _ ?_ (hafter.trans ?_)
    · rw [hlength, List.take_length]
      exact hshown
    · rw [h.owed, hlength]
      unfold Listing.drop
      rw [List.drop_length]

/-! ## Operations -/

theorem Kept.of_same (h : ledger.Kept builder) (hl : builder'.listing = builder.listing) :
    ledger.Kept builder' :=
  ⟨h.handed, hl.trans h.owed⟩

theorem kept_empty (hl : builder.listing = {}) : ({} : Ledger).Kept builder := ⟨.nil, hl⟩

theorem Kept.executed (h : ledger.Kept builder) {answer : Option Listing}
    (hl : builder'.listing = answer.getD builder.listing) :
    (ledger.executed answer).Kept builder' := by
  cases answer with
  | none => exact h.of_same hl
  | some answered => exact ⟨.nil, hl⟩

variable [Connection σ]

/-- The ledger after a search for the greatest value, which is a statement of its own: it is
composed, executed and fetched from, up to the first of these that fails. There is no search for a
column that cannot be written. -/
def searched (ledger : Ledger) (builder : Builder σ) (table column : Value) : Ledger :=
  let ask : Action (Builder σ) Unit := Builder.askMaximum table column
  let asked := ask.after builder
  match ask.outcome builder with
  | .error _ => if column.isWritable then {} else ledger
  | .ok _ =>
    let ledger := ({} : Ledger).executed (asked.executed? true)
    match Builder.executeQuery.outcome asked with
    | .error _ => ledger
    | .ok _ => ledger.fetched (Builder.executeQuery.after asked) .num

def after (ledger : Ledger) (builder : Builder σ) : Builder.Operation σ → Ledger
  | .continued .execute =>
    ledger.executed (builder.executed? (Builder.isRead (Connection.parser σ) builder.descriptor))
  | .continued .executeQuery => ledger.executed (builder.executed? true)
  | .continued .executeStatement => ledger.executed (builder.executed? false)
  | .continued (.fetch mode) => ledger.fetched builder mode
  | .continued (.fetchAll mode) => ledger.fetchedAll builder mode
  | .continued .dropResult => {}
  | .continued _ | .filter _ => ledger
  | .maximum table column => ledger.searched builder table column
  | _ => {}

end Ledger

namespace Builder

variable {σ : Type} [Connection σ] {builder : Builder σ} {ledger : Ledger}

/-- The operation asks for the first column of a row that has none. -/
def Operation.Misses (ledger : Ledger) : Operation σ → Prop
  | .continued (.fetch .column) => ledger.owed.rows.head? = some []
  | .continued (.fetchAll .column) => [] ∈ ledger.owed.rows
  | _ => False

omit [Connection σ] in
theorem Operation.not_misses_fetch {mode : FetchMode}
    (h : ¬ (Operation.continued (.fetch mode) : Operation σ).Misses ledger) :
    ¬ (mode = .column ∧ ledger.owed.rows.head? = some []) := by
  rintro ⟨rfl, hrow⟩
  exact h hrow

omit [Connection σ] in
theorem Operation.not_misses_fetchAll {mode : FetchMode}
    (h : ¬ (Operation.continued (.fetchAll mode) : Operation σ).Misses ledger) :
    ¬ (mode = .column ∧ [] ∈ ledger.owed.rows) := by
  rintro ⟨rfl, hrow⟩
  exact h hrow

theorem kept_searched (h : ledger.Kept builder) (table column : Value) :
    (ledger.searched builder table column).Kept ((maximum table column).after builder) := by
  rw [maximum_eq]
  unfold Ledger.searched
  dsimp only
  cases hwritable : column.isWritable with
  | false =>
    rw [askMaximum_of_not_isWritable hwritable]
    exact h
  | true =>
  have hasked : ((askMaximum table column).after builder).listing = {} :=
    (askMaximum_starting hwritable table).dropsListing builder
  cases ha : (askMaximum table column).outcome builder with
  | error fault =>
    rw [Action.after_bind_error ha]
    exact Ledger.kept_empty hasked
  | ok _ =>
    rw [Action.after_bind_ok ha]
    have hexecuted := (Ledger.kept_empty hasked).executed (listing_executeQuery _)
    cases he : executeQuery.outcome ((askMaximum table column).after builder) with
    | error fault =>
      rw [Action.after_bind_error he]
      exact hexecuted
    | ok _ =>
      rw [Action.after_bind_ok he, Action.after_map]
      exact hexecuted.fetched fun hm => nomatch hm.1

/-- An operation that is no miss keeps the ledger true. -/
theorem Operation.run_kept {operation : Operation σ} (h : ledger.Kept builder)
    (hm : ¬ operation.Misses ledger) :
    (ledger.after builder operation).Kept (operation.run.after builder) := by
  have started {α : Type} {action : Action (Builder σ) α} (ha : Starting action) :
      ({} : Ledger).Kept (action.after builder) :=
    Ledger.kept_empty (ha.dropsListing builder)
  have untouched {α : Type} {action : Action (Builder σ) α} (ha : LeavesListing action) :
      ledger.Kept (action.after builder) :=
    h.of_same (ha builder).symm
  have executed {α : Type} {action : Action (Builder σ) α} {answer : Option Listing}
      (hl : (action.after builder).listing = answer.getD builder.listing) :
      (ledger.executed answer).Kept
        ((do let _ ← action : Action (Builder σ) Unit).after builder) := by
    rw [Action.after_discard]
    exact h.executed hl
  cases operation with
  | clear | rawQuery | select | insert | update | delete =>
    exact started (Operation.run_starting trivial)
  | filter => exact untouched (Composing.leavesListing (Operation.run_composing trivial))
  | maximum table column =>
    unfold Operation.run
    rw [Action.after_discard]
    exact kept_searched h table column
  | continued operation =>
    cases operation with
    | fromTable | distinct | groupBy | orderBy | limit | setParameters | addPlaceholders =>
      exact untouched (Composing.leavesListing (Operation.run_composing trivial))
    | setDebugOnce | setDebug =>
      exact untouched ((Keeps.ofAttempt _).bind fun _ => Keeps.modify fun _ => rfl)
    | execute => exact executed (listing_execute builder)
    | executeQuery => exact executed (listing_executeQuery builder)
    | executeStatement => exact executed (listing_executeStatement builder)
    | numRows => exact untouched (listing_detached.numRows_leaves.bind fun _ => Keeps.pure _)
    | fetch mode =>
      unfold Operation.run Continuation.run
      rw [Action.after_discard]
      exact h.fetched (not_misses_fetch hm)
    | fetchAll mode =>
      unfold Operation.run Continuation.run
      rw [Action.after_discard]
      exact h.fetchedAll (not_misses_fetchAll hm)
    | dropResult => exact Ledger.kept_empty rfl
    | forgetEntries => exact untouched (Keeps.modify fun _ => rfl)
    | onClient action => exact untouched (listing_detached.onClient_leaves action)

/-- A call that misses fails, and the rows that it was to hand over are gone. -/
theorem Operation.run_misses {operation : Operation σ}
    (h : builder.listing.rows = ledger.owed.rows) (hm : operation.Misses ledger) :
    ledger.after builder operation = ledger ∧
      (operation.run.after builder).listing.rows ≠ ledger.owed.rows := by
  cases operation with
  | continued operation =>
    cases operation with
    | fetch mode =>
      cases mode with
      | column =>
        obtain ⟨rest, hrows⟩ := List.head?_eq_some_iff.mp hm
        have hfails : (fetch .column).outcome builder = .error .missingPosition := by
          rw [outcome_fetch, Listing.next, h, hrows]
          rfl
        have hafter : ((fetch .column).after builder).listing.rows = rest := by
          rw [listing_fetch, Listing.drop, h, hrows]
          rfl
        refine ⟨?_, ?_⟩
        · show ledger.handOver _ _ (((fetch .column).outcome builder).map _) = ledger
          rw [hfails]
          rfl
        · rw [Operation.run, Continuation.run, Action.after_discard, hafter, hrows]
          exact fun heq => List.cons_ne_self _ _ heq.symm
      | _ => exact hm.elim
    | fetchAll mode =>
      cases mode with
      | column =>
        obtain ⟨fault, hfails⟩ : ∃ fault, (fetchAll .column).outcome builder = .error fault := by
          rw [outcome_fetchAll, Listing.all, h]
          cases hs : ledger.owed.rows.mapM
              (FetchMode.column.shape (builder.listing.columns.map builder.client.foldCase)) with
          | error fault => exact ⟨fault, rfl⟩
          | ok values =>
            obtain ⟨value, hshown⟩ := ok_of_mapM hs hm
            cases hshown
        refine ⟨?_, ?_⟩
        · show ledger.handOver _ _ ((fetchAll .column).outcome builder) = ledger
          rw [hfails]
          rfl
        · rw [Operation.run, Continuation.run, Action.after_discard, listing_fetchAll]
          have hmem : [] ∈ ledger.owed.rows := hm
          exact fun heq => List.not_mem_nil (heq.symm ▸ hmem)
      | _ => exact hm.elim
    | _ => exact hm.elim
  | _ => exact hm.elim

/-! ## Runs -/

/-- The ledger after some operations, whether they returned or failed. -/
def ledgerFrom (ledger : Ledger) (builder : Builder σ) : List (Operation σ) → Ledger
  | [] => ledger
  | operation :: rest =>
    ledgerFrom (ledger.after builder operation) (operation.run.after builder) rest

/-- None of some operations asks for the first column of a row that has none. -/
def NeverMisses (ledger : Ledger) (builder : Builder σ) : List (Operation σ) → Prop
  | [] => True
  | operation :: rest =>
    ¬ operation.Misses ledger ∧
      NeverMisses (ledger.after builder operation) (operation.run.after builder) rest

theorem agrees_throughout_iff (h : ledger.Kept builder) (operations : List (Operation σ)) :
    (∀ earlier, earlier <+: operations →
      (ledgerFrom ledger builder earlier).Agrees (builder.performed earlier)) ↔
      NeverMisses ledger builder operations := by
  induction operations generalizing ledger builder with
  | nil =>
    refine ⟨fun _ => trivial, fun _ earlier hprefix => ?_⟩
    rw [List.prefix_nil.mp hprefix]
    exact h.agrees
  | cons operation rest ih =>
    constructor
    · intro hagrees
      have hm : ¬ operation.Misses ledger := by
        intro hmisses
        obtain ⟨hsame, hgone⟩ := operation.run_misses (congrArg Listing.rows h.owed) hmisses
        have hafter := (hagrees [operation] (List.prefix_append [operation] rest)).rows_eq
        rw [ledgerFrom, ledgerFrom, hsame] at hafter
        exact hgone hafter
      exact ⟨hm, (ih (operation.run_kept h hm)).mp fun earlier hprefix =>
        hagrees (operation :: earlier) ((List.prefix_cons_inj operation).mpr hprefix)⟩
    · rintro ⟨hm, hrest⟩ earlier hprefix
      rcases List.prefix_cons_iff.mp hprefix with rfl | ⟨others, rfl, hothers⟩
      · exact h.agrees
      · exact (ih (operation.run_kept h hm)).mpr hrest others hothers

/-- **Rows are handed over once and in order.** At every moment of a run of operations, whether they
succeed or fail, the values that fetches have handed over since the last completed execution are
the first rows of its answer, in order and each in the shape that was asked for, and what can be
fetched are the rows after these; once a statement is started there are none until it is executed.
So it is exactly if no fetch asks for the first column of a row that has no columns. -/
theorem rows_handed_over_once_iff {dialect : Dialect} {client : Client σ} {debug : Value}
    {lap : Duration} (h : create dialect client debug lap = .ok builder)
    (operations : List (Operation σ)) :
    (∀ earlier, earlier <+: operations →
      (ledgerFrom {} builder earlier).Agrees (builder.performed earlier)) ↔
      NeverMisses {} builder operations := by
  have hstart : builder.listing = {} := by
    unfold create at h
    cases hd : DebugMode.ofValue debug with
    | error fault => rw [hd] at h; cases h
    | ok mode => rw [hd] at h; cases h; rfl
  exact agrees_throughout_iff (Ledger.kept_empty hstart) operations

def threeRows : Scripted :=
  { responses :=
      [{ result := { columns := some ["a"], rows := [[.int 7], [.null], [.int 9]] } },
        { failure := some "locked" }] }

def onThreeRows : Builder Scripted := { client := { connection := threeRows }, dialect := .sqlite }

/-- Between two fetches the statement is executed again, which fails. -/
def failedBetween : List (Operation Scripted) :=
  [.rawQuery (.text "SELECT a FROM t"), .continued .execute, .continued (.fetch .num),
    .continued .execute, .continued (.fetch .column), .continued (.fetchAll .assoc)]

theorem rows_handed_over_once_failedBetween :
    create .sqlite { connection := threeRows } (.bool false) {} = .ok onThreeRows ∧
      NeverMisses {} onThreeRows failedBetween ∧
      (∀ earlier, earlier <+: failedBetween →
        (ledgerFrom {} onThreeRows earlier).Agrees (onThreeRows.performed earlier)) ∧
      (ledgerFrom {} onThreeRows (failedBetween.take 4)).handed.length = 1 ∧
      (ledgerFrom {} onThreeRows failedBetween).handed.length = 3 := by
  have hcreate : create .sqlite { connection := threeRows } (.bool false) {} = .ok onThreeRows :=
    rfl
  have hnext : (ledgerFrom {} onThreeRows (failedBetween.take 4)).owed.rows.head?.map List.length =
      some 1 := by decide +kernel
  have hnever : NeverMisses {} onThreeRows failedBetween := by
    refine ⟨id, id, id, id, fun hmisses => ?_, id, trivial⟩
    cases (congrArg (Option.map List.length) hmisses).symm.trans hnext
  exact ⟨hcreate, hnever, (rows_handed_over_once_iff hcreate failedBetween).mpr hnever,
    by decide +kernel, by decide +kernel⟩

def bareRow : Scripted := { responses := [{ result := { columns := some [], rows := [[]] } }] }

def onBareRow : Builder Scripted := { client := { connection := bareRow }, dialect := .sqlite }

def firstOfBareRow : List (Operation Scripted) :=
  [.rawQuery (.text "SELECT"), .continued .execute, .continued (.fetch .column)]

/-- The fetch fails, so the row was not handed over, and yet nothing is left to fetch. -/
theorem first_of_bare_row_is_lost :
    create .sqlite { connection := bareRow } (.bool false) {} = .ok onBareRow ∧
      (fetch .column).outcome (onBareRow.performed (firstOfBareRow.take 2)) =
        .error .missingPosition ∧
      (ledgerFrom {} onBareRow firstOfBareRow).handed = [] ∧
      (ledgerFrom {} onBareRow firstOfBareRow).owed.rows = [[]] ∧
      (fetchAll .num).outcome (onBareRow.performed firstOfBareRow) = .ok [] ∧
      ¬ (ledgerFrom {} onBareRow firstOfBareRow).Agrees
        (onBareRow.performed firstOfBareRow) := by
  refine ⟨rfl, rfl, rfl, rfl, rfl, fun hagrees => ?_⟩
  have hlost : [] = [[]] := hagrees.rows_eq
  cases hlost

end Builder

end SqlToolkit
