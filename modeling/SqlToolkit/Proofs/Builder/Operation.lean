import SqlToolkit.Connection.Scripted
import SqlToolkit.Proofs.Builder.Client
import SqlToolkit.Proofs.Builder.Compose
import SqlToolkit.Proofs.Condition.Freshness

/-!
# What a run of operations makes of a statement

Between two operations a statement is *consistent*: the placeholder names of its condition are fresh
with respect to those of its column values, there is no condition as long as a column key is
refused, and only an INSERT or an UPDATE has column values. Starting a statement gives a consistent
one however far it gets, setting a condition keeps it consistent whether the condition is accepted
or not, and nothing else touches what consistency is about.
-/

namespace SqlToolkit

namespace Descriptor

/-- A statement that was only started: no condition, no values for markers, and column values only
in an INSERT or an UPDATE. -/
structure Bare (descriptor : Descriptor) : Prop where
  clause : descriptor.clause = {}
  placeholders : descriptor.placeholders = []
  values : descriptor.values ≠ [] → descriptor.kind = .insert ∨ descriptor.kind = .update

structure Consistent (descriptor : Descriptor) : Prop where
  fresh : ∀ columns, descriptor.valuePlaceholders = .ok columns →
    descriptor.clause.Fresh (Entries.keys columns)
  unnamed : ∀ fault, descriptor.valuePlaceholders = .error fault →
    descriptor.clause.placeholders = []
  values : descriptor.values ≠ [] → descriptor.kind = .insert ∨ descriptor.kind = .update

theorem bare_of_no_values {descriptor : Descriptor} (hc : descriptor.clause = {})
    (hp : descriptor.placeholders = []) (hv : descriptor.values = []) : descriptor.Bare :=
  ⟨hc, hp, fun h => absurd hv h⟩

/-- Being bare is about the kind of the statement, its condition and its values. -/
theorem Bare.of_same {descriptor other : Descriptor} (h : descriptor.Bare)
    (hsame : (descriptor.kind, descriptor.clause, descriptor.values, descriptor.placeholders) =
      (other.kind, other.clause, other.values, other.placeholders)) : other.Bare := by
  obtain ⟨hk, hc, hv, hp⟩ := by simpa only [Prod.mk.injEq] using hsame
  constructor
  · rw [← hc]
    exact h.clause
  · rw [← hp]
    exact h.placeholders
  · rw [← hv, ← hk]
    exact h.values

theorem Bare.consistent {descriptor : Descriptor} (h : descriptor.Bare) :
    descriptor.Consistent := by
  have hnone : descriptor.clause.placeholders = [] := by rw [h.clause]
  exact ⟨fun _ _ => Condition.Clause.fresh_of_no_names hnone, fun _ _ => hnone, h.values⟩

theorem valuePlaceholders_congr {descriptor other : Descriptor}
    (h : descriptor.values = other.values) :
    descriptor.valuePlaceholders = other.valuePlaceholders := by
  unfold valuePlaceholders
  rw [h]

/-- Consistency is about the kind of the statement, its condition and its column values. -/
theorem Consistent.of_same {descriptor other : Descriptor} (h : descriptor.Consistent)
    (hk : descriptor.kind = other.kind) (hc : descriptor.clause = other.clause)
    (hv : descriptor.values = other.values) : other.Consistent := by
  have hnamed := valuePlaceholders_congr hv
  constructor
  · rw [← hnamed, ← hc]
    exact h.fresh
  · rw [← hnamed, ← hc]
    exact h.unnamed
  · rw [← hv, ← hk]
    exact h.values

/-- A condition whose names are fresh keeps a statement consistent. -/
theorem Consistent.withClause {descriptor : Descriptor} (h : descriptor.Consistent)
    {columns : List (String × Value)} (hv : descriptor.valuePlaceholders = .ok columns)
    {clause : Condition.Clause} (hc : clause.Fresh (Entries.keys columns)) :
    Consistent { descriptor with clause } := by
  constructor
  · intro columns' hcolumns
    cases hv.symm.trans hcolumns
    exact hc
  · intro fault hfault
    cases hv.symm.trans hfault
  · exact h.values

end Descriptor

namespace Builder

open SqlToolkit.Action (Keeps)

variable {σ : Type} {builder : Builder σ}

/-! ## Starting a statement -/

/-- What a start leaves: an empty statement if there was nothing to write, and otherwise one that
holds what was accepted. -/
theorem descriptor_startWrite (kind : QueryKind) (nothing : String → Fault) (table values : Value)
    (builder : Builder σ) :
    ((startWrite kind nothing table values).after builder).descriptor = {} ∨
      ∃ table' values', ((startWrite kind nothing table values).after builder).descriptor =
        { kind, table := table', values := values' } := by
  unfold startWrite
  dsimp only
  rw [Action.after_bind_ok (outcome_clear _)]
  split
  · refine .inl ?_
    cases table.write Value.display <;> rfl
  · refine .inr ?_
    rw [Action.after_bind_ok (outcome_edit _ _), after_edit]
    unfold fromTable
    cases ht : tableExpression table with
    | error fault => exact ⟨_, [], rfl⟩
    | ok table' =>
      cases hv : columnValues values with
      | error fault => exact ⟨table', [], rfl⟩
      | ok values' => exact ⟨table', values', rfl⟩

theorem bare_startWrite {kind : QueryKind} (hkind : kind = .insert ∨ kind = .update)
    (nothing : String → Fault) (table values : Value) (builder : Builder σ) :
    ((startWrite kind nothing table values).after builder).descriptor.Bare := by
  obtain h | ⟨table', values', h⟩ := descriptor_startWrite kind nothing table values builder
  · rw [h]
    exact Descriptor.bare_of_no_values rfl rfl rfl
  · rw [h]
    exact ⟨rfl, rfl, fun _ => hkind⟩

/-- Looking at the names of the column values changes nothing. -/
theorem after_insert (table values : Value) (builder : Builder σ) :
    (insert table values).after builder =
      (startWrite .insert .nothingToInsert table values).after builder := by
  unfold insert
  rw [Action.after_bind]
  split
  · rw [Action.after_bind_ok (Action.outcome_get _), Action.after_get, Action.after_bind]
    split
    · rw [Action.after_pure, Action.ofAttempt_after]
    · rw [Action.ofAttempt_after]
  · rfl

theorem bare_insert (table values : Value) (builder : Builder σ) :
    ((insert table values).after builder).descriptor.Bare := by
  rw [after_insert]
  exact bare_startWrite (.inl rfl) _ table values builder

theorem bare_select (fields : Value) (builder : Builder σ) :
    ((select fields).after builder).descriptor.Bare := by
  unfold select
  rw [Action.after_bind_ok (outcome_clear _), Action.after_bind_ok (outcome_edit _ _), after_edit,
    Action.after_bind, Action.ofAttempt_after]
  split
  · exact Descriptor.bare_of_no_values rfl rfl rfl
  · exact Descriptor.bare_of_no_values rfl rfl rfl

theorem kind_select (fields : Value) (builder : Builder σ) :
    ((select fields).after builder).descriptor.kind = .select := by
  unfold select
  rw [Action.after_bind_ok (outcome_clear _), Action.after_bind_ok (outcome_edit _ _), after_edit,
    Action.after_bind, Action.ofAttempt_after]
  split
  · rfl
  · rfl

/-! ## Setting a condition -/

/-- Setting a condition changes nothing else. -/
theorem filter_view {T : Type} (view : Descriptor → T)
    (h : ∀ d clause, view { d with clause } = view d) (condition : Value) :
    Keeps Eq (fun builder : Builder σ => view builder.descriptor) (filter condition) := by
  intro builder
  cases hv : builder.descriptor.valuePlaceholders with
  | error fault => rw [Action.after, filter_of_unnamed condition hv]
  | ok byName =>
    rw [(filter_of_named condition hv).2]
    exact (h _ _).symm

theorem consistent_filter (condition : Value) (h : builder.descriptor.Consistent) :
    ((filter condition).after builder).descriptor.Consistent := by
  cases hv : builder.descriptor.valuePlaceholders with
  | error fault =>
    rw [Action.after, filter_of_unnamed condition hv]
    exact h
  | ok columns =>
    rw [(filter_of_named condition hv).2]
    exact h.withClause hv (Condition.Clause.fresh_set _ _ _).1

/-- What a start with a condition leaves: a bare statement, and the condition set on it unless the
start failed before. -/
def Started (condition : Value) (left : Builder σ) : Prop :=
  ∃ bare : Builder σ, bare.descriptor.Bare ∧
    (left = bare ∨ left = (filter condition).after bare)

theorem Started.consistent {condition : Value} (h : Started condition builder) :
    builder.descriptor.Consistent := by
  obtain ⟨bare, hbare, rfl | rfl⟩ := h
  · exact hbare.consistent
  · exact consistent_filter condition hbare.consistent

theorem Started.placeholders {condition : Value} (h : Started condition builder) :
    builder.descriptor.placeholders = [] := by
  obtain ⟨bare, hbare, rfl | rfl⟩ := h
  · exact hbare.placeholders
  · exact (filter_view Descriptor.placeholders (fun _ _ => rfl) condition bare).symm.trans
      hbare.placeholders

theorem started_update (table values condition : Value) (builder : Builder σ) :
    Started condition ((update table values condition).after builder) := by
  have hbare := bare_startWrite (.inr rfl) .nothingToUpdate table values builder
  refine ⟨_, hbare, ?_⟩
  unfold update
  rw [Action.after_bind]
  split
  · exact .inr rfl
  · exact .inl rfl

theorem started_delete (table condition : Value) (builder : Builder σ) :
    Started condition ((delete table condition).after builder) := by
  let empty := (edit fun descriptor => { descriptor with kind := .delete }).after (cleared builder)
  have hempty : empty.descriptor.Bare := Descriptor.bare_of_no_values rfl rfl rfl
  have hbare : ((fromTable table).after empty).descriptor.Bare :=
    hempty.of_same (fromTable_view
      (fun d => (d.kind, d.clause, d.values, d.placeholders)) (fun _ _ => rfl) table empty)
  refine ⟨_, hbare, ?_⟩
  unfold delete
  rw [Action.after_bind_ok (outcome_clear _), Action.after_bind_ok (outcome_edit _ _),
    Action.after_bind]
  split
  · exact .inr rfl
  · exact .inl rfl

/-! ## Operations -/

inductive Operation (σ : Type) where
  | clear
  | rawQuery (sql : Value)
  | select (fields : Value)
  | insert (table values : Value)
  | update (table values condition : Value)
  | delete (table condition : Value)
  | filter (condition : Value)
  | maximum (table column : Value)
  | continued (operation : Continuation σ)

/-- A builder on which nothing was done yet holds an empty statement. -/
theorem descriptor_of_create {dialect : Dialect} {client : Client σ} {debug : Value}
    {lap : Duration} (h : create dialect client debug lap = .ok builder) :
    builder.descriptor = {} := by
  unfold create at h
  cases hd : DebugMode.ofValue debug with
  | error fault => rw [hd] at h; cases h
  | ok mode => rw [hd] at h; cases h; rfl

variable [Connection σ]

def Operation.run : Operation σ → Action (Builder σ) Unit
  | .clear => Builder.clear
  | .rawQuery sql => Builder.rawQuery sql
  | .select fields => Builder.select fields
  | .insert table values => Builder.insert table values
  | .update table values condition => Builder.update table values condition
  | .delete table condition => Builder.delete table condition
  | .filter condition => Builder.filter condition
  | .maximum table column => do let _ ← Builder.maximum table column
  | .continued operation => operation.run

/-- The operation changes the statement being composed, and does nothing else. -/
def Operation.Edits : Operation σ → Prop
  | .filter _ | .continued (.fromTable _) | .continued (.distinct _) | .continued (.groupBy _)
  | .continued (.orderBy _) | .continued (.limit _) | .continued (.setParameters _)
  | .continued (.addPlaceholders _) => True
  | _ => False

theorem Operation.run_composing {operation : Operation σ} (h : operation.Edits) :
    Composing operation.run := by
  cases operation with
  | filter condition => exact filter_composing condition
  | continued operation =>
    cases operation with
    | fromTable table => exact fromTable_composing table
    | distinct flag => exact editParameters_composing ({ · with selectDistinct := flag })
    | groupBy grouping => exact editParameters_composing ({ · with groupBy := grouping })
    | orderBy order => exact editParameters_composing ({ · with orderBy := order })
    | limit bounds => exact limit_composing bounds
    | setParameters settings => exact setParameters_composing settings
    | addPlaceholders given => exact addPlaceholders_composing given
    | _ => exact h.elim
  | _ => exact h.elim

/-- The operation starts a new statement, and does nothing else. -/
def Operation.StartsOnly : Operation σ → Prop
  | .filter _ | .maximum _ _ | .continued _ => False
  | _ => True

theorem Operation.run_starting {operation : Operation σ} (h : operation.StartsOnly) :
    Starting operation.run := by
  cases operation with
  | clear => exact clear_starting
  | rawQuery sql => exact rawQuery_starting sql
  | select fields => exact select_starting fields
  | insert table values => exact insert_starting table values
  | update table values condition => exact update_starting table values condition
  | delete table condition => exact delete_starting table condition
  | filter | maximum | continued => exact h.elim

/-- The builder after some operations, whether they returned or failed. -/
def performed (builder : Builder σ) (operations : List (Operation σ)) : Builder σ :=
  operations.foldl (fun builder operation => operation.run.after builder) builder

omit [Connection σ] in
theorem bare_askMaximum {column : Value} (h : column.isWritable = true) (table : Value)
    (builder : Builder σ) : ((askMaximum table column).after builder).descriptor.Bare := by
  rw [askMaximum_of_isWritable h, Action.after_bind]
  split
  · exact (bare_select _ _).of_same
      (fromTable_view (fun d => (d.kind, d.clause, d.values, d.placeholders))
        (fun _ _ => rfl) table _)
  · exact bare_select _ _

/-- A search for the greatest value leaves the bare SELECT that it started, if it started one. -/
theorem bare_maximum {column : Value} (h : column.isWritable = true) (table : Value)
    (builder : Builder σ) :
    ((Operation.maximum table column).run.after builder).descriptor.Bare := by
  have hrest : Keeps Eq (fun builder : Builder σ => (builder.descriptor.kind,
      builder.descriptor.clause, builder.descriptor.values, builder.descriptor.placeholders)) (do
        let _ ← executeQuery
        firstColumn <$> fetch .num : Action (Builder σ) Value) :=
    (view_of_leavesDescriptor (fun d => (d.kind, d.clause, d.values, d.placeholders))
      executeQuery_fading.leavesDescriptor).bind fun _ =>
      (view_of_leavesDescriptor (fun d => (d.kind, d.clause, d.values, d.placeholders))
        (fetch_silent .num).leavesDescriptor).bind fun _ => Keeps.pure _
  unfold Operation.run
  rw [Action.after_discard, maximum_eq, Action.after_bind]
  split
  · exact (bare_askMaximum h table builder).of_same (hrest _)
  · exact bare_askMaximum h table builder

theorem after_maximum_of_not_isWritable {column : Value} (h : column.isWritable = false)
    (table : Value) (builder : Builder σ) :
    (Operation.maximum table column).run.after builder = builder := by
  unfold Operation.run
  rw [Action.after_discard, maximum_eq, askMaximum_of_not_isWritable h]
  rfl

/-- Every operation, whether it returns or fails, leaves a consistent statement. -/
theorem Operation.run_consistent (operation : Operation σ) (h : builder.descriptor.Consistent) :
    (operation.run.after builder).descriptor.Consistent := by
  cases operation with
  | clear => exact (Descriptor.bare_of_no_values rfl rfl rfl).consistent
  | rawQuery sql => exact (Descriptor.bare_of_no_values rfl rfl rfl).consistent
  | select fields => exact (bare_select fields builder).consistent
  | insert table values => exact (bare_insert table values builder).consistent
  | update table values condition =>
    exact (started_update table values condition builder).consistent
  | delete table condition => exact (started_delete table condition builder).consistent
  | filter condition => exact consistent_filter condition h
  | maximum table column =>
    cases hwritable : column.isWritable with
    | true => exact (bare_maximum hwritable table builder).consistent
    | false =>
      rw [after_maximum_of_not_isWritable hwritable]
      exact h
  | continued operation =>
    have hkept := operation.run_view (fun d => (d.kind, d.clause, d.values))
      (fun _ _ => rfl) (fun _ _ => rfl) (fun _ _ _ _ => rfl) builder
    obtain ⟨hk, hrest⟩ := Prod.mk.inj hkept
    obtain ⟨hc, hv⟩ := Prod.mk.inj hrest
    exact h.of_same hk hc hv

/-- Whatever is done with a builder, its statement stays consistent. -/
theorem performed_consistent (operations : List (Operation σ))
    (h : builder.descriptor.Consistent) : (builder.performed operations).descriptor.Consistent := by
  induction operations generalizing builder with
  | nil => exact h
  | cons operation rest ih => exact ih (operation.run_consistent h)

/-! ## Fresh names -/

open Condition (Clause)

/-- The condition of a statement never uses the name of a column value, whatever was done before and
whether it succeeded; without names for its column values a statement has no condition names. And a
condition that is set, accepted or not, never uses the names of the last condition before it that
had any, whatever the clause went through since. -/
theorem condition_names_fresh {dialect : Dialect} {client : Client σ} {debug : Value}
    {lap : Duration} (h : create dialect client debug lap = .ok builder)
    (operations : List (Operation σ)) (changes : List Clause.Change) (condition : Value)
    (reserved : List String) :
    ((∀ columns, (builder.performed operations).descriptor.valuePlaceholders = .ok columns →
        ∀ name ∈ (builder.performed operations).descriptor.clause.names,
          name ∉ Entries.keys columns) ∧
      ∀ fault, (builder.performed operations).descriptor.valuePlaceholders = .error fault →
        (builder.performed operations).descriptor.clause.names = []) ∧
    ∀ name ∈ ((Clause.changed {} changes).set condition reserved).2.names,
      name ∉ Clause.latestNames (Clause.history {} changes) := by
  have hstart : builder.descriptor.Consistent := by
    rw [descriptor_of_create h]
    exact (Descriptor.bare_of_no_values rfl rfl rfl).consistent
  have hreached := performed_consistent operations hstart
  refine ⟨⟨fun columns hcolumns => (hreached.fresh columns hcolumns).notReserved, ?_⟩,
    Clause.not_mem_latestNames_of_set changes condition reserved⟩
  intro fault hfault
  rw [Clause.names, hreached.unnamed fault hfault]
  rfl

def onScript : Builder Scripted := { client := { connection := {} }, dialect := .sqlite }

/-- An UPDATE of the column whose name the condition would use first. -/
def updateOfName : List (Operation Scripted) :=
  [.update (.text "t") (.map [(.text "a_id", .int 1)]) (.map [(.text "id", .int 2)])]

def usedAgain : List Clause.Change := [.set (.map [(.text "id", .int 2)]) [], .set .null []]

theorem condition_names_fresh_updateOfName :
    create .sqlite { connection := {} } (.bool false) {} = .ok onScript ∧
      (onScript.performed updateOfName).descriptor.clause.names = ["b_id"] ∧
      "b_id" ∉ ["a_id"] ∧
      ∀ name ∈ ((Clause.changed {} usedAgain).set (.map [(.text "id", .int 3)]) []).2.names,
        name ∉ Clause.latestNames (Clause.history {} usedAgain) := by
  have hcreate : create .sqlite { connection := {} } (.bool false) {} = .ok onScript := rfl
  have hfresh := condition_names_fresh hcreate updateOfName usedAgain
    (.map [(.text "id", .int 3)]) []
  have hnames : (onScript.performed updateOfName).descriptor.clause.names = ["b_id"] := by rfl
  have hcolumns : (onScript.performed updateOfName).descriptor.valuePlaceholders =
    .ok [("a_id", .int 1)] := by rfl
  refine ⟨hcreate, hnames, ?_, hfresh.2⟩
  exact hfresh.1.1 _ hcolumns "b_id" (hnames ▸ List.mem_singleton_self _)

end Builder

end SqlToolkit
