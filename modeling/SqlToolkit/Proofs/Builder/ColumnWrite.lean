import SqlToolkit.Proofs.Builder.Operation
import SqlToolkit.Proofs.Statement.ColumnNames

/-!
# What the columns of a write get

Once an INSERT or an UPDATE is accepted its columns are bound under the names of their keys, and
neither a condition nor a value for a marker ever takes such a name over. What can take it over is
another column with an alike key: then the two share a marker, and the last one counts.
-/

namespace SqlToolkit

namespace Descriptor

/-! ## Own values -/

/-- Each column has a marker of its own, and its value is bound under that marker. -/
structure OwnValues (columns : Value.Entries) (markers : List String) (bound : Value.Entries) :
    Prop where
  distinct : markers.Nodup
  own : List.Forall₂ (fun column marker =>
    Entries.get? (.text marker) bound = some column.2.formatted) columns markers

/-- The statement writes these columns, and this is what it binds. -/
structure Writes (descriptor : Descriptor) (columns bound : Value.Entries) : Prop where
  consistent : descriptor.Consistent
  values : descriptor.values = Value.formattedEntries columns
  accepted : ∃ byName, descriptor.valuePlaceholders = .ok byName
  bound : descriptor.boundPlaceholders = .ok bound

variable {descriptor : Descriptor} {columns bound : Value.Entries}

theorem Writes.named_eq (h : descriptor.Writes columns bound) :
    named descriptor.values =
      columns.map fun column => (ColumnKey.marker column.1, column.2.formatted) := by
  rw [h.values]
  simp [named, Value.formattedEntries, Entries.mapValues]

theorem Writes.keys_eq (h : descriptor.Writes columns bound) :
    Entries.keys (named descriptor.values) = markers columns := by
  rw [h.named_eq, Entries.keys, List.map_map]
  rfl

theorem Writes.markers_eq (h : descriptor.Writes columns bound) :
    markers descriptor.values = markers columns := by
  rw [← keys_named, h.keys_eq]

theorem Writes.columns_eq (h : descriptor.Writes columns bound) :
    (descriptor.values.map fun column => column.1.display) =
      columns.map fun column => column.1.display := by
  rw [h.values]
  simp [Value.formattedEntries, Entries.mapValues]

theorem Writes.accepted_key (h : descriptor.Writes columns bound) {column : Value × Value}
    (hcolumn : column ∈ columns) : ColumnKey.Accepted column.1 := by
  obtain ⟨byName, hnamed⟩ := h.accepted
  have hmem : (column.1, column.2.formatted) ∈ descriptor.values := by
    rw [h.values]
    exact List.mem_map_of_mem (f := fun entry => (entry.1, entry.2.formatted)) hcolumn
  exact (named_of_valuePlaceholders hnamed).1 (column.1, column.2.formatted) hmem

/-- The names of the columns differ exactly if no two keys are alike. -/
theorem Writes.nodup_markers_iff (h : descriptor.Writes columns bound) :
    (markers columns).Nodup ↔
      columns.Pairwise fun column other => ¬ ColumnKey.Alike column.1 other.1 := by
  rw [List.Nodup, markers, List.pairwise_map]
  refine List.Pairwise.iff_of_mem fun {column other} hcolumn hother => ?_
  exact not_congr (ColumnKey.marker_eq_iff (h.accepted_key hcolumn) (h.accepted_key hother))

/-- Neither the condition nor a value for a marker is bound under the name of a column. -/
theorem Writes.get?_bound (h : descriptor.Writes columns bound) {name : String}
    (hname : name ∈ markers columns) :
    Entries.get? (.text name) bound = Entries.last? name (named descriptor.values) := by
  obtain ⟨byName, hnamed⟩ := h.accepted
  obtain ⟨bound', hb', hget⟩ := get?_boundPlaceholders hnamed
  obtain rfl : bound' = bound := Except.ok.inj (hb'.symm.trans h.bound)
  obtain ⟨-, hcolumns⟩ := named_of_valuePlaceholders hnamed
  rw [← h.keys_eq] at hname
  have hfree : name ∉ descriptor.clause.names := fun hclause =>
    (h.consistent.fresh byName hnamed).notReserved name hclause
      (by rw [hcolumns]; exact (Entries.mem_keys_ofList_iff _).mpr hname)
  obtain ⟨_, value, _, _, _, hlast⟩ := Entries.last?_of_mem_keys hname
  rw [hget, generated?, Entries.last?_of_not_mem hfree, hlast]
  rfl

/-- What is bound under the marker of a column is the value of the last column with an alike key. -/
theorem Writes.get?_bound_of_last (h : descriptor.Writes columns bound) {column : Value × Value}
    (hcolumn : column ∈ columns) :
    ∃ earlier last later, columns = earlier ++ last :: later ∧
      ColumnKey.Alike last.1 column.1 ∧ (∀ next ∈ later, ¬ ColumnKey.Alike next.1 column.1) ∧
      Entries.get? (.text (ColumnKey.marker column.1)) bound = some last.2.formatted := by
  have hname := marker_mem_markers hcolumn
  obtain ⟨earlier', value, later', hsplit, hlater, hlast⟩ :=
    Entries.last?_of_mem_keys (h.keys_eq ▸ hname)
  rw [h.named_eq] at hsplit
  obtain ⟨earlier, rest, rfl, -, hrest⟩ := List.map_eq_append_iff.mp hsplit
  obtain ⟨last, later, rfl, hentry, rfl⟩ := List.map_eq_cons_iff.mp hrest
  obtain ⟨hmarker, rfl⟩ := Prod.mk.inj hentry
  have halike {other : Value × Value} (hother : other ∈ earlier ++ last :: later) :=
    ColumnKey.marker_eq_iff (h.accepted_key hother) (h.accepted_key hcolumn)
  refine ⟨earlier, last, later, rfl, (halike (by simp)).mp hmarker, fun next hnext hlike => ?_, ?_⟩
  · have hsame := (halike (by simp [hnext])).mpr hlike
    refine hlater ?_
    rw [← hsame, Entries.keys, List.map_map]
    exact marker_mem_markers hnext
  · rw [h.get?_bound hname, hlast]

/-- Markers that are those of the columns if these differ, and that are fewer otherwise or not
distinct, give each column its own value exactly if no two keys are alike. -/
theorem Writes.ownValues_iff (h : descriptor.Writes columns bound) {written : List String}
    (hsame : (markers columns).Nodup → written = markers columns)
    (hcount : written.Nodup → written.length = columns.length → (markers columns).Nodup) :
    OwnValues columns written bound ↔
      columns.Pairwise fun column other => ¬ ColumnKey.Alike column.1 other.1 := by
  rw [← h.nodup_markers_iff]
  constructor
  · intro hown
    exact hcount hown.distinct hown.own.length_eq.symm
  · intro hnodup
    rw [hsame hnodup]
    refine ⟨hnodup, List.forall₂_map_right_iff.mpr (List.forall₂_same.mpr fun column hcolumn => ?_)⟩
    rw [← h.keys_eq] at hnodup
    rw [h.get?_bound (marker_mem_markers hcolumn), Entries.last?_eq_get? hnodup]
    refine Entries.get?_of_mem hnodup ?_
    rw [h.named_eq]
    exact List.mem_map_of_mem
      (f := fun column => (ColumnKey.marker column.1, column.2.formatted)) hcolumn

end Descriptor

namespace Builder

open SqlToolkit.Action (Keeps)

variable {σ : Type} {builder : Builder σ}

/-! ## Accepted writes -/

/-- A statement that writes column values. -/
inductive ColumnWrite where
  | insert (table values : Value)
  | update (table values condition : Value)

namespace ColumnWrite

def kind : ColumnWrite → QueryKind
  | .insert .. => .insert
  | .update .. => .update

def values : ColumnWrite → Value
  | .insert _ values | .update _ values _ => values

def run : ColumnWrite → Action (Builder σ) Unit
  | .insert table values => Builder.insert table values
  | .update table values condition => Builder.update table values condition

/-- The text of a write with these columns, their markers and this condition. -/
def text (write : ColumnWrite) (table : String) (columns markers : List String)
    (condition : String) : String :=
  match write with
  | .insert .. =>
    let columns := Descriptor.listed columns
    let markers := Descriptor.listed markers
    s!"INSERT INTO {table} ({columns}) VALUES ({markers})"
  | .update .. =>
    let assignments := Descriptor.listed
      (List.zipWith (fun column marker => column ++ " = " ++ marker) columns markers)
    s!"UPDATE {table} SET {assignments}{condition}"

end ColumnWrite

theorem fromTable_of_ok {table : Value} (h : (fromTable table).outcome builder = .ok ()) :
    ∃ table', ((fromTable table).after builder).descriptor =
      { builder.descriptor with table := table' } := by
  unfold fromTable at h ⊢
  cases ht : tableExpression table with
  | error fault => rw [ht] at h; cases h
  | ok table' => exact ⟨table', rfl⟩

/-- An accepted start holds the kind, a table and the values that were given. -/
theorem descriptor_of_startWrite {kind : QueryKind} {nothing : String → Fault}
    {table values : Value}
    (h : (startWrite kind nothing table values).outcome builder = .ok ()) :
    ∃ table' given, values = .map given ∧
      ((startWrite kind nothing table values).after builder).descriptor =
        { kind, table := table', values := Value.formattedEntries given } := by
  unfold startWrite at h ⊢
  dsimp only at h ⊢
  obtain ⟨_, hc, h⟩ := Action.of_outcome_bind_ok h
  rw [Action.after_bind_ok hc]
  split at h
  · obtain ⟨_, -, h⟩ := Action.of_outcome_bind_ok h
    cases h
  · next hv =>
    rw [if_neg hv]
    obtain ⟨_, he, h⟩ := Action.of_outcome_bind_ok h
    obtain ⟨_, hf, h⟩ := Action.of_outcome_bind_ok h
    obtain ⟨table', htable⟩ := fromTable_of_ok hf
    rw [Action.after_bind_ok he, Action.after_bind_ok hf]
    cases hg : columnValues values with
    | error fault => rw [hg] at h; cases h
    | ok written =>
      cases values with
      | map given =>
        cases hg
        refine ⟨table', given, rfl, ?_⟩
        rw [Action.after_bind_ok rfl, after_edit, Action.ofAttempt_after]
        dsimp only
        rw [htable]
        rfl
      | _ => cases hg

/-- An accepted write holds the values that were given and has names for them. -/
theorem ColumnWrite.descriptor_of_accepted (write : ColumnWrite)
    (h : write.run.outcome builder = .ok ()) :
    ∃ table given clause columns, write.values = .map given ∧
      (write.run.after builder).descriptor =
        { kind := write.kind, table, values := Value.formattedEntries given, clause } ∧
      (write.run.after builder).descriptor.valuePlaceholders = .ok columns := by
  cases write with
  | insert table values =>
    obtain ⟨_, hs, h⟩ := Action.of_outcome_bind_ok h
    obtain ⟨table', given, rfl, hstarted⟩ := descriptor_of_startWrite hs
    have hafter : (run (.insert table (.map given))).after builder = _ :=
      after_insert table (.map given) builder
    rw [hafter]
    obtain ⟨columns, hcolumns⟩ : ∃ columns, ((startWrite .insert .nothingToInsert
        table (.map given)).after builder).descriptor.valuePlaceholders = .ok columns := by
      rw [Action.outcome_bind_ok (Action.outcome_get _), Action.after_get] at h
      obtain ⟨columns, hcolumns, -⟩ := Action.of_outcome_bind_ok h
      exact ⟨columns, by rwa [Action.outcome_ofAttempt] at hcolumns⟩
    exact ⟨table', given, {}, columns, rfl, hstarted, hcolumns⟩
  | update table values condition =>
    obtain ⟨_, hs, h⟩ := Action.of_outcome_bind_ok h
    obtain ⟨table', given, rfl, hstarted⟩ := descriptor_of_startWrite hs
    have hafter : (run (.update table (.map given) condition)).after builder =
        (filter condition).after ((startWrite .update .nothingToUpdate table
          (.map given)).after builder) := Action.after_bind_ok hs
    rw [hafter]
    cases hcolumns : ((startWrite .update .nothingToUpdate table
        (.map given)).after builder).descriptor.valuePlaceholders with
    | error fault =>
      rw [Action.outcome, filter_of_unnamed condition hcolumns] at h
      cases h
    | ok columns =>
      rw [(filter_of_named condition hcolumns).2]
      exact ⟨table', given, _, columns, rfl, by rw [hstarted]; rfl, hcolumns⟩

theorem ColumnWrite.consistent (write : ColumnWrite) (builder : Builder σ) :
    (write.run.after builder).descriptor.Consistent := by
  cases write with
  | insert table values => exact (bare_insert table values builder).consistent
  | update table values condition =>
    exact (started_update table values condition builder).consistent

/-! ## The text and its markers -/

/-- The markers in the text of a write: an INSERT lists a name once, an UPDATE with every column. -/
def ColumnWrite.written (write : ColumnWrite) (columns : Value.Entries) : List String :=
  match write with
  | .insert .. => Entries.keys (Entries.ofList (Descriptor.named columns))
  | .update .. => Descriptor.markers columns

theorem ColumnWrite.written_of_nodup (write : ColumnWrite) {columns : Value.Entries}
    (h : (Descriptor.markers columns).Nodup) :
    write.written columns = Descriptor.markers columns := by
  rw [← Descriptor.keys_named] at h ⊢
  cases write with
  | insert table values => exact congrArg Entries.keys (Entries.ofList_eq_self h)
  | update table values condition => exact (Descriptor.keys_named columns).symm

theorem ColumnWrite.nodup_of_written (write : ColumnWrite) {columns : Value.Entries}
    (hnodup : (write.written columns).Nodup)
    (hlength : (write.written columns).length = columns.length) :
    (Descriptor.markers columns).Nodup := by
  cases write with
  | insert table values =>
    rw [← Descriptor.keys_named]
    refine Entries.nodup_keys_of_length_ofList ?_
    simpa [written, Entries.keys, Descriptor.named] using hlength
  | update table values condition => exact hnodup

theorem ColumnWrite.mem_written_iff (write : ColumnWrite) {columns : Value.Entries}
    {marker : String} : marker ∈ write.written columns ↔ marker ∈ Descriptor.markers columns := by
  cases write with
  | insert table values =>
    rw [← Descriptor.keys_named]
    exact Entries.mem_keys_ofList_iff _
  | update table values condition => exact Iff.rfl

/-- What an accepted write renders. -/
theorem ColumnWrite.sql_of_writes {write : ColumnWrite} {columns bound : Value.Entries}
    (hk : builder.descriptor.kind = write.kind) (hd : builder.descriptor.Writes columns bound)
    (ht : builder.descriptor.table.truthy = true) :
    builder.sql = .ok (write.text builder.descriptor.table.display
      (columns.map fun column => column.1.display)
      ((write.written builder.descriptor.values).map (":" ++ ·))
      builder.descriptor.clause.sql) := by
  obtain ⟨byName, hnamed⟩ := hd.accepted
  obtain ⟨haccepted, hbyName⟩ := Descriptor.named_of_valuePlaceholders hnamed
  unfold sql Descriptor.sql
  rw [← hd.columns_eq]
  cases write with
  | insert table values =>
    rw [hk]
    dsimp only [kind]
    rw [ht]
    unfold Descriptor.insertSql
    rw [hnamed, hbyName]
    have hmarkers : ((Entries.ofList (Descriptor.named builder.descriptor.values)).map
        fun column => ":" ++ column.1) =
          ((written (.insert table values) builder.descriptor.values).map (":" ++ ·)) := by
      simp [written, Entries.keys]
    rw [← hmarkers]
    rfl
  | update table values condition =>
    rw [hk]
    dsimp only [kind]
    rw [ht, Descriptor.updateSql_of_accepted haccepted]
    have hspaced (name : String) : " = :" ++ name = " = " ++ (":" ++ name) := by
      rw [← String.append_assoc]
      rfl
    have hassignments : builder.descriptor.values.map Descriptor.assignment = List.zipWith
        (fun column marker => column ++ " = " ++ marker)
        (builder.descriptor.values.map fun column => column.1.display)
        ((written (.update table values condition) builder.descriptor.values).map (":" ++ ·)) := by
      simp [written, Descriptor.markers, Descriptor.assignment, List.zipWith_map,
        List.zipWith_self, String.append_assoc, hspaced]
    exact congrArg (fun assignments =>
      let set := Descriptor.listed assignments
      let clause := builder.descriptor.clause.sql
      Except.ok s!"UPDATE {builder.descriptor.table.display} SET {set}{clause}") hassignments

/-! ## Later on -/

def writing (builder : Builder σ) : QueryKind × Value.Entries :=
  (builder.descriptor.kind, builder.descriptor.values)

def Operation.Continues : Operation σ → Prop
  | .filter _ | .continued _ => True
  | _ => False

variable [Connection σ]

/-- What starts no statement leaves the columns that are written. -/
theorem Operation.run_keeps_writing {operation : Operation σ} (h : operation.Continues) :
    Keeps Eq writing operation.run := by
  cases operation with
  | filter condition => exact filter_view (fun d => (d.kind, d.values)) (fun _ _ => rfl) _
  | continued operation =>
    exact operation.run_view (fun d => (d.kind, d.values)) (fun _ _ => rfl)
      (fun _ _ => rfl) (fun _ _ _ _ => rfl)
  | _ => cases h

theorem writing_performed {operations : List (Operation σ)}
    (h : ∀ operation ∈ operations, operation.Continues) :
    (builder.performed operations).writing = builder.writing := by
  induction operations generalizing builder with
  | nil => rfl
  | cons operation rest ih =>
    exact (ih fun other hother => h other (List.mem_cons_of_mem _ hother)).trans
      (Operation.run_keeps_writing (h operation List.mem_cons_self) builder).symm

/-- An accepted write has names and values for its columns, then and later. -/
theorem ColumnWrite.writes_of_accepted {write : ColumnWrite} {later : List (Operation σ)}
    (haccepted : write.run.outcome builder = .ok ())
    (hlater : ∀ operation ∈ later, operation.Continues) :
    ∃ columns bound, write.values = .map columns ∧
      ((write.run.after builder).performed later).descriptor.kind = write.kind ∧
      ((write.run.after builder).performed later).descriptor.Writes columns bound := by
  obtain ⟨table, given, clause, byName, hgiven, hd, hnamed⟩ :=
    write.descriptor_of_accepted haccepted
  have hkept : ((write.run.after builder).performed later).writing =
      (write.run.after builder).writing := writing_performed hlater
  obtain ⟨hk, hv⟩ := Prod.mk.inj hkept
  rw [Descriptor.valuePlaceholders_congr hv.symm] at hnamed
  rw [hd] at hk hv
  obtain ⟨bound, hb, -⟩ := Descriptor.get?_boundPlaceholders hnamed
  exact ⟨given, bound, hgiven, hk, performed_consistent later (write.consistent builder), hv,
    ⟨byName, hnamed⟩, hb⟩

def ColumnWrite.reached (write : ColumnWrite) (builder : Builder σ) (later : List (Operation σ)) :
    Builder σ :=
  (write.run.after builder).performed later

/-- **Columns that are not alike get their own values.** An INSERT or UPDATE that was accepted has a
text and values for it, whatever is done next short of another statement. Under the marker of a
column the value of the last column with an alike key is bound, so each column has a marker of its
own with its own value exactly if no two keys are alike. -/
theorem columns_own_values_iff (write : ColumnWrite) (builder : Builder σ)
    (later : List (Operation σ)) (haccepted : write.run.outcome builder = .ok ())
    (hlater : ∀ operation ∈ later, operation.Continues)
    (htable : (write.reached builder later).descriptor.table.truthy = true) :
    ∃ columns markers bound,
      write.values = .map columns ∧
      (write.reached builder later).placeholders = .ok bound ∧
      (write.reached builder later).sql = .ok (write.text
        (write.reached builder later).descriptor.table.display
        (columns.map fun column => column.1.display) (markers.map (":" ++ ·))
        (write.reached builder later).descriptor.clause.sql) ∧
      (∀ column ∈ columns, ∃ earlier last next, columns = earlier ++ last :: next ∧
        ColumnKey.Alike last.1 column.1 ∧ (∀ other ∈ next, ¬ ColumnKey.Alike other.1 column.1) ∧
        ColumnKey.marker column.1 ∈ markers ∧
        Entries.get? (.text (ColumnKey.marker column.1)) bound = some last.2.formatted) ∧
      (Descriptor.OwnValues columns markers bound ↔
        columns.Pairwise fun column other => ¬ ColumnKey.Alike column.1 other.1) := by
  obtain ⟨columns, bound, hgiven, hk, hwrites⟩ :=
    ColumnWrite.writes_of_accepted haccepted hlater
  refine ⟨columns, write.written (write.reached builder later).descriptor.values, bound, hgiven,
    hwrites.bound, ColumnWrite.sql_of_writes hk hwrites htable, fun column hcolumn => ?_, ?_⟩
  · obtain ⟨earlier, last, next, hsplit, hlike, hnext, hget⟩ := hwrites.get?_bound_of_last hcolumn
    refine ⟨earlier, last, next, hsplit, hlike, hnext, ?_, hget⟩
    rw [write.mem_written_iff]
    exact hwrites.markers_eq ▸ Descriptor.marker_mem_markers hcolumn
  · have hlength : (write.reached builder later).descriptor.values.length = columns.length := by
      rw [show (write.reached builder later).descriptor.values = _ from hwrites.values]
      exact List.length_map _
    refine hwrites.ownValues_iff ?_ ?_
    · rw [← hwrites.markers_eq]
      exact write.written_of_nodup
    · rw [← hwrites.markers_eq, ← hlength]
      exact write.nodup_of_written

/-- An UPDATE whose condition is on a column it writes, and a value added for its marker. -/
theorem columns_own_values_update :
    let columns : Value.Entries := [(.text "age", .int 32), (.text "user-name", .text "Zoe")]
    let write := ColumnWrite.update (.text "users") (.map columns) (.map [(.text "age", .int 31)])
    let later : List (Operation Scripted) :=
      [.continued (.addPlaceholders (.map [(.text "age", .int 7)]))]
    write.run.outcome onScript = .ok () ∧
      (∀ operation ∈ later, operation.Continues) ∧
      (write.reached onScript later).descriptor.table.truthy = true ∧
      ∃ markers bound, (write.reached onScript later).placeholders = .ok bound ∧
        Descriptor.OwnValues columns markers bound := by
  intro columns write later
  have haccepted : write.run.outcome onScript = .ok () := by rfl
  have hlater : ∀ operation ∈ later, operation.Continues := by
    intro operation hoperation
    cases List.mem_singleton.mp hoperation
    trivial
  have htable : (write.reached onScript later).descriptor.table.truthy = true := by rfl
  have hapart : ¬ ColumnKey.Alike (.text "age") (.text "user-name") := by
    rw [← ColumnKey.marker_eq_iff ⟨_, rfl, rfl⟩ ⟨_, rfl, rfl⟩]
    decide
  obtain ⟨given, markers, bound, hgiven, hbound, -, -, hown⟩ :=
    columns_own_values_iff write onScript later haccepted hlater htable
  obtain rfl : columns = given := Value.map.inj hgiven
  refine ⟨haccepted, hlater, htable, markers, bound, hbound, hown.mpr ?_⟩
  exact List.pairwise_pair.mpr hapart

/-- Two columns whose keys differ in a dot share one marker: an INSERT shows it once for both, and
the value of the first one is lost. -/
theorem alike_columns_share_value :
    let columns : Value.Entries := [(.text "a.b", .int 1), (.text "a_b", .int 2)]
    let given := (insert (.text "t") (.map columns)).after onScript
    (insert (.text "t") (.map columns)).outcome onScript = .ok () ∧
      given.sql = .ok "INSERT INTO t (a.b, a_b) VALUES (:a_b)" ∧
      given.placeholders = .ok [(.text "a_b", .int 2)] ∧
      ∀ markers, ¬ Descriptor.OwnValues columns markers [(.text "a_b", .int 2)] := by
  intro columns given
  refine ⟨rfl, rfl, rfl, fun markers h => ?_⟩
  obtain ⟨marker, _, hfirst, -, -⟩ := List.forall₂_cons_left_iff.mp h.own
  unfold Entries.get? at hfirst
  split at hfirst
  · cases hfirst
  · cases hfirst

end Builder

end SqlToolkit
