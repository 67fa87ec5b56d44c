import SqlToolkit.Proofs.Condition.Freshness
import SqlToolkit.Proofs.Pages.Sending

/-!
# The source of a selection

A selection says where its records come from and under which condition. The statement that counts
them and the one that fetches those of a page are both made of that, and both bind the values of the
condition under their names, though the first one may copy them for a statement around it.
-/

namespace SqlToolkit

/-! ## The values of a condition -/

theorem Value.formatted_formatted (value : Value) :
    value.formatted.formatted = value.formatted := by
  cases value <;> rfl

namespace Condition.Clause

/-- Formatting the values of the clause changes none of them. -/
def Formatted (clause : Clause) : Prop := ∀ entry ∈ clause.placeholders, entry.2.formatted = entry.2

variable {clause grown : Clause} {reserved : List String}

theorem Formatted.addEntry {entry : Entry} {text : String} (hclause : clause.Formatted)
    (h : clause.addEntry reserved entry = .ok (text, grown)) : grown.Formatted := by
  unfold Clause.addEntry at h
  split at h
  · unfold addKeyed at h
    dsimp only at h
    split at h
    · cases h
    · split at h
      · cases h
      · cases h
        intro added hadded
        rcases List.mem_append.mp hadded with hold | hnew
        · exact hclause added hold
        · rw [List.mem_singleton.mp hnew]
          exact Value.formatted_formatted _
  · split at h
    · cases h
      exact hclause
    · cases h
  · exact absurd h Value.refuse_ne_ok

theorem Formatted.compileEntries (entries : List Entry) (hclause : clause.Formatted) :
    (clause.compileEntries reserved entries).2.Formatted := by
  have hadded : (clause.addEntries reserved entries).2.Formatted := by
    induction entries generalizing clause with
    | nil => exact hclause
    | cons entry rest ih =>
      unfold addEntries
      split
      · exact ih hclause
      · cases h : clause.addEntry reserved entry with
        | error cause => exact hclause
        | ok added => exact ih (hclause.addEntry h)
  unfold Clause.compileEntries
  split
  · next heq =>
    rw [heq] at hadded
    exact hadded
  · next heq =>
    rw [heq] at hadded
    exact hadded

theorem formatted_set (clause : Clause) (condition : Value) (reserved : List String) :
    (clause.set condition reserved).2.Formatted := by
  have hretired : clause.retire.Formatted := fun _ hentry => by cases hentry
  unfold set
  dsimp only
  split
  · exact hretired
  · split
    · exact hretired
    · exact hretired
  · exact hretired.compileEntries _
  · split
    · exact hretired.compileEntries _
    · exact hretired
  · split
    · exact hretired.compileEntries _
    · exact hretired
  · exact hretired

end Condition.Clause

namespace Descriptor

def source (descriptor : Descriptor) : String := descriptor.table.display ++ descriptor.clause.sql

/-- A statement without values of its own binds those of its condition. -/
theorem boundPlaceholders_of_condition {descriptor : Descriptor} {condition : Value}
    {reserved : List String} {given : Condition.Clause} {answer : Attempt Unit}
    (hvalues : descriptor.values = []) (hplaceholders : descriptor.placeholders = [])
    (hclause : given.set condition reserved = (answer, descriptor.clause)) :
    descriptor.boundPlaceholders = .ok (asPlaceholders descriptor.clause.placeholders) := by
  have hfresh := (Condition.Clause.fresh_set given condition reserved).1.distinct
  rw [hclause] at hfresh
  unfold boundPlaceholders valuePlaceholders
  rw [hvalues, hplaceholders]
  exact congrArg Except.ok (merge_asPlaceholders hfresh)

end Descriptor

/-! ## The source of a selection -/

/-- The text that says where the records of a selection come from, with the values that it binds. -/
def Facade.Selection.source (selection : Facade.Selection) : Attempt (String × Value.Entries) := do
  let table ← Builder.tableExpression selection.table
  let condition := Condition.Clause.set {} selection.condition []
  condition.1
  return (" FROM " ++ table.display ++ condition.2.sql,
    Descriptor.asPlaceholders condition.2.placeholders)

/-- The values are bound under names. -/
theorem Facade.Selection.named_of_source {selection : Facade.Selection} {segment : String}
    {values : Value.Entries} (h : selection.source = .ok (segment, values)) :
    ∀ entry ∈ values, entry.1.isWritable = true := by
  obtain ⟨table, -, h⟩ := Action.of_attempts_ok h
  obtain ⟨⟨⟩, -, h⟩ := Action.of_attempts_ok h
  cases h
  intro entry hentry
  obtain ⟨bound, -, rfl⟩ := List.mem_map.mp hentry
  rfl

/-- The debug mode of a selection is one, and if it captures, the values that the selection binds
can be written. -/
structure Facade.Selection.Debugs {σ : Type} (selection : Facade.Selection) (facade : Facade σ)
    (debug : Value) : Prop where
  named : ∃ mode, DebugMode.ofValue debug = .ok mode
  written : facade.Captures debug → ∀ segment values, selection.source = .ok (segment, values) →
    ∀ entry ∈ values, entry.2.isWritable = true

namespace Descriptor

/-- The statement is made of the table and the condition of a selection. -/
structure DrawsFrom (descriptor : Descriptor) (selection : Facade.Selection) : Prop where
  kind : descriptor.kind = .select
  table : Builder.tableExpression selection.table = .ok descriptor.table
  clause : Condition.Clause.set {} selection.condition [] = (.ok (), descriptor.clause)
  values : descriptor.values = []
  placeholders : descriptor.placeholders = []

variable {descriptor : Descriptor} {selection : Facade.Selection}

theorem drawsFrom_of_gives {entries : Value.Entries} (h : selection.Gives entries descriptor) :
    descriptor.DrawsFrom selection :=
  ⟨h.kind, h.table, h.clause, h.values, h.placeholders⟩

/-- Its source is that of the selection, and it binds the values of that. Copying these for another
statement changes nothing about them. -/
theorem DrawsFrom.source (h : descriptor.DrawsFrom selection) :
    ∃ values, selection.source = .ok (" FROM " ++ descriptor.source, values) ∧
      descriptor.boundPlaceholders = .ok values ∧
      Entries.merge [] (Value.formattedEntries values) = values := by
  refine ⟨asPlaceholders descriptor.clause.placeholders, ?_,
    boundPlaceholders_of_condition h.values h.placeholders h.clause, ?_⟩
  · unfold Facade.Selection.source
    rw [h.table, h.clause]
    show Except.ok (" FROM " ++ descriptor.table.display ++ descriptor.clause.sql, _) = _
    rw [String.append_assoc]
    rfl
  · have hformatted := Condition.Clause.formatted_set {} selection.condition []
    have hfresh := (Condition.Clause.fresh_set {} selection.condition []).1.distinct
    rw [h.clause] at hformatted hfresh
    have hkept : Value.formattedEntries (asPlaceholders descriptor.clause.placeholders) =
        asPlaceholders descriptor.clause.placeholders := by
      refine List.map_map.trans (List.map_congr_left fun entry hentry => ?_)
      exact congrArg (Prod.mk (Value.text entry.1)) (hformatted entry hentry)
    rw [hkept]
    exact merge_asPlaceholders hfresh

end Descriptor

namespace Pager

open Descriptor (DrawsFrom drawsFrom_of_gives)

variable {σ : Type} {selection : Facade.Selection} {entries : Value.Entries} {dialect : Dialect}
  {columns sql : String} {values placeholders : Value.Entries}

/-- What a descriptor that draws from a selection is written as. -/
theorem written_of_drawsFrom {descriptor : Descriptor} (h : descriptor.DrawsFrom selection)
    (hwritten : descriptor.rendered dialect = .ok (sql, placeholders)) :
    descriptor.sql dialect = .ok sql ∧
      selection.source = .ok (" FROM " ++ descriptor.source, placeholders) ∧
      Entries.merge [] (Value.formattedEntries placeholders) = placeholders := by
  obtain ⟨text, hsql, hwritten⟩ := Action.of_attempts_ok hwritten
  obtain ⟨bound, hbound, hwritten⟩ := Action.of_attempts_ok hwritten
  cases hwritten
  obtain ⟨values, hsource, hvalues, hcopied⟩ := h.source
  cases hvalues.symm.trans hbound
  exact ⟨hsql, hsource, hcopied⟩

theorem drawsFrom_of_grouped {grouping : Value} {distinct : Bool} {descriptor : Descriptor}
    (h : selection.grouped columns grouping distinct = .ok descriptor) :
    descriptor.DrawsFrom selection ∧
      Builder.fieldList (.text columns) = .ok descriptor.fields ∧
      descriptor.parameters = { groupBy := grouping, selectDistinct := .bool distinct } := by
  obtain ⟨fields, hfields, h⟩ := Action.of_attempts_ok h
  obtain ⟨table, htable, h⟩ := Action.of_attempts_ok h
  obtain ⟨⟨⟩, haccepted, h⟩ := Action.of_attempts_ok h
  cases h
  exact ⟨⟨rfl, htable, Prod.ext haccepted rfl, rfl, rfl⟩, hfields, rfl⟩

/-- Raw SQL is written as it is, and binds a copy of the values that it is given. -/
theorem rendered_of_raw {text : String}
    (h : Facade.composedRaw (.text text) (.map values) >>= (·.rendered dialect) =
      .ok (sql, placeholders)) :
    sql = text ∧ placeholders = Entries.merge [] (Value.formattedEntries values) := by
  cases h
  exact ⟨rfl, rfl⟩

/-- The statement that counts the records of a selection binds the values of its source. -/
theorem source_of_counted
    (h : counted selection entries columns dialect >>= (·.rendered dialect) =
      .ok (sql, placeholders)) :
    ∃ segment, selection.source = .ok (segment, placeholders) := by
  cases hgroups : (groupingOf entries).truthy with
  | false =>
    rw [counted_of_plain hgroups] at h
    obtain ⟨descriptor, hd, hwritten⟩ := Action.of_attempts_ok h
    obtain ⟨given, hgives⟩ := Facade.Selection.gives_of_composed hd
    obtain ⟨-, hsource, -⟩ := written_of_drawsFrom (drawsFrom_of_gives hgives) hwritten
    exact ⟨_, hsource⟩
  | true =>
    obtain ⟨descriptor, hd, hwritten⟩ := Action.of_attempts_ok h
    rw [counted_eq, if_pos hgroups] at hd
    obtain ⟨inner, hinner, hd⟩ := Action.of_attempts_ok hd
    obtain ⟨⟨text, copied⟩, hgrouped, hd⟩ := Action.of_attempts_ok hd
    obtain ⟨hdraws, -, -⟩ := drawsFrom_of_grouped hinner
    obtain ⟨-, hsource, hcopied⟩ := written_of_drawsFrom hdraws hgrouped
    have hraw : Facade.composedRaw (.text (countOfGroups text)) (.map copied) >>=
        (·.rendered dialect) = .ok (sql, placeholders) := by
      rw [hd]
      exact hwritten
    obtain ⟨-, rfl⟩ := rendered_of_raw hraw
    rw [hcopied]
    exact ⟨_, hsource⟩

/-- So does the statement that fetches the records of a page. -/
theorem source_of_page
    (h : (selection.page entries).composed >>= (·.rendered dialect) = .ok (sql, placeholders)) :
    ∃ segment, selection.source = .ok (segment, placeholders) := by
  obtain ⟨descriptor, hd, hwritten⟩ := Action.of_attempts_ok h
  obtain ⟨given, hgives⟩ := Facade.Selection.gives_of_composed hd
  obtain ⟨-, hsource, -⟩ := written_of_drawsFrom (drawsFrom_of_gives hgives) hwritten
  exact ⟨_, hsource⟩

/-- So the debug mode allows for both. -/
theorem debugs_of_selection {facade : Facade σ} {debug : Value}
    (h : selection.Debugs facade debug) {composed : Attempt Descriptor}
    (hsource : ∀ sql placeholders,
      composed >>= (·.rendered facade.builder.dialect) = .ok (sql, placeholders) →
        ∃ segment, selection.source = .ok (segment, placeholders)) :
    facade.Debugs debug composed := by
  refine ⟨h.named, fun hcaptures sql placeholders hrendered entry hentry => ?_⟩
  obtain ⟨segment, hvalues⟩ := hsource sql placeholders hrendered
  exact ⟨Facade.Selection.named_of_source hvalues entry hentry,
    h.written hcaptures segment placeholders hvalues entry hentry⟩

end Pager

end SqlToolkit
