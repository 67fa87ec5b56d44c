import Mathlib.Data.List.Forall2
import SqlToolkit.Builder.Descriptor
import SqlToolkit.Proofs.Entries

/-!
# The names of column values

A column key gives its placeholder name without the blanks around it and with every dot and dash
turned into an underscore. Keys that differ in nothing else are *alike*, and column values under
alike keys share one name, under which the last of them is found.
-/

namespace SqlToolkit

open SqlToolkit.Text

/-! ## Reading several items -/

section Items

variable {α β : Type} {f : α → Attempt β} {g : α → β} {items : List α} {results : List β}

/-- Where all items can be read, reading them in order is reading each of them. -/
theorem mapM_eq_map (h : ∀ item ∈ items, f item = .ok (g item)) :
    items.mapM f = .ok (items.map g) := by
  induction items with
  | nil => rfl
  | cons item rest ih =>
    have hrest := ih fun other hother => h other (List.mem_cons_of_mem _ hother)
    rw [List.mapM_cons, h item List.mem_cons_self, hrest]
    rfl

theorem map_of_mapM (hf : ∀ item result, f item = .ok result → result = g item)
    (h : items.mapM f = .ok results) :
    (∀ item ∈ items, f item = .ok (g item)) ∧ results = items.map g := by
  induction items generalizing results with
  | nil => cases h; exact ⟨by simp, rfl⟩
  | cons item rest ih =>
    rw [List.mapM_cons] at h
    cases hi : f item with
    | error fault => rw [hi] at h; cases h
    | ok result =>
      rw [hi] at h
      cases hr : rest.mapM f with
      | error fault => rw [hr] at h; cases h
      | ok more =>
        rw [hr] at h
        cases h
        obtain ⟨hread, rfl⟩ := ih hr
        obtain rfl := hf item result hi
        refine ⟨fun other hother => ?_, rfl⟩
        rcases List.mem_cons.mp hother with rfl | hother
        · exact hi
        · exact hread other hother

end Items

/-! ## Names of keys -/

namespace ColumnKey

/-- The characters that a placeholder name does not tell apart. -/
def Separates (c : Char) : Prop := c = '.' ∨ c = '-' ∨ c = '_'

/-- The keys differ in nothing but the blanks around them and the separators they use. -/
def Alike (key other : Value) : Prop :=
  ∃ content content', key = .text content ∧ other = .text content' ∧
    List.Forall₂ (fun c d => c = d ∨ Separates c ∧ Separates d)
      (trimChars content.toList) (trimChars content'.toList)

/-- The key is a column name, blanks around it aside. -/
def Accepted (key : Value) : Prop :=
  ∃ content, key = .text content ∧ isColumn (trimChars content.toList) = true

def marker : Value → String
  | .text content => String.ofList (flatten (trimChars content.toList))
  | _ => ""

theorem placeholder_of_accepted {key : Value} (h : Accepted key) :
    placeholder key = .ok (marker key) := by
  obtain ⟨content, rfl, hcolumn⟩ := h
  exact if_pos hcolumn

theorem accepted_of_placeholder {key : Value} {name : String} (h : placeholder key = .ok name) :
    Accepted key ∧ name = marker key := by
  unfold placeholder at h
  dsimp only at h
  split at h
  · next content =>
    split at h
    · next hcolumn =>
      cases h
      exact ⟨⟨content, rfl, hcolumn⟩, rfl⟩
    · exact absurd h Value.refuse_ne_ok
  · exact absurd h Value.refuse_ne_ok

theorem flatten_eq_iff (chars others : List Char) :
    flatten chars = flatten others ↔
      List.Forall₂ (fun c d => c = d ∨ Separates c ∧ Separates d) chars others := by
  have hchar (c d : Char) :
      ((if c = '.' ∨ c = '-' then '_' else c) = if d = '.' ∨ d = '-' then '_' else d) ↔
        c = d ∨ Separates c ∧ Separates d := by
    unfold Separates
    grind
  rw [flatten, flatten, ← List.forall₂_eq_eq_eq, List.forall₂_map_left_iff,
    List.forall₂_map_right_iff]
  simp only [hchar]

/-- Keys share a name exactly if they are alike. -/
theorem marker_eq_iff {key other : Value} (hkey : Accepted key) (hother : Accepted other) :
    marker key = marker other ↔ Alike key other := by
  obtain ⟨content, rfl, -⟩ := hkey
  obtain ⟨content', rfl, -⟩ := hother
  calc marker (.text content) = marker (.text content')
      ↔ flatten (trimChars content.toList) = flatten (trimChars content'.toList) :=
        String.ofList_inj
    _ ↔ List.Forall₂ (fun c d => c = d ∨ Separates c ∧ Separates d)
        (trimChars content.toList) (trimChars content'.toList) := flatten_eq_iff _ _
    _ ↔ Alike (.text content) (.text content') := by
        constructor
        · exact fun h => ⟨content, content', rfl, rfl, h⟩
        · rintro ⟨_, _, ⟨⟩, ⟨⟩, h⟩
          exact h

end ColumnKey

/-! ## Named values -/

namespace Descriptor

/-- Column values under the names of their keys; a name may come several times. -/
def named (entries : Value.Entries) : List (String × Value) :=
  entries.map fun entry => (ColumnKey.marker entry.1, entry.2)

def markers (columns : Value.Entries) : List String :=
  columns.map fun column => ColumnKey.marker column.1

theorem keys_named (columns : Value.Entries) : Entries.keys (named columns) = markers columns := by
  simp [Entries.keys, named, markers]

theorem marker_mem_markers {columns : Value.Entries} {column : Value × Value}
    (h : column ∈ columns) : ColumnKey.marker column.1 ∈ markers columns :=
  List.mem_map_of_mem (f := fun column => ColumnKey.marker column.1) h

def readNamed (entry : Value × Value) : Attempt (String × Value) := do
  return (← ColumnKey.placeholder entry.1, entry.2)

theorem readNamed_eq_ok {entry : Value × Value} {result : String × Value}
    (h : readNamed entry = .ok result) :
    ColumnKey.Accepted entry.1 ∧ result = (ColumnKey.marker entry.1, entry.2) := by
  unfold readNamed at h
  cases hk : ColumnKey.placeholder entry.1 with
  | error fault => rw [hk] at h; cases h
  | ok name =>
    rw [hk] at h
    cases h
    obtain ⟨haccepted, rfl⟩ := ColumnKey.accepted_of_placeholder hk
    exact ⟨haccepted, rfl⟩

theorem valuePlaceholders_eq (descriptor : Descriptor) :
    descriptor.valuePlaceholders = (descriptor.values.mapM readNamed).map Entries.ofList := rfl

/-- A statement has names for its column values only if all keys are accepted. -/
theorem named_of_valuePlaceholders {descriptor : Descriptor} {columns : List (String × Value)}
    (h : descriptor.valuePlaceholders = .ok columns) :
    (∀ entry ∈ descriptor.values, ColumnKey.Accepted entry.1) ∧
      columns = Entries.ofList (named descriptor.values) := by
  rw [valuePlaceholders_eq] at h
  cases hm : descriptor.values.mapM readNamed with
  | error fault => rw [hm] at h; cases h
  | ok given =>
    rw [hm] at h
    cases h
    obtain ⟨hread, rfl⟩ := map_of_mapM (fun _ _ h => (readNamed_eq_ok h).2) hm
    exact ⟨fun entry hentry => (readNamed_eq_ok (hread entry hentry)).1, rfl⟩

theorem valuePlaceholders_of_accepted {descriptor : Descriptor}
    (h : ∀ entry ∈ descriptor.values, ColumnKey.Accepted entry.1) :
    descriptor.valuePlaceholders = .ok (Entries.ofList (named descriptor.values)) := by
  rw [valuePlaceholders_eq, mapM_eq_map (g := fun entry => (ColumnKey.marker entry.1, entry.2))]
  · rfl
  · intro entry hentry
    rw [readNamed, ColumnKey.placeholder_of_accepted (h entry hentry)]
    rfl

/-- An assignment of an UPDATE: the column to the marker of its key. -/
def assignment (entry : Value × Value) : String :=
  entry.1.display ++ " = :" ++ ColumnKey.marker entry.1

def readAssignment (entry : Value × Value) : Attempt String := do
  return entry.1.display ++ " = :" ++ (← ColumnKey.placeholder entry.1)

theorem readAssignment_eq_ok {entry : Value × Value} {result : String}
    (h : readAssignment entry = .ok result) :
    ColumnKey.Accepted entry.1 ∧ result = assignment entry := by
  unfold readAssignment at h
  cases hk : ColumnKey.placeholder entry.1 with
  | error fault => rw [hk] at h; cases h
  | ok name =>
    rw [hk] at h
    cases h
    obtain ⟨haccepted, rfl⟩ := ColumnKey.accepted_of_placeholder hk
    exact ⟨haccepted, rfl⟩

theorem updateSql_eq (descriptor : Descriptor) :
    descriptor.updateSql = (descriptor.values.mapM readAssignment).map fun assignments =>
      let set := listed assignments
      s!"UPDATE {descriptor.table.display} SET {set}{descriptor.clause.sql}" := rfl

theorem updateSql_of_accepted {descriptor : Descriptor}
    (h : ∀ entry ∈ descriptor.values, ColumnKey.Accepted entry.1) :
    let set := listed (descriptor.values.map assignment)
    descriptor.updateSql =
      .ok s!"UPDATE {descriptor.table.display} SET {set}{descriptor.clause.sql}" := by
  have hread : descriptor.values.mapM readAssignment = .ok (descriptor.values.map assignment) := by
    refine mapM_eq_map fun entry hentry => ?_
    rw [readAssignment, ColumnKey.placeholder_of_accepted (h entry hentry)]
    rfl
  rw [updateSql_eq, hread]
  rfl

theorem accepted_of_updateSql {descriptor : Descriptor} {sql : String}
    (h : descriptor.updateSql = .ok sql) :
    ∀ entry ∈ descriptor.values, ColumnKey.Accepted entry.1 := by
  rw [updateSql_eq] at h
  cases hm : descriptor.values.mapM readAssignment with
  | error fault => rw [hm] at h; cases h
  | ok results =>
    obtain ⟨hread, -⟩ := map_of_mapM (fun _ _ h => (readAssignment_eq_ok h).2) hm
    exact fun entry hentry => (readAssignment_eq_ok (hread entry hentry)).1

/-! ## Bound values -/

theorem last?_asPlaceholders (name : String) (given : List (String × Value)) :
    Entries.last? (.text name) (asPlaceholders given) = Entries.last? name given := by
  have hkey : (fun entry : Value × Value => entry.1 == .text name) ∘
      (fun entry : String × Value => (Value.text entry.1, entry.2)) = (·.1 == name) := by
    funext entry
    rw [Bool.eq_iff_iff, Function.comp_apply, Value.beq_text_iff, beq_iff_eq, Value.text.injEq]
  unfold Entries.last? asPlaceholders
  rw [← List.map_reverse, List.find?_map, hkey, Option.map_map]
  rfl

def explicit? (name : String) (descriptor : Descriptor) : Option Value :=
  Entries.get? (.text name) descriptor.placeholders

/-- The value that a statement itself binds under a name: one of its condition, or else that of a
column. -/
def generated? (name : String) (descriptor : Descriptor) : Option Value :=
  (Entries.last? name descriptor.clause.placeholders).or
    (Entries.last? name (named descriptor.values))

/-- Under a name the value is bound that the statement generates for it, or else the one that was
added for it. -/
theorem get?_boundPlaceholders {descriptor : Descriptor} {columns : List (String × Value)}
    (h : descriptor.valuePlaceholders = .ok columns) :
    ∃ bound, descriptor.boundPlaceholders = .ok bound ∧ ∀ name,
      Entries.get? (.text name) bound =
        (descriptor.generated? name).or (descriptor.explicit? name) := by
  obtain ⟨-, rfl⟩ := named_of_valuePlaceholders h
  refine ⟨_, by rw [boundPlaceholders, h]; rfl, fun name => ?_⟩
  rw [Entries.get?_merge (Value.sharp_text name), Entries.get?_merge (Value.sharp_text name),
    last?_asPlaceholders, last?_asPlaceholders, Entries.last?_eq_get? (Entries.nodup_keys_ofList _),
    Entries.get?_ofList (Entries.sharp_of_lawful _), generated?, explicit?, Option.or_assoc]

end Descriptor

end SqlToolkit
