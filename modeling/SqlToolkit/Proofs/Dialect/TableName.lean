import SqlToolkit.Dialect.Columns
import SqlToolkit.Proofs.Action
import SqlToolkit.Proofs.Text.Pieces

/-!
# The name of a table in a query for columns

Three dialects bind the name of the table and have the same SQL for every table. The other two have
the name in their SQL, in one place. What stands there is one part or two between the quotes of the
dialect, and no part has a character that could end it: no quote and no blank. A name that is no
identifier is refused.
-/

namespace SqlToolkit

open SqlToolkit.Text

namespace Identifier

def isQuote (c : Char) : Bool := c == '"' || c == '\'' || c == '\x60'

/-- A character that cannot end a part of a name. -/
def isInert (c : Char) : Bool := !isQuote c && !isBlank c

def isAccepted (c : Char) : Bool := isWord c || c == '$'

/-- A plain identifier: a name, or two names with a dot between them. -/
def IsPlain (name : List Char) : Prop :=
  ∃ parts : List (List Char), (parts.length = 1 ∨ parts.length = 2) ∧
    (∀ part ∈ parts, isName isAccepted part = true) ∧ ['.'].intercalate parts = name

theorem isInert_of_isWord {c : Char} (h : isWord c = true) : isInert c = true := by
  have hquote : isQuote c = false := by
    refine Bool.eq_false_iff.mpr fun hc => ?_
    have hcase : c = '"' ∨ c = '\'' ∨ c = '\x60' := by simpa [isQuote, or_assoc] using hc
    rcases hcase with rfl | rfl | rfl
    all_goals exact absurd h (by decide)
  rw [isInert, hquote, isBlank_of_isWord h]
  rfl

theorem isInert_of_isAccepted {c : Char} (h : isAccepted c = true) : isInert c = true := by
  rcases Bool.or_eq_true_iff.mp h with hword | hdollar
  · exact isInert_of_isWord hword
  · rw [beq_iff_eq.mp hdollar]
    rfl

theorem isWord_of_isInitial {c : Char} (h : isInitial c = true) : isWord c = true := by
  refine isWord_of_isAsciiWord ?_
  rcases Bool.or_eq_true_iff.mp h with hletter | hunderscore
  · rw [isAsciiWord, Char.isAlphanum, (Bool.and_eq_true_iff.mp hletter).2]
    rfl
  · rw [isAsciiWord, hunderscore, Bool.or_true]

/-- A name is made of accepted characters, at least one. -/
theorem isRun_of_isName {part : List Char} (h : isName isAccepted part = true) :
    IsRun isAccepted part := by
  cases part with
  | nil => cases h
  | cons c rest =>
    obtain ⟨hinitial, hrest⟩ := Bool.and_eq_true_iff.mp h
    refine ⟨List.cons_ne_nil c rest, List.forall_mem_cons.mpr ⟨?_, List.all_eq_true.mp hrest⟩⟩
    rw [isAccepted, isWord_of_isInitial hinitial, Bool.true_or]

theorem areNames_iff {parts : List (List Char)} : areNames isAccepted parts = true ↔
    (parts.length = 1 ∨ parts.length = 2) ∧ ∀ part ∈ parts, isName isAccepted part = true := by
  simp [areNames]

/-- A plain identifier is one whose pieces between the dots are names. -/
theorem isPlain_iff {name : List Char} :
    IsPlain name ↔ areNames isAccepted (splitAtChar '.' name) = true := by
  rw [areNames_iff]
  constructor
  · rintro ⟨parts, hcount, hnames, rfl⟩
    have hne : parts ≠ [] := by
      rintro rfl
      simp at hcount
    have hdot : ∀ part ∈ parts, '.' ∉ part := fun part hpart hmem =>
      absurd ((isRun_of_isName (hnames part hpart)).2 '.' hmem) (by decide)
    rw [splitAtChar_intercalate hne hdot]
    exact ⟨hcount, hnames⟩
  · rintro ⟨hcount, hnames⟩
    exact ⟨_, hcount, hnames, intercalate_splitAtChar '.' name⟩

theorem parts?_eq (name : List Char) : parts? name =
    if areNames isAccepted (splitAtChar '.' name) = true then some (splitAtChar '.' name)
    else none := rfl

end Identifier

namespace Dialect

open Identifier

/-- A text that holds a name in the quotes of the dialect: one part or two with a dot between them.
No part has a quote or a blank, and without the quotes the parts are the name. -/
structure HoldsName (dialect : Dialect) (name : String) (parts : List (List Char))
    (place : String) : Prop where
  count : parts.length = 1 ∨ parts.length = 2
  inert : ∀ part ∈ parts, IsRun isInert part
  quoted : place = ".".intercalate (parts.map dialect.quotePart)
  joined : String.ofList (['.'].intercalate parts) = name

def refusedName (table : String) : Fault := .parameter (.badIdentifier (Quoted.text (trim table)))

/-- A name is quoted part by part, or refused if it is no plain identifier. -/
theorem quoteIdentifier_cases (dialect : Dialect) (table : String) :
    (¬ IsPlain (trimChars table.toList) ∧
      dialect.quoteIdentifier table = .error (refusedName table)) ∨
    ∃ parts place, IsPlain (trimChars table.toList) ∧ dialect.HoldsName (trim table) parts place ∧
      dialect.quoteIdentifier table = .ok place := by
  unfold quoteIdentifier
  dsimp only
  rw [parts?_eq]
  by_cases hplain : IsPlain (trimChars table.toList)
  · have hnames := isPlain_iff.mp hplain
    obtain ⟨hcount, heach⟩ := areNames_iff.mp hnames
    rw [if_pos hnames]
    refine .inr ⟨_, _, hplain, ⟨hcount, fun part hpart => ?_, rfl, ?_⟩, rfl⟩
    · obtain ⟨hne, haccepted⟩ := isRun_of_isName (heach part hpart)
      exact ⟨hne, fun c hc => isInert_of_isAccepted (haccepted c hc)⟩
    · rw [intercalate_splitAtChar, trim]
  · rw [if_neg (mt isPlain_iff.mpr hplain)]
    exact .inl ⟨hplain, rfl⟩

/-- Whether the name of the table is bound to the query for its columns. -/
def bindsTable : Dialect → Bool
  | .mysql | .sqlite => false
  | .postgresql | .oracle | .firebird => true

/-- A query with the name between two fixed texts is asked for if the name can be quoted. -/
theorem columnsQuery_around {dialect : Dialect} {before after : String}
    (h : ∀ table, dialect.columnsQuery table =
      (dialect.quoteIdentifier table).map fun place => ⟨before ++ place ++ after, []⟩)
    (table : String) :
    (¬ IsPlain (trimChars table.toList) ∧
      dialect.columnsQuery table = .error (refusedName table)) ∨
    ∃ parts place, IsPlain (trimChars table.toList) ∧ dialect.HoldsName (trim table) parts place ∧
      dialect.columnsQuery table = .ok ⟨before ++ place ++ after, []⟩ := by
  rw [h]
  rcases dialect.quoteIdentifier_cases table with
    ⟨hplain, hrefused⟩ | ⟨parts, place, hplain, hholds, hok⟩
  · exact .inl ⟨hplain, by rw [hrefused]; rfl⟩
  · exact .inr ⟨parts, place, hplain, hholds, by rw [hok]; rfl⟩

/-- **The name of a table cannot change a query for columns.** A dialect that binds the name has one
SQL for all tables, whatever the name is. On the other dialects the SQL is the same for all tables
but for one place, which holds the trimmed name in quotes that nothing in it can end; a name that is
no plain identifier is refused instead. -/
theorem columnsQuery_confines_name (dialect : Dialect) :
    (dialect.bindsTable = true ∧ ∃ sql, ∀ table, ∃ name,
      (name = trim table ∨ name = upper (trim table)) ∧
      dialect.columnsQuery table = .ok ⟨sql, [("table_name", .text name)]⟩) ∨
    (dialect.bindsTable = false ∧ ∃ before after, ∀ table,
      (¬ IsPlain (trimChars table.toList) ∧
        dialect.columnsQuery table = .error (refusedName table)) ∨
      ∃ parts place, IsPlain (trimChars table.toList) ∧
        dialect.HoldsName (trim table) parts place ∧
        dialect.columnsQuery table = .ok ⟨before ++ place ++ after, []⟩) := by
  cases dialect with
  | postgresql => exact .inl ⟨rfl, _, fun table => ⟨_, .inl rfl, rfl⟩⟩
  | oracle | firebird => exact .inl ⟨rfl, _, fun table => ⟨_, .inr rfl, rfl⟩⟩
  | mysql =>
    refine .inr ⟨rfl, "SHOW COLUMNS FROM ", "", columnsQuery_around fun table => ?_⟩
    unfold columnsQuery
    cases quoteIdentifier .mysql table with
    | error fault => rfl
    | ok place =>
      rw [Except.map, String.append_empty]
      rfl
  | sqlite =>
    refine .inr ⟨rfl, "PRAGMA table_info(", ")", columnsQuery_around fun table => ?_⟩
    unfold columnsQuery
    cases quoteIdentifier .sqlite table with
    | error fault => rfl
    | ok place => rfl

end Dialect

end SqlToolkit
