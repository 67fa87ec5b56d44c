import SqlToolkit.Dialect.Columns
import SqlToolkit.Proofs.Action
import SqlToolkit.Proofs.Statement.LeadingKeyword

/-!
# Queries for columns

The query for the columns of a table returns rows in every dialect, and binds the name of the table
if it does not have it in its SQL.
-/

namespace SqlToolkit.Dialect

open SqlToolkit.Statement

variable (parser : SqlParser)

/-- The SQL of a catalog begins on a line of its own, which is indented. -/
def indent : List Char := '\n' :: List.replicate 12 ' '

theorem isRead_show (part : String) : parser.isRead ("SHOW COLUMNS FROM " ++ part) = true := by
  have hsql : ("SHOW COLUMNS FROM " ++ part).toList =
      [] ++ (['S', 'H', 'O', 'W'] ++ ' ' :: ("COLUMNS FROM ".toList ++ part.toList)) := by simp
  exact parser.isRead_of_word hsql rfl rfl rfl

theorem isRead_pragma (part : String) :
    parser.isRead ("PRAGMA table_info(" ++ part ++ ")") = true := by
  have hsql : ("PRAGMA table_info(" ++ part ++ ")").toList =
      [] ++ ("PRAGMA".toList ++ ' ' :: ("table_info(".toList ++ (part.toList ++ [')']))) := by simp
  exact parser.isRead_of_word hsql rfl rfl rfl

theorem isRead_select_all (more : String) :
    parser.isRead ("\n            SELECT *" ++ more) = true := by
  have hsql : ("\n            SELECT *" ++ more).toList =
      indent ++ ("SELECT".toList ++ ' ' :: '*' :: more.toList) := by
    rw [String.toList_append]
    rfl
  exact parser.isRead_of_word hsql rfl rfl rfl

/-- The query for Firebird breaks the line after its first word. -/
theorem isRead_firebirdColumnsSql : parser.isRead firebirdColumnsSql = true := by
  obtain ⟨rest, hrest⟩ : ∃ rest, firebirdColumnsSql.toList =
      indent ++ ("SELECT".toList ++ '\n' :: rest) := by
    unfold firebirdColumnsSql
    rw [String.toList_append, String.toList_intercalate]
    exact ⟨_, rfl⟩
  exact parser.isRead_of_word hrest rfl rfl rfl

/-- Asking for the columns of a table is reading. -/
theorem columnsQuery_isRead {dialect : Dialect} {table : String} {catalog : CatalogQuery}
    (h : dialect.columnsQuery table = .ok catalog) : parser.isRead catalog.sql = true := by
  unfold columnsQuery at h
  cases dialect with
  | mysql =>
    obtain ⟨part, -, h⟩ := Action.of_attempts_ok h
    cases h
    exact isRead_show parser part
  | sqlite =>
    obtain ⟨part, -, h⟩ := Action.of_attempts_ok h
    cases h
    exact isRead_pragma parser part
  | postgresql | oracle =>
    cases h
    simp only [String.append_assoc]
    exact isRead_select_all parser _
  | firebird =>
    cases h
    exact isRead_firebirdColumnsSql parser

/-- A query for columns binds one text at most. -/
theorem columnsQuery_placeholders {dialect : Dialect} {table : String} {catalog : CatalogQuery}
    (h : dialect.columnsQuery table = .ok catalog) :
    catalog.placeholders = [] ∨ ∃ name, catalog.placeholders = [("table_name", .text name)] := by
  unfold columnsQuery at h
  cases dialect with
  | mysql | sqlite =>
    obtain ⟨part, -, h⟩ := Action.of_attempts_ok h
    cases h
    exact .inl rfl
  | postgresql | oracle | firebird =>
    cases h
    exact .inr ⟨_, rfl⟩

end SqlToolkit.Dialect
