import Mathlib.Data.Finset.Option
import SqlToolkit.Proofs.Join
import SqlToolkit.Value.Basic

/-!
# What a SELECT statement returns

A SELECT of all columns, of one column or of one count is told apart from its text. What follows
`FROM` stays as it is written: it stands for rows, and two statements that have it in common have
those rows in common. `DISTINCT` keeps one of several equal results, where NULL equals NULL; a count
of a column leaves out NULL.
-/

namespace SqlToolkit

open SqlToolkit.Text

/-! ## Statements -/

/-- What is counted: rows, or the values of a column that are not NULL. -/
inductive Tally where
  /-- `COUNT(*)` -/
  | rows
  /-- `COUNT(column)` or `COUNT(DISTINCT column)` -/
  | values (distinct : Bool) (column : String)
  deriving Repr, DecidableEq

inductive Selected where
  | all
  | column (name : String)
  | count (tally : Tally)
  deriving Repr, DecidableEq

/-- `SELECT [DISTINCT] selected FROM source` -/
structure Query where
  distinct : Bool
  selected : Selected
  source : String
  deriving Repr, DecidableEq

/-! ## Meaning -/

/-- The contents of a database: the rows that the text after `FROM` stands for with the values of
its markers, and what a row has in a column; NULL is no value. -/
structure Contents (R V : Type) where
  rows : String → Value.Entries → List R
  cell : String → R → Option V

namespace Query

variable {R V : Type} [DecidableEq R] [DecidableEq V]

/-- The results without what is repeated, if only distinct ones are asked for. -/
def kept {α : Type} [DecidableEq α] (distinct : Bool) (results : List α) : List α :=
  if distinct then results.dedup else results

def rowCount (query : Query) (contents : Contents R V) (values : Value.Entries) : Nat :=
  let rows := contents.rows query.source values
  match query.selected with
  | .all => (kept query.distinct rows).length
  | .column name => (kept query.distinct (rows.map (contents.cell name))).length
  | .count _ => 1

/-- The number in the first column, if that is a count. -/
def countValue? (query : Query) (contents : Contents R V) (values : Value.Entries) : Option Nat :=
  let rows := contents.rows query.source values
  match query.selected with
  | .count .rows => some rows.length
  | .count (.values distinct name) =>
    some (kept distinct (rows.filterMap (contents.cell name))).length
  | _ => none

/-! ## Reading -/

def isKeyword (keyword : String) (run : List Char) : Bool :=
  dropWord? keyword.toList run == some []

def readName? (chars : List Char) : Option (List Char × List Char) :=
  takeRun? Join.isColumnChar chars

def dropKeyword? (keyword : String) (chars : List Char) : Option (List Char) :=
  (readName? chars).bind fun (run, rest) =>
    if isKeyword keyword run then dropGap? rest else none

def readDistinct (chars : List Char) : Bool × List Char :=
  match dropKeyword? "DISTINCT" chars with
  | some rest => (true, rest)
  | none => (false, chars)

def readTally? (chars : List Char) : Option (Tally × List Char) :=
  match dropText? "*)".toList chars with
  | some rest => some (.rows, rest)
  | none => do
    let (distinct, rest) := readDistinct chars
    let (name, rest) ← readName? rest
    let rest ← dropText? [')'] (dropBlanks rest)
    return (.values distinct (.ofList name), rest)

def readSelected? (chars : List Char) : Option (Selected × List Char) :=
  match dropText? ['*'] chars with
  | some rest => some (.all, rest)
  | none => do
    let (name, rest) ← readName? chars
    match dropText? ['('] rest with
    | some counted =>
      if isKeyword "COUNT" name then
        (readTally? counted).map fun (tally, rest) => (.count tally, rest)
      else none
    | none => some (.column (.ofList name), rest)

def dropAlias (chars : List Char) : List Char :=
  (((dropGap? chars).bind (dropKeyword? "AS")).bind readName?).elim chars (·.2)

/-- Reads a statement. All the text after the blank that ends `FROM` is its source. -/
def read? (statement : String) : Option Query := do
  let rest ← dropKeyword? "SELECT" statement.toList
  let (distinct, rest) := readDistinct rest
  let (selected, rest) ← readSelected? rest
  let source ← dropText? " FROM ".toList (dropAlias rest)
  return ⟨distinct, selected, .ofList source⟩

/-! ## Reading what is written -/

/-- The name of a column, which is not the word `DISTINCT`. -/
def IsColumn (name : List Char) : Prop :=
  IsRun Join.isColumnChar name ∧ isKeyword "DISTINCT" name = false

variable {name run rest : List Char}

theorem readName?_append (h : IsRun Join.isColumnChar run)
    (hrest : StopsAt Join.isColumnChar rest) :
    readName? (run ++ rest) = some (run, rest) :=
  takeRun?_eq_some_iff.mpr ⟨rfl, h, hrest⟩

theorem dropKeyword?_keyword {keyword : String} (h : IsRun Join.isColumnChar keyword.toList)
    (hself : isKeyword keyword keyword.toList = true) (rest : List Char) :
    dropKeyword? keyword (keyword.toList ++ ' ' :: rest) = some (dropBlanks rest) := by
  unfold dropKeyword?
  rw [readName?_append h (stopsAt_cons.mpr (by decide)), Option.bind_some]
  dsimp only
  rw [if_pos hself]
  rfl

theorem readDistinct_distinct (rest : List Char) :
    readDistinct ("DISTINCT ".toList ++ rest) = (true, dropBlanks rest) := by
  unfold readDistinct
  rw [show "DISTINCT ".toList ++ rest = "DISTINCT".toList ++ ' ' :: rest from rfl,
    dropKeyword?_keyword (.of_all (by decide) (by decide)) (by decide)]

/-- A column name is not taken for `DISTINCT`. -/
theorem readDistinct_column (h : IsColumn name) (hrest : StopsAt Join.isColumnChar rest) :
    readDistinct (name ++ rest) = (false, name ++ rest) := by
  unfold readDistinct dropKeyword?
  rw [readName?_append h.1 hrest, Option.bind_some]
  dsimp only
  rw [h.2]
  rfl

theorem readSelected?_column (h : IsColumn name) (rest : List Char) :
    readSelected? (name ++ ' ' :: rest) = some (.column (.ofList name), ' ' :: rest) := by
  obtain ⟨c, more, rfl, hc⟩ := h.1.exists_cons
  have hstar : c ≠ '*' := fun heq => absurd (heq ▸ hc) (by decide)
  have hend : StopsAt Join.isColumnChar (' ' :: rest) := stopsAt_cons.mpr (by decide)
  have hname := readName?_append h.1 hend
  unfold readSelected?
  rw [List.cons_append, dropText?, if_neg (Ne.symm hstar)]
  rw [List.cons_append] at hname
  dsimp only
  rw [hname]
  rfl

/-- A column is counted under its name, with or without blanks around it. -/
theorem readTally?_distinct {columns : List Char} (h : IsColumn (trimChars columns))
    (rest : List Char) :
    readTally? ("DISTINCT ".toList ++ (columns ++ ')' :: rest)) =
      some (.values true (.ofList (trimChars columns)), rest) := by
  obtain ⟨before, after, hcolumns, hb, ha⟩ := exists_trimChars columns
  have hend : StopsAt Join.isColumnChar (after ++ ')' :: rest) := by
    cases after with
    | nil => exact stopsAt_cons.mpr (by decide)
    | cons c more => exact stopsAt_cons.mpr (Join.isColumnChar_of_isBlank (ha c List.mem_cons_self))
  have hblanks : dropBlanks (columns ++ ')' :: rest) =
      trimChars columns ++ (after ++ ')' :: rest) := by
    conv => lhs; rw [hcolumns]
    rw [List.append_assoc, List.append_assoc]
    exact dropBlanks_append hb (h.1.stopsAt (fun _ => Join.isBlank_of_isColumnChar) _)
  have hclose : dropBlanks (after ++ ')' :: rest) = ')' :: rest :=
    dropBlanks_append ha (stopsAt_cons.mpr (by decide))
  unfold readTally?
  rw [show dropText? "*)".toList ("DISTINCT ".toList ++ (columns ++ ')' :: rest)) = none from rfl]
  dsimp only
  rw [readDistinct_distinct, hblanks]
  dsimp only
  rw [readName?_append h.1 hend]
  simp only [Option.bind_eq_bind, Option.bind_some, hclose]
  rfl

theorem readTally?_column (h : IsColumn name) (rest : List Char) :
    readTally? (name ++ ')' :: rest) = some (.values false (.ofList name), rest) := by
  have hend : StopsAt Join.isColumnChar (')' :: rest) := stopsAt_cons.mpr (by decide)
  have hclose : dropBlanks (')' :: rest) = ')' :: rest :=
    dropBlanks_of_stopsAt (stopsAt_cons.mpr (by decide))
  have hstar : dropText? "*)".toList (name ++ ')' :: rest) = none := by
    obtain ⟨c, more, rfl, hc⟩ := h.1.exists_cons
    have hne : '*' ≠ c := fun heq => absurd (heq ▸ hc) (by decide)
    exact if_neg hne
  unfold readTally?
  rw [hstar]
  dsimp only
  rw [readDistinct_column h hend]
  dsimp only
  rw [readName?_append h.1 hend]
  simp only [Option.bind_eq_bind, Option.bind_some, hclose]
  rfl

/-- The text of an item, with its alias if it has one, is read as what is selected. -/
structure Spells (item : List Char) (selected : Selected) : Prop where
  notBlank : ∀ rest, StopsAt isBlank (item ++ rest)
  notDistinct : ∀ rest, readDistinct (item ++ ' ' :: rest) = (false, item ++ ' ' :: rest)
  read : ∀ source, ∃ aliased,
    readSelected? (item ++ (" FROM ".toList ++ source)) = some (selected, aliased) ∧
      dropAlias aliased = " FROM ".toList ++ source

theorem spells_all : Spells ['*'] .all where
  notBlank _ := stopsAt_cons.mpr (by decide)
  notDistinct _ := rfl
  read _ := ⟨_, rfl, rfl⟩

theorem spells_column (h : IsColumn name) : Spells name (.column (.ofList name)) where
  notBlank := h.1.stopsAt fun _ => Join.isBlank_of_isColumnChar
  notDistinct _ := readDistinct_column h (stopsAt_cons.mpr (by decide))
  read _ := ⟨_, readSelected?_column h _, rfl⟩

theorem dropAlias_of_label {label : List Char} (h : IsRun Join.isColumnChar label)
    (rest : List Char) : dropAlias (" AS ".toList ++ (label ++ ' ' :: rest)) = ' ' :: rest := by
  have hend : StopsAt Join.isColumnChar (' ' :: rest) := stopsAt_cons.mpr (by decide)
  have hstart : StopsAt isBlank (label ++ ' ' :: rest) :=
    h.stopsAt (fun _ => Join.isBlank_of_isColumnChar) _
  have hgap : dropGap? (" AS ".toList ++ (label ++ ' ' :: rest)) =
      some ("AS".toList ++ ' ' :: (label ++ ' ' :: rest)) := rfl
  unfold dropAlias
  rw [hgap, Option.bind_some,
    dropKeyword?_keyword (.of_all (by decide) (by decide)) (by decide),
    dropBlanks_of_stopsAt hstart, Option.bind_some, readName?_append h hend]
  rfl

/-- A count, under a label, of what is read up to the closing parenthesis. -/
theorem spells_count {counted label : List Char} {tally : Tally}
    (hlabel : IsRun Join.isColumnChar label)
    (h : ∀ rest, readTally? (counted ++ ')' :: rest) = some (tally, rest)) :
    Spells ("COUNT(".toList ++ (counted ++ (") AS ".toList ++ label))) (.count tally) where
  notBlank _ := stopsAt_cons.mpr (by decide)
  notDistinct _ := rfl
  read source := by
    let labelled := " AS ".toList ++ (label ++ (" FROM ".toList ++ source))
    have hread (inner : List Char) : readSelected? ("COUNT(".toList ++ inner) =
        (readTally? inner).map fun read => (.count read.1, read.2) := rfl
    have hsplit : "COUNT(".toList ++ (counted ++ (") AS ".toList ++ label)) ++
        (" FROM ".toList ++ source) = "COUNT(".toList ++ (counted ++ ')' :: labelled) := by
      simp [labelled]
    refine ⟨labelled, ?_, dropAlias_of_label hlabel _⟩
    rw [hsplit, hread, h]
    rfl

theorem isRun_rowsCount : IsRun Join.isColumnChar "rowsCount".toList :=
  .of_all (by decide) (by decide)

theorem spells_countRows : Spells "COUNT(*) AS rowsCount".toList (.count .rows) :=
  @spells_count ['*'] _ _ isRun_rowsCount fun _ => rfl

theorem spells_countValues {columns : List Char} (h : IsColumn (trimChars columns)) :
    Spells ("COUNT(DISTINCT ".toList ++ (columns ++ ") AS rowsCount".toList))
      (.count (.values true (.ofList (trimChars columns)))) := by
  have hcounted (rest : List Char) : readTally? ("DISTINCT ".toList ++ columns ++ ')' :: rest) =
      some (.values true (.ofList (trimChars columns)), rest) := by
    rw [List.append_assoc]
    exact readTally?_distinct h rest
  simpa using spells_count isRun_rowsCount hcounted

def distinctWord (distinct : Bool) : String := if distinct then "DISTINCT " else ""

def spelled (distinct : Bool) (item source : String) : String :=
  "SELECT " ++ distinctWord distinct ++ item ++ " FROM " ++ source

theorem read?_spelled {item : String} {selected : Selected} (h : Spells item.toList selected)
    (distinct : Bool) (source : String) :
    read? (spelled distinct item source) = some ⟨distinct, selected, source⟩ := by
  obtain ⟨aliased, hread, hfrom⟩ := h.read source.toList
  let tail := item.toList ++ (" FROM ".toList ++ source.toList)
  have hchars : (spelled distinct item source).toList =
      "SELECT".toList ++ ' ' :: ((distinctWord distinct).toList ++ tail) := by
    simp [spelled, String.toList_append, tail]
  have hstart : StopsAt isBlank ((distinctWord distinct).toList ++ tail) := by
    cases distinct with
    | false => exact h.notBlank _
    | true =>
      show StopsAt isBlank ('D' :: ("ISTINCT ".toList ++ tail))
      exact stopsAt_cons.mpr (by decide)
  have hword : readDistinct ((distinctWord distinct).toList ++ tail) = (distinct, tail) := by
    cases distinct with
    | false => exact h.notDistinct _
    | true =>
      exact (readDistinct_distinct tail).trans (by rw [dropBlanks_of_stopsAt (h.notBlank _)])
  have hsource : dropText? " FROM ".toList (" FROM ".toList ++ source.toList) =
      some source.toList := dropText?_eq_some_iff.mpr rfl
  unfold read?
  rw [hchars, dropKeyword?_keyword (.of_all (by decide) (by decide)) (by decide),
    dropBlanks_of_stopsAt hstart]
  simp only [Option.bind_eq_bind, Option.bind_some, hword, tail, hread, hfrom, hsource]
  rw [String.ofList_toList]
  rfl

/-! ## Counting what is returned -/

section Counting

variable {R V : Type} [DecidableEq R] [DecidableEq V] {contents : Contents R V}
  {values : Value.Entries} {source : String}

theorem length_dedup_eq_iff {α : Type} [DecidableEq α] {results : List α} :
    results.length = results.dedup.length ↔ results.Nodup := by
  rw [← List.dedup_eq_self]
  constructor
  · intro h
    exact (List.dedup_sublist results).eq_of_length h.symm
  · intro h
    rw [h]

omit [DecidableEq R] in
/-- There are as many distinct values as distinct results just if no result is NULL. -/
theorem length_dedup_filterMap_eq_iff {cell : R → Option V} {rows : List R} :
    (rows.filterMap cell).dedup.length = (rows.map cell).dedup.length ↔
      ∀ row ∈ rows, cell row ≠ none := by
  have hvalues : (rows.filterMap cell).toFinset = (rows.map cell).toFinset.eraseNone := by
    ext value
    simp
  have hnull : none ∈ (rows.map cell).toFinset ↔ ¬ ∀ row ∈ rows, cell row ≠ none := by
    simp
  rw [← List.card_toFinset, ← List.card_toFinset, hvalues]
  by_cases h : none ∈ (rows.map cell).toFinset
  · have hpos := Finset.card_pos.mpr ⟨none, h⟩
    rw [Finset.card_eraseNone_of_mem h]
    exact iff_of_false (by omega) (hnull.mp h)
  · rw [Finset.card_eraseNone_of_not_mem h]
    exact iff_of_true rfl (not_not.mp fun hsome => h (hnull.mpr hsome))

/-- A statement of all columns repeats no row, and one of a column returns no NULL. -/
def CountsAll (query : Query) (contents : Contents R V) (values : Value.Entries) : Prop :=
  match query.selected with
  | .all => (contents.rows query.source values).Nodup
  | .column name => ∀ row ∈ contents.rows query.source values, contents.cell name row ≠ none
  | .count _ => True

/-- A count of all rows is the number of those that a statement returns unless it returns distinct
ones and rows are repeated. -/
theorem countRows_eq_iff_all {distinct : Bool} :
    countValue? ⟨false, .count .rows, source⟩ contents values =
        some (rowCount ⟨distinct, .all, source⟩ contents values) ↔
      distinct = false ∨ CountsAll ⟨distinct, .all, source⟩ contents values := by
  simp only [countValue?, rowCount, CountsAll, kept, Option.some.injEq]
  cases distinct with
  | false => simp
  | true => simp [length_dedup_eq_iff]

theorem countRows_eq_column {name : String} :
    countValue? ⟨false, .count .rows, source⟩ contents values =
      some (rowCount ⟨false, .column name, source⟩ contents values) := by
  simp [countValue?, rowCount, kept]

/-- A count of distinct values is the number of distinct results unless NULL is one of these. -/
theorem countValues_eq_iff_column {name : String} :
    countValue? ⟨false, .count (.values true name), source⟩ contents values =
        some (rowCount ⟨true, .column name, source⟩ contents values) ↔
      CountsAll ⟨true, .column name, source⟩ contents values := by
  simp only [countValue?, rowCount, CountsAll, kept, Option.some.injEq, if_true]
  exact length_dedup_filterMap_eq_iff

end Counting

end Query

end SqlToolkit
