import SqlToolkit.Text.Scan

/-!
# Counting the rows of a SELECT

A plain `SELECT columns FROM rest` is counted by `SELECT COUNT(columns) AS row_count FROM rest`,
without the last ORDER BY. A statement that limits, groups or unites rows has no such form.
-/

namespace SqlToolkit.Statement

open SqlToolkit.Text

/-- Words that limit the rows when a blank or a digit follows them. -/
def limitingWords : List String := ["LIMIT", "FIRST", "SKIP", "OFFSET", "NEXT"]

/-- Reads a limiting word and the blank or digit after it. -/
def dropLimiting? (chars : List Char) : Option (List Char) :=
  limitingWords.findSome? fun word =>
    match dropWord? word.toList chars with
    | some (c :: rest) => if isBlank c || c.isDigit then some rest else none
    | _ => none

/-- Reads what makes the rows of a statement differ from those of its table. -/
def dropRegrouping? (chars : List Char) : Option (List Char) :=
  (dropLimiting? chars).or
    ((dropWord? "HAVING SUM".toList chars).or (dropPhrase? ["GROUP", "BY"] chars))

def isUnion (before : Option Char) (chars : List Char) : Bool :=
  !before.any isWord && (dropWholeWord? ["UNION"] chars).isSome

def preventsCount (chars : List Char) : Bool :=
  occurs dropRegrouping? chars || occursAfter isUnion none chars

def dropFrom? (chars : List Char) : Option (List Char) :=
  ((dropGap? chars).bind (dropWord? "FROM".toList)).bind dropGap?

def dropOrderBy? (chars : List Char) : Option (List Char) :=
  ((dropGap? chars).bind (dropPhrase? ["ORDER", "BY"])).bind dropGap?

/-- The columns and what follows the FROM, for the text after `SELECT`. The columns may be missing
when two blanks or more stand before the FROM. -/
def splitAtFrom? (chars : List Char) : Option (List Char × List Char) := do
  let body ← dropGap? chars
  match cutAt? dropFrom? body with
  | some cut => some cut
  | none =>
    let last ← (chars.takeWhile isBlank).tail.head?
    let rest ← dropFrom? (last :: body)
    return ([], rest)

/-- The columns and what follows the FROM of a plain SELECT. -/
def splitSelect? (chars : List Char) : Option (List Char × List Char) :=
  (dropWord? "SELECT".toList (dropBlanks chars)).bind splitAtFrom?

/-- The text before the last place where the reader succeeds. -/
def beforeLast? (reader : List Char → Option (List Char)) : List Char → Option (List Char)
  | [] => none
  | c :: rest =>
    match beforeLast? reader rest with
    | some found => some (c :: found)
    | none => (reader (c :: rest)).map fun _ => []

def dropLastOrder (chars : List Char) : List Char := (beforeLast? dropOrderBy? chars).getD chars

/-- The statement that counts the rows of a SELECT. The columns of the SELECT are counted unless
another expression is given. -/
def countProbe? (sql : String) (expression : Option String) : Option String :=
  let chars := sql.toList
  if preventsCount chars then none
  else do
    let (columns, rest) ← splitSelect? chars
    let counted :=
      match expression with
      | some given => if given.isEmpty then trimChars columns else given.toList
      | none => trimChars columns
    return "SELECT COUNT(" ++ String.ofList counted ++ ") AS row_count FROM "
      ++ String.ofList (trimChars (dropLastOrder rest))

end SqlToolkit.Statement
