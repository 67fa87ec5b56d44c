import SqlToolkit.Text.Scan

/-!
# Joins in table expressions

A table expression is searched for `t1 (INNER|LEFT|RIGHT) [OUTER] JOIN t2 ON c1 = c2`, in any case.
The first place where it reads that way counts, wherever it stands in the expression.
-/

namespace SqlToolkit

open SqlToolkit.Text

/-- Which rows without a partner a join keeps. -/
inductive JoinKind where
  | inner
  | left
  | right
  deriving Repr, DecidableEq

def JoinKind.keyword : JoinKind → String
  | .inner => "INNER"
  | .left => "LEFT"
  | .right => "RIGHT"

/-- A join of two tables on equal columns. The keyword is kept as it was written, in capitals. -/
structure Join where
  leftTable : String
  kind : JoinKind
  keyword : String
  rightTable : String
  leftColumn : String
  rightColumn : String
  deriving Repr, DecidableEq

namespace Join

def condition (join : Join) : String := s!"{join.leftColumn} = {join.rightColumn}"

def isTableChar (c : Char) : Bool := isWord c || c == '$' || c == '-'

/-- A character of a column name, which may be qualified. -/
def isColumnChar (c : Char) : Bool := isWord c || c == '$' || c == '.' || c == '-'

/-- Reads the keyword of one join kind and returns it as it was written. -/
def readKeyword? (kind : JoinKind) (chars : List Char) :
    Option (JoinKind × List Char × List Char) :=
  (dropWord? kind.keyword.toList chars).map fun rest =>
    (kind, chars.take (chars.length - rest.length), rest)

def readKind? (chars : List Char) : Option (JoinKind × List Char × List Char) :=
  [JoinKind.inner, .left, .right].findSome? fun kind => readKeyword? kind chars

/-- Reads an optional `OUTER`, a gap and `JOIN`. -/
def readJoinWord? (chars : List Char) : Option (List Char) :=
  let plain (rest : List Char) := (dropGap? rest).bind (dropWord? "JOIN".toList)
  match ((dropGap? chars).bind (dropWord? "OUTER".toList)).bind plain with
  | some rest => some rest
  | none => plain chars

def read? (chars : List Char) : Option Join := do
  let (leftTable, rest) ← takeRun? isTableChar chars
  let (kind, keyword, rest) ← readKind? (← dropGap? rest)
  let rest ← dropGap? (← readJoinWord? rest)
  let (rightTable, rest) ← takeRun? isTableChar rest
  let rest ← dropGap? (← dropWord? "ON".toList (← dropGap? rest))
  let (leftColumn, rest) ← takeRun? isColumnChar rest
  let rest ← dropText? ['='] (dropBlanks rest)
  let (rightColumn, _) ← takeRun? isColumnChar (dropBlanks rest)
  return {
    leftTable := String.ofList leftTable
    kind
    keyword := upper (String.ofList keyword)
    rightTable := String.ofList rightTable
    leftColumn := String.ofList leftColumn
    rightColumn := String.ofList rightColumn
  }

def find? (table : String) : Option Join := (search read? table.toList).map (·.2)

end Join

namespace Condition

/-- The text after a leading `WHERE`, if there is one. -/
def dropLeadingWhere (chars : List Char) : List Char :=
  (((dropWord? "WHERE".toList (dropBlanks chars)).bind dropGap?).getD chars)

/-- A WHERE clause as a further condition: ` AND (...)`, or nothing for an empty clause. -/
def fold (whereSql : String) : String :=
  let condition := trimChars (dropLeadingWhere whereSql.toList)
  if condition.isEmpty then "" else " AND (" ++ String.ofList condition ++ ")"

/-- Whether the SQL names a column qualified by the table, in any case. -/
def references (sql table : String) : Bool :=
  occursAfter (fun before chars =>
    !before.any (fun c => isWord c || c == '$') &&
      ((dropWord? table.toList chars).bind fun rest => dropText? ['.'] (dropBlanks rest)).isSome)
    none sql.toList

end Condition

end SqlToolkit
