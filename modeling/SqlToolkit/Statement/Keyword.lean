import SqlToolkit.Statement.Parser

/-!
# The kind of a raw statement

A statement is told by its first word, comments and opening parentheses left aside.
-/

namespace SqlToolkit

open SqlToolkit.Text

namespace Statement

/-- The first word of a text, an opening parenthesis counting as a blank. -/
def firstKeyword (chars : List Char) : List Char :=
  firstWord (chars.map fun c => if c = '(' then ' ' else c)

def readKeywords : List String :=
  ["SELECT", "WITH", "SHOW", "DESCRIBE", "DESC", "EXPLAIN", "PRAGMA"]

def insertKeywords : List String := ["INSERT", "REPLACE"]

end Statement

namespace SqlParser

open SqlToolkit.Statement

variable (parser : SqlParser)

/-- The first word of a statement in capitals. -/
def leadingKeyword (sql : String) : String :=
  String.ofList (firstKeyword ((trimChars (parser.uncommented sql.toList)).flatMap upperChar))

def isRead (sql : String) : Bool := readKeywords.contains (parser.leadingKeyword sql)

def isInsert (sql : String) : Bool := insertKeywords.contains (parser.leadingKeyword sql)

end SqlParser

namespace Statement

def leadingKeyword (sql : String) : String := SqlParser.standard.leadingKeyword sql

def isRead (sql : String) : Bool := SqlParser.standard.isRead sql

def isInsert (sql : String) : Bool := SqlParser.standard.isInsert sql

/-! ## Statements that commit by themselves -/

/-- The verbs that begin such a statement, with the objects that they are applied to. -/
def definitionVerbs : List (String × List String) :=
  [("ALTER", ["DATABASE", "EVENT", "PROCEDURE", "SERVER", "TABLE", "TABLESPACE", "VIEW"]),
   ("CREATE", ["DATABASE", "EVENT", "INDEX", "PROCEDURE", "SERVER", "TABLE", "TABLESPACE",
      "TRIGGER", "VIEW"]),
   ("DROP", ["DATABASE", "EVENT", "INDEX", "PROCEDURE", "SERVER", "TABLE", "TABLESPACE",
      "TRIGGER", "VIEW"])]

/-- Further phrases that mark such a statement. -/
def committingPhrases : List (List String) :=
  [["INSTALL", "PLUGIN"], ["LOCK", "TABLES"], ["RENAME", "TABLE"], ["TRUNCATE", "TABLE"],
   ["UNINSTALL", "PLUGIN"]]

/-- Reads a verb, a gap and one of its objects as a whole word. -/
def dropDefinition? (verb : String × List String) (chars : List Char) : Option (List Char) :=
  ((dropWord? verb.1.toList chars).bind dropGap?).bind (dropWholeWord? verb.2)

/-- Whether the database commits the statement by itself: one of the phrases occurs anywhere. -/
def commitsImplicitly (sql : String) : Bool :=
  let chars := sql.toList
  definitionVerbs.any (fun verb => occurs (dropDefinition? verb) chars)
    || committingPhrases.any fun phrase => occurs (dropPhrase? phrase) chars

end Statement

end SqlToolkit
