import SqlToolkit.Text.Scan
import SqlToolkit.Value.Printing

/-!
# Lists of counts

What a counting SELECT selects: a map from expressions to aliases, or a text that lists expressions
with their aliases after `AS`.
-/

namespace SqlToolkit.CountFields

open SqlToolkit.Text

/-- A counted expression with its alias, if it has one. -/
structure Count where
  expression : String
  alias? : Option String
  deriving Repr, DecidableEq

def Count.sql (count : Count) : String :=
  match count.alias? with
  | some name => s!"COUNT({count.expression}) AS {name}"
  | none => s!"COUNT({count.expression})"

/-- Reads `AS` with a gap on both sides. -/
def dropAs? (chars : List Char) : Option (List Char) :=
  ((dropGap? chars).bind (dropWord? "AS".toList)).bind dropGap?

/-- A listed expression; the first `AS` begins its alias. -/
def ofPart (part : List Char) : Count :=
  match cutAt? dropAs? part with
  | some (expression, name) => ⟨String.ofList expression, some (String.ofList name)⟩
  | none => ⟨String.ofList part, none⟩

/-- The counts listed in a text, with a comma and a space between neighbours. -/
def ofText (fields : String) : List Count :=
  let chars := fields.toList
  (((splitAtText [',', ' '] chars.length chars).map trimChars).filter (!·.isEmpty)).map ofPart

def ofValue : Value → List Count
  | .map entries => entries.map fun entry => ⟨entry.1.display, some entry.2.display⟩
  | fields => ofText fields.display

def sql (fields : Value) : String := ", ".intercalate ((ofValue fields).map Count.sql)

end SqlToolkit.CountFields
