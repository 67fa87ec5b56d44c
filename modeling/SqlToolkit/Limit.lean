import SqlToolkit.Fault
import SqlToolkit.Number.Numeral
import SqlToolkit.Text.Digit
import SqlToolkit.Text.Scan

/-!
# Row limits

A limit is a number of rows, or the number of rows to skip and the number to return with a comma
between them. Each part is a run of digits, with blanks around it.
-/

namespace SqlToolkit

open SqlToolkit.Text

/-- How many rows to return, and how many to skip first. -/
structure Limit where
  offset : Option Nat
  count : Nat
  deriving Repr, DecidableEq

namespace Limit

def isDigits (part : List Char) : Bool := !part.isEmpty && part.all isDigitLike

def parts (spec : String) : List (List Char) := (splitAtChar ',' spec.toList).map trimChars

/-- The value of a part. Digits without a decimal value give a plain bad value. -/
def partValue (part : List Char) : Attempt Nat :=
  match Numeral.natOfDigits? part with
  | some value => .ok value
  | none => .error .badValue

/-- The limit that the parts spell, if they are one or two runs of digits. -/
def ofParts (refused : Fault) (parts : List (List Char)) : Attempt Limit :=
  if parts.all isDigits then
    match parts with
    | [count] => do return ⟨none, ← partValue count⟩
    | [offset, count] => do return ⟨some (← partValue offset), ← partValue count⟩
    | _ => .error refused
  else .error refused

/-- Reads a limit from a whole number or a text. A value that cannot be written is of no use. -/
def parse (spec : Value) : Attempt Limit := do
  let refused : Fault := .parameter (.badLimit (← spec.write Value.shown))
  match spec with
  | .int value => ofParts refused [(toString value).toList]
  | .text content => ofParts refused (parts content)
  | _ => .error refused

end Limit

end SqlToolkit
