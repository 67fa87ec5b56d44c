import SqlToolkit.Text.Blank
import SqlToolkit.Text.Digit

/-!
# Whole numbers in text

A numeral is a sign, if any, and decimal digits of any script, with blanks around it. Single
underscores may stand between digits. A numeral of more than 4300 digits is neither read nor
written.
-/

namespace SqlToolkit.Numeral

open SqlToolkit.Text

/-- The greatest number of digits that is read or written. -/
def maxDigits : Nat := 4300

/-- Whether a whole number has so few digits that it is written. The bound is far too large to be
unfolded in passing. -/
@[irreducible]
def isWritable (value : Int) : Bool := value.natAbs < Nat.pow 10 maxDigits

/-- Blanks that may surround a numeral: all but the information separators. -/
def isMargin (c : Char) : Bool := isBlank c && !isSeparatorControl c

/-- Reads digits up to the end; the result is the value and the number of digits. -/
def readDigits (value count : Nat) : List Char → Option (Nat × Nat)
  | [] => none
  | c :: rest => do
    let digit ← decimalValue? c
    match rest with
    | [] => some (value * 10 + digit, count + 1)
    | '_' :: more => readDigits (value * 10 + digit) (count + 1) more
    | more => readDigits (value * 10 + digit) (count + 1) more

def natOfDigits? (chars : List Char) : Option Nat := do
  let (value, count) ← readDigits 0 0 chars
  if count ≤ maxDigits then some value else none

/-- The value of digits with a sign or without one. -/
def ofSigned? : List Char → Option Int
  | '+' :: digits => (natOfDigits? digits).map Int.ofNat
  | '-' :: digits => (natOfDigits? digits).map fun value => -(Int.ofNat value)
  | digits => (natOfDigits? digits).map Int.ofNat

def parse? (text : String) : Option Int :=
  ofSigned? (((text.toList.dropWhile isMargin).reverse.dropWhile isMargin).reverse)

end SqlToolkit.Numeral
