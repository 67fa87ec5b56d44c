import SqlToolkit.Entries
import SqlToolkit.Text.Scan
import SqlToolkit.Text.Utf8

/-!
# Percent-encoded text

`%XX` stands for a byte, and bytes are read as UTF-8 with replacement. A percent sign without two
hexadecimal digits after it stands for itself. In a query a plus sign is a space.
-/

namespace SqlToolkit.PercentText

open SqlToolkit.Text

/-- A unit of encoded text: a byte, or a character beyond ASCII that stands for itself. -/
inductive CodeUnit where
  | byte (value : Nat)
  | char (c : Char)
  deriving Repr, DecidableEq

def hexValue? (c : Char) : Option Nat :=
  if c.isDigit then some (c.toNat - 48)
  else if 'a' ≤ c && c ≤ 'f' then some (c.toNat - 87)
  else if 'A' ≤ c && c ≤ 'F' then some (c.toNat - 55)
  else none

def CodeUnit.ofChar (c : Char) : CodeUnit := if c.toNat < 128 then .byte c.toNat else .char c

/-- The byte of an escape: a percent sign and two hexadecimal digits. -/
def escapedByte? (c : Char) (rest : List Char) : Option Nat :=
  match c, rest with
  | '%', high :: low :: _ => do return (← hexValue? high) * 16 + (← hexValue? low)
  | _, _ => none

/-- The units of encoded text; the first `covered` characters belong to an escape. -/
def codeUnits : Nat → List Char → List CodeUnit
  | _, [] => []
  | covered + 1, _ :: rest => codeUnits covered rest
  | 0, c :: rest =>
    match escapedByte? c rest with
    | some byte => .byte byte :: codeUnits 2 rest
    | none => .ofChar c :: codeUnits 0 rest

/-- The characters that the units spell, after an incomplete one. -/
def readUnits (pending : Option Utf8.Pending) : List CodeUnit → List Char
  | [] => Utf8.flush pending
  | .char c :: rest => Utf8.flush pending ++ c :: readUnits none rest
  | .byte value :: rest =>
    let (chars, next) := Utf8.step pending value
    chars ++ readUnits next rest

def decodeChars (chars : List Char) : List Char := readUnits none (codeUnits 0 chars)

def decodeForm (chars : List Char) : String :=
  String.ofList (decodeChars (chars.map fun c => if c = '+' then ' ' else c))

/-- A parameter of a query, unless its value is missing or empty. -/
def parameter? (chars : List Char) : Option (String × String) :=
  match cutAtChar? '=' chars with
  | some (name, value) =>
    if value.isEmpty then none else some (decodeForm name, decodeForm value)
  | none => none

/-- The parameters of a query by name; of several with one name the last counts. -/
def parameters (query : List Char) : List (String × String) :=
  Entries.ofList ((splitAtChar '&' query).filterMap parameter?)

end SqlToolkit.PercentText
