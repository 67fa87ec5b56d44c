import SqlToolkit.Text.Printable

/-!
# Quoted text

How a text or a byte string is shown inside a message. The single quote encloses it unless the text
holds single quotes and no double quote. The backslash and the enclosing quote are escaped, line
feed, carriage return and tab have short escapes, and other hidden characters are written by number.
-/

namespace SqlToolkit.Text.Quoted

/-- The quote that encloses a text. -/
def enclosing (chars : List Char) : Char :=
  if chars.contains '\'' && !chars.contains '"' then '"' else '\''

def hexDigit (n : Nat) : Char := Nat.digitChar n

def hex : Nat → Nat → List Char
  | 0, _ => []
  | width + 1, n => hex width (n / 16) ++ [hexDigit (n % 16)]

/-- The escape of a character by its number: the shortest of three widths. -/
def escapeCode (code : Nat) : List Char :=
  if code < 0x100 then '\\' :: 'x' :: hex 2 code
  else if code < 0x10000 then '\\' :: 'u' :: hex 4 code
  else '\\' :: 'U' :: hex 8 code

/-- The escapes that do not depend on the character class. -/
def shortEscape? (quote c : Char) : Option (List Char) :=
  if c = '\\' then some ['\\', '\\']
  else if c = quote then some ['\\', quote]
  else if c = '\n' then some ['\\', 'n']
  else if c = '\r' then some ['\\', 'r']
  else if c = '\t' then some ['\\', 't']
  else none

def encodeChar (quote c : Char) : List Char :=
  match shortEscape? quote c with
  | some escape => escape
  | none => if isPrintable c then [c] else escapeCode c.toNat

/-- One byte of a quoted byte string; only visible ASCII is shown as it is. -/
def encodeByte (quote : Char) (byte : UInt8) : List Char :=
  match shortEscape? quote (Char.ofNat byte.toNat) with
  | some escape => escape
  | none =>
    if 32 ≤ byte.toNat && byte.toNat < 127 then [Char.ofNat byte.toNat]
    else escapeCode byte.toNat

def text (content : String) : String :=
  let chars := content.toList
  let quote := enclosing chars
  String.ofList (quote :: (chars.flatMap (encodeChar quote) ++ [quote]))

/-- A byte string in quotes, with the mark `b` before it. -/
def bytes (content : List UInt8) : String :=
  let quote := enclosing (content.map fun byte => Char.ofNat byte.toNat)
  String.ofList ('b' :: quote :: (content.flatMap (encodeByte quote) ++ [quote]))

end SqlToolkit.Text.Quoted
