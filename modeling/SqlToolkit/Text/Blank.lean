/-!
# Blank characters

The white space of every script, the information separators `\x1c` to `\x1f` included. Zero-width
characters are not blank.
-/

namespace SqlToolkit.Text

/-- Blank characters beyond ASCII. -/
def wideBlanks : List Nat :=
  [0x85, 0xa0, 0x1680, 0x2000, 0x2001, 0x2002, 0x2003, 0x2004, 0x2005, 0x2006, 0x2007, 0x2008,
   0x2009, 0x200a, 0x2028, 0x2029, 0x202f, 0x205f, 0x3000]

def isSeparatorControl (c : Char) : Bool := 0x1c ≤ c.toNat && c.toNat ≤ 0x1f

def isBlank (c : Char) : Bool :=
  if c.toNat < 128 then
    c.toNat == 32 || (9 ≤ c.toNat && c.toNat ≤ 13) || isSeparatorControl c
  else
    wideBlanks.contains c.toNat

def dropBlanks (chars : List Char) : List Char := chars.dropWhile isBlank

def trimChars (chars : List Char) : List Char := (dropBlanks (dropBlanks chars).reverse).reverse

def trim (text : String) : String := String.ofList (trimChars text.toList)

/-- Whether a byte is blank: a space, or a control byte from the tab to the carriage return. -/
def isBlankByte (byte : UInt8) : Bool := byte == 32 || (9 ≤ byte && byte ≤ 13)

def trimBytes (bytes : List UInt8) : List UInt8 :=
  ((bytes.dropWhile isBlankByte).reverse.dropWhile isBlankByte).reverse

/-- Whether the text has no character that is not blank. -/
def isBlankText (text : String) : Bool := text.toList.all isBlank

end SqlToolkit.Text
