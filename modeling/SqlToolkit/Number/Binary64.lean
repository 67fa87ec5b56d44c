/-!
# Floating-point numbers of 64 bits

A finite number is `mantissa * 2 ^ exponent` with a mantissa below `2 ^ 53` and an exponent from
`-1074` to `971`. `ofRatio?` gives the number nearest to a quotient, a tie going to the even
mantissa; a quotient that rounds to `2 ^ 1024` or more has no number.
-/

namespace SqlToolkit

inductive Binary64 where
  | nan
  | infinite (negative : Bool)
  | finite (negative : Bool) (mantissa : Nat) (exponent : Int)
  deriving Repr, DecidableEq

namespace Binary64

def minExponent : Int := -1074

def maxExponent : Int := 971

/-- A quotient rounded to the nearest whole number, a tie going to the even one. -/
def roundDiv (num den : Nat) : Nat :=
  let quotient := num / den
  let rest := num % den
  if 2 * rest < den then quotient
  else if den < 2 * rest then quotient + 1
  else if quotient % 2 = 0 then quotient else quotient + 1

/-- The quotient `num / den` counted in units of `2 ^ exponent`, as a new quotient. -/
def scale (num den : Nat) (exponent : Int) : Nat × Nat :=
  if 0 ≤ exponent then (num, den * Nat.pow 2 exponent.toNat)
  else (num * Nat.pow 2 (-exponent).toNat, den)

/-- The exponent at which the whole part of the quotient has 53 binary digits, but not below the
least exponent. -/
def exponentFor (num den : Nat) : Int :=
  let guess : Int := (Nat.log2 num : Int) - (Nat.log2 den : Int) - 53
  let scaled := scale num den guess
  let exponent := if Nat.pow 2 53 ≤ scaled.1 / scaled.2 then guess + 1 else guess
  max exponent minExponent

/-- The mantissa and exponent of the number nearest to `num / den`; `none` when it is too large. -/
def ofRatio? (num den : Nat) : Option (Nat × Int) :=
  if num = 0 then some (0, minExponent)
  else
    let exponent := exponentFor num den
    let scaled := scale num den exponent
    let mantissa := roundDiv scaled.1 scaled.2
    let (mantissa, exponent) :=
      if mantissa = Nat.pow 2 53 then (Nat.pow 2 52, exponent + 1) else (mantissa, exponent)
    if exponent ≤ maxExponent then some (mantissa, exponent) else none

def ceiling (mantissa : Nat) (exponent : Int) : Nat :=
  if 0 ≤ exponent then mantissa * Nat.pow 2 exponent.toNat
  else
    let unit := Nat.pow 2 (-exponent).toNat
    (mantissa + (unit - 1)) / unit

def floor (mantissa : Nat) (exponent : Int) : Nat :=
  if 0 ≤ exponent then mantissa * Nat.pow 2 exponent.toNat
  else mantissa / Nat.pow 2 (-exponent).toNat

/-- The ceiling of the rounded quotient of two whole numbers, the divisor being positive. -/
def ceilDiv? (num : Int) (den : Nat) : Option Int :=
  match ofRatio? num.natAbs den with
  | none => none
  | some (mantissa, exponent) =>
    if num < 0 then some (-(floor mantissa exponent : Int)) else some (ceiling mantissa exponent)

/-- The number nearest to a quotient of whole numbers. -/
def ofQuotient (num : Int) (den : Nat) : Binary64 :=
  match ofRatio? num.natAbs den with
  | some (mantissa, exponent) => .finite (num < 0) mantissa exponent
  | none => .infinite (num < 0)

/-! ## Reading decimal text -/

/-- The quotient `digits * 10 ^ exponent`. -/
def decimalRatio (digits : Nat) (exponent : Int) : Nat × Nat :=
  if 0 ≤ exponent then (digits * Nat.pow 10 exponent.toNat, 1)
  else (digits, Nat.pow 10 (-exponent).toNat)

/-- The value of ASCII digits, other characters left out. -/
def digitsValue (chars : List Char) : Nat :=
  chars.foldl (fun value c => if c.isDigit then value * 10 + (c.toNat - 48) else value) 0

/-- The exponent after the letter `e`. -/
def readExponent : List Char → Int
  | '-' :: digits => -(digitsValue digits : Int)
  | digits => digitsValue digits

/-- The number that decimal text without a sign spells. -/
def ofUnsigned (negative : Bool) (chars : List Char) : Binary64 :=
  if chars = ['i', 'n', 'f'] then .infinite negative
  else if chars = ['n', 'a', 'n'] then .nan
  else
    let digits := chars.takeWhile (· != 'e')
    let places := ((digits.dropWhile (· != '.')).drop 1).length
    let exponent := readExponent ((chars.dropWhile (· != 'e')).drop 1) - places
    let (num, den) := decimalRatio (digitsValue digits) exponent
    match ofRatio? num den with
    | some (mantissa, exponent) => .finite negative mantissa exponent
    | none => .infinite negative

/-- The number that decimal text spells: digits, a point and an exponent, or `inf` or `nan`. -/
def ofText (text : String) : Binary64 :=
  match text.toList with
  | '-' :: chars => ofUnsigned true chars
  | chars => ofUnsigned false chars

/-! ## Comparison with exact numbers -/

def isZero : Binary64 → Bool
  | .finite _ mantissa _ => mantissa == 0
  | _ => false

/-- The whole number toward zero, for a finite number. -/
def truncate? : Binary64 → Option Int
  | .finite negative mantissa exponent =>
    let size : Int := floor mantissa exponent
    some (if negative then -size else size)
  | _ => none

/-- A finite number as a quotient of whole numbers. -/
def toRatio? : Binary64 → Option (Int × Nat)
  | .finite negative mantissa exponent =>
    let num : Int := if negative then -(mantissa : Int) else mantissa
    some (if 0 ≤ exponent then (num * (Nat.pow 2 exponent.toNat : Nat), 1)
      else (num, Nat.pow 2 (-exponent).toNat))
  | _ => none

/-- Whether one number is below another; `nan` is below nothing. -/
def lt (a b : Binary64) : Bool :=
  match a, b with
  | .nan, _ | _, .nan => false
  | .infinite negative, .infinite other => negative && !other
  | .infinite negative, _ => negative
  | _, .infinite negative => !negative
  | a, b =>
    match toRatio? a, toRatio? b with
    | some (n, d), some (m, e) => n * e < m * d
    | _, _ => false

/-- Whether two numbers are equal; `nan` equals nothing and the zeros are equal. -/
def eq (a b : Binary64) : Bool :=
  match a, b with
  | .infinite negative, .infinite other => negative == other
  | a, b =>
    match toRatio? a, toRatio? b with
    | some (n, d), some (m, e) => n * e == m * d
    | _, _ => false

/-- A whole number as an exact value for comparison. -/
def ofInt (value : Int) : Binary64 := .finite (value < 0) value.natAbs 0

/-! ## Arithmetic -/

/-- The number nearest to a whole number; `none` when that is too large. -/
def ofInt? (value : Int) : Option Binary64 :=
  (ofRatio? value.natAbs 1).map fun rounded => .finite (value < 0) rounded.1 rounded.2

def neg : Binary64 → Binary64
  | .nan => .nan
  | .infinite negative => .infinite !negative
  | .finite negative mantissa exponent => .finite (!negative) mantissa exponent

/-- The number nearest to a sum. Opposite infinities have none. -/
def add (a b : Binary64) : Binary64 :=
  match a, b with
  | .nan, _ | _, .nan => .nan
  | .infinite negative, .infinite other => if negative == other then .infinite negative else .nan
  | .infinite negative, _ | _, .infinite negative => .infinite negative
  | a, b =>
    match toRatio? a, toRatio? b with
    | some (n, d), some (m, e) => ofQuotient (n * e + m * d) (d * e)
    | _, _ => .nan

def sub (a b : Binary64) : Binary64 := add a (neg b)

/-- The number nearest to a finite number times a whole number. -/
def times (a : Binary64) (factor : Nat) : Binary64 :=
  match toRatio? a with
  | some (n, d) => ofQuotient (n * factor) d
  | none => a

end Binary64

end SqlToolkit
