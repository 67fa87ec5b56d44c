import SqlToolkit.Number.Binary64

/-!
# Floating-point numbers as decimal text

A number is written with the fewest digits that read back as it, and of those with the digits that
come nearest to it. Numbers from `0.0001` up to `10 ^ 16` are written out with a point; the others
get an exponent.
-/

namespace SqlToolkit

/-- The number `digits * 10 ^ exponent`. -/
structure Decimal where
  digits : Nat
  exponent : Int
  deriving Repr, DecidableEq

namespace Decimal

/-! ## Choosing the digits -/

/-- Whether the nearest floating-point number is the one with the mantissa and the exponent. -/
def readsAs (decimal : Decimal) (number : Nat × Int) : Bool :=
  let (num, den) := Binary64.decimalRatio decimal.digits decimal.exponent
  Binary64.ofRatio? num den == some number

/-- How many zeros follow the point of a quotient below one; at most `limit` are counted. -/
def leadingZeros (den : Nat) : Nat → Nat → Nat
  | 0, _ => 0
  | limit + 1, num => if den ≤ num * 10 then 0 else leadingZeros den limit (num * 10) + 1

/-- The place of the point: how many digits stand before it, negative for the zeros after it. -/
def pointOf (num den : Nat) : Int :=
  if den ≤ num then ((toString (num / den)).length : Int) else -(leadingZeros den 400 num : Int)

/-- The decimals with the last digit at `exponent` that enclose a quotient, the nearer one first and
of two equally near ones the even one. -/
def neighbours (num den : Nat) (exponent : Int) : List Decimal :=
  let (n, d) :=
    if 0 ≤ exponent then (num, den * Nat.pow 10 exponent.toNat)
    else (num * Nat.pow 10 (-exponent).toNat, den)
  let below : Decimal := ⟨n / d, exponent⟩
  let above : Decimal := ⟨n / d + 1, exponent⟩
  if Binary64.roundDiv n d = n / d then [below, above] else [above, below]

/-- The digits of a number other than zero: the first length at which a neighbour reads back. -/
def shortest (number : Nat × Int) : Decimal :=
  let (num, den) := Binary64.scale number.1 1 (-number.2)
  let candidates := (List.range 17).flatMap fun length =>
    neighbours num den (pointOf num den - Int.ofNat (length + 1))
  (candidates.find? fun decimal => decimal.readsAs number).getD ⟨num / den, 0⟩

/-! ## Writing the digits -/

def zeros (count : Int) : List Char := List.replicate count.toNat '0'

/-- Digits with a point after the first `point` of them. -/
def positional (digits : List Char) (point : Int) : List Char :=
  if point ≤ 0 then '0' :: '.' :: (zeros (-point) ++ digits)
  else
    let whole := digits.take point.toNat ++ zeros (point - digits.length)
    let places := digits.drop point.toNat
    whole ++ '.' :: (if places.isEmpty then ['0'] else places)

/-- Digits with a point after the first and an exponent of two digits or more. -/
def scientific (digits : List Char) (exponent : Int) : List Char :=
  let size := (toString exponent.natAbs).toList
  let places := digits.drop 1
  digits.take 1 ++ (if places.isEmpty then [] else '.' :: places)
    ++ ['e', if exponent < 0 then '-' else '+'] ++ zeros (2 - size.length) ++ size

/-- The text of a decimal other than zero. -/
def write (decimal : Decimal) : List Char :=
  let written := (toString decimal.digits).toList
  let point : Int := written.length + decimal.exponent
  let digits := (written.reverse.dropWhile (· == '0')).reverse
  if -4 < point ∧ point ≤ 16 then positional digits point else scientific digits (point - 1)

end Decimal

def Binary64.text : Binary64 → String
  | .nan => "nan"
  | .infinite negative => if negative then "-inf" else "inf"
  | .finite negative mantissa exponent =>
    let digits :=
      if mantissa = 0 then ['0', '.', '0'] else (Decimal.shortest (mantissa, exponent)).write
    String.ofList (if negative then '-' :: digits else digits)

end SqlToolkit
