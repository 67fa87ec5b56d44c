import SqlToolkit.Lexer.Rules

/-!
# Tokens

A text is cut into tokens from left to right. Block comments and dollar-quoted literals are looked
for first, then the rules in their order; where nothing fits, one character is a token. The main
statement says that the tokens, put together, are the text.
-/

namespace SqlToolkit.Lexer

open SqlToolkit.Text

structure Token where
  kind : TokenKind
  text : List Char
  deriving Repr, DecidableEq

/-! ## Delimited spans -/

/-- How far a span reaches that ends with a closing text, both counted from the opener's end. -/
def spanLength? (closing : List Char) (afterOpener : List Char) : Option Nat :=
  (search (dropText? closing) afterOpener).map fun found => found.1.length + closing.length

/-- A block comment at the front of the text. A comment that is not closed is none. -/
def blockComment? : List Char → Option (TokenKind × Nat)
  | '/' :: '*' :: '+' :: rest =>
    (spanLength? ['*', '/'] rest).map fun length => (.hint, length + 3)
  | '/' :: '*' :: rest => (spanLength? ['*', '/'] rest).map fun length => (.comment, length + 2)
  | _ => none

/-- The delimiter of a dollar-quoted literal at the front of the text: a name, which may be
missing, between two dollar signs. -/
def dollarDelimiter? : List Char → Option (List Char)
  | '$' :: '$' :: _ => some ['$', '$']
  | '$' :: c :: rest =>
    if Rule.startsName c then
      let name := c :: rest.takeWhile isWord
      match rest.dropWhile isWord with
      | '$' :: _ => some ('$' :: name ++ ['$'])
      | _ => none
    else none
  | _ => none

/-- A dollar-quoted literal at the front of the text, which ends with its own delimiter. -/
def dollarLiteral? (before : Option Char) (chars : List Char) : Option (TokenKind × Nat) :=
  if before.any fun c => isWord c || c == '"' || c == '$' then none
  else
    match dollarDelimiter? chars with
    | none => none
    | some delimiter =>
      (spanLength? delimiter (chars.drop delimiter.length)).map fun length =>
        (.other, length + delimiter.length)

/-! ## Tokens -/

/-- The kind and the length of the token at a position. -/
def tokenAt (before : Option Char) (chars : List Char) : TokenKind × Nat :=
  match blockComment? chars with
  | some span => span
  | none =>
    match dollarLiteral? before chars with
    | some span => span
    | none =>
      (rules.findSome? fun rule =>
        (rule.pattern.matchLength? ⟨before, chars⟩).map fun length => (rule.kind, length)).getD
        (.other, 1)

/-- At most `fuel` tokens of the text that follows the character `before`. A token has one
character at least, so a text has no more tokens than characters. -/
def tokensFrom (before : Option Char) : Nat → List Char → List Token
  | 0, _ => []
  | fuel + 1, chars =>
    if chars.isEmpty then []
    else
      let (kind, length) := tokenAt before chars
      let text := chars.take (max length 1)
      ⟨kind, text⟩ :: tokensFrom text.getLast? fuel (chars.drop (max length 1))

def tokens (chars : List Char) : List Token := tokensFrom none chars.length chars

theorem flatMap_tokensFrom (before : Option Char) (fuel : Nat) (chars : List Char)
    (h : chars.length ≤ fuel) : (tokensFrom before fuel chars).flatMap Token.text = chars := by
  induction fuel generalizing before chars with
  | zero => simp_all [tokensFrom]
  | succ fuel ih =>
    cases chars with
    | nil => simp [tokensFrom]
    | cons c rest =>
      simp only [tokensFrom, List.isEmpty_cons, Bool.false_eq_true, if_false, List.flatMap_cons]
      rw [ih]
      · exact List.take_append_drop _ _
      · simp only [List.length_drop, List.length_cons] at *
        omega

/-- Nothing is lost: the tokens, put together, are the text. -/
theorem flatMap_tokens (chars : List Char) : (tokens chars).flatMap Token.text = chars :=
  flatMap_tokensFrom none chars.length chars (Nat.le_refl _)

end SqlToolkit.Lexer
