import SqlToolkit.Text.Scan

/-!
# Patterns

Patterns describe the text of a token. Matching tries the alternatives in order and backs up when
what follows does not fit, so of all readings the first one counts: `many` prefers more items,
`fewest` prefers fewer. A pattern sees the character before its position as well.
-/

namespace SqlToolkit.Lexer

open SqlToolkit.Text

/-- A position in a text: the character before it and the text that follows. -/
structure Cursor where
  before : Option Char
  rest : List Char

inductive Pattern where
  | empty
  | one (accept : Char → Bool)
  | seq (first second : Pattern)
  | alt (first second : Pattern)
  /-- Any number of items, as many as possible. -/
  | many (item : Pattern)
  /-- Any number of items, as few as possible. -/
  | fewest (item : Pattern)
  /-- The position where a word begins or ends. -/
  | edge
  /-- The end of the text, or the place before a line feed that ends it. -/
  | atEnd
  /-- The character before the position is acceptable. -/
  | preceded (accept : Option Char → Bool)
  /-- The pattern fits here, but reads nothing. -/
  | ahead (pattern : Pattern)
  /-- The pattern does not fit here. -/
  | notAhead (pattern : Pattern)

namespace Pattern

/-! ## Matching -/

/-- A step that goes on with `next` where its own reading ends. -/
abbrev Step := (Cursor → Option Cursor) → Cursor → Option Cursor

/-- At most `fuel` items, more before fewer. -/
def repeatMany (item : Step) (next : Cursor → Option Cursor) : Nat → Cursor → Option Cursor
  | 0, cursor => next cursor
  | fuel + 1, cursor =>
    match item (repeatMany item next fuel) cursor with
    | some final => some final
    | none => next cursor

/-- At most `fuel` items, fewer before more. -/
def repeatFewest (item : Step) (next : Cursor → Option Cursor) : Nat → Cursor → Option Cursor
  | 0, cursor => next cursor
  | fuel + 1, cursor =>
    match next cursor with
    | some final => some final
    | none => item (repeatFewest item next fuel) cursor

/-- Reads the pattern and then whatever `next` reads. Items of a repetition read one character at
least, so the text that is left bounds their number. -/
def read : Pattern → Step
  | .empty, next, cursor => next cursor
  | .one accept, next, cursor =>
    match cursor.rest with
    | [] => none
    | c :: rest => if accept c then next ⟨some c, rest⟩ else none
  | .seq first second, next, cursor => first.read (second.read next) cursor
  | .alt first second, next, cursor =>
    match first.read next cursor with
    | some final => some final
    | none => second.read next cursor
  | .many item, next, cursor => repeatMany item.read next cursor.rest.length cursor
  | .fewest item, next, cursor => repeatFewest item.read next cursor.rest.length cursor
  | .edge, next, cursor =>
    if cursor.before.any isWord != startsWithWord cursor.rest then next cursor else none
  | .atEnd, next, cursor =>
    if cursor.rest = [] ∨ cursor.rest = ['\n'] then next cursor else none
  | .preceded accept, next, cursor => if accept cursor.before then next cursor else none
  | .ahead pattern, next, cursor =>
    if (pattern.read some cursor).isSome then next cursor else none
  | .notAhead pattern, next, cursor =>
    if (pattern.read some cursor).isSome then none else next cursor

/-- The number of characters that the pattern reads at a position. -/
def matchLength? (pattern : Pattern) (cursor : Cursor) : Option Nat :=
  (pattern.read some cursor).map fun final => cursor.rest.length - final.rest.length

/-! ## Common patterns -/

def char (c : Char) : Pattern := .one (· == c)

def letter (c : Char) : Pattern := .one (sameLetter c)

def all : List Pattern → Pattern
  | [] => .empty
  | [pattern] => pattern
  | pattern :: more => .seq pattern (all more)

/-- The first of the patterns that leads to a match. -/
def any : List Pattern → Pattern
  | [] => .notAhead .empty
  | [pattern] => pattern
  | pattern :: more => .alt pattern (any more)

def text (content : String) : Pattern := all (content.toList.map char)

def word (content : String) : Pattern := all (content.toList.map letter)

def words (contents : List String) : Pattern := any (contents.map word)

def optional (pattern : Pattern) : Pattern := .alt pattern .empty

def many1 (item : Pattern) : Pattern := .seq item (.many item)

def gap : Pattern := many1 (.one isBlank)

/-- Words in any case with a gap between neighbours. -/
def phrase : List String → Pattern
  | [] => .empty
  | [content] => word content
  | content :: more => .seq (word content) (.seq gap (phrase more))

end Pattern

end SqlToolkit.Lexer
