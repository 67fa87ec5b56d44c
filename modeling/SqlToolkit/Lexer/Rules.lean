import SqlToolkit.Lexer.Pattern
import SqlToolkit.Text.Digit

/-!
# The rules for SQL tokens

The patterns of the tokens in the order in which they are tried. Only placeholders and comments
are told apart; of the other tokens it matters only where they end.
-/

namespace SqlToolkit.Lexer

open SqlToolkit.Text Pattern

inductive TokenKind where
  | comment
  /-- A comment that speaks to the database. -/
  | hint
  | placeholder
  | other
  deriving Repr, DecidableEq

structure Rule where
  kind : TokenKind
  pattern : Pattern

namespace Rule

/-- The character that begins a name, the underscore included. -/
def startsName (c : Char) : Bool := isNameLetter c || c == '_'

/-- A character that may stand in a number or a name after the first one. -/
def wordChar : Pattern := .one isWord

def digit : Pattern := .one isDecimal

/-- The letters that begin a name. -/
def nameLetter : Pattern := .one isNameLetter

def lineBreak : Pattern := .any [.text "\r\n", .char '\r', .char '\n']

/-- Everything up to the end of the line, and the end itself. -/
def restOfLine : Pattern :=
  .all [.fewest (.one (· != '\n')), .any [.text "\r\n", .char '\r', .char '\n', .atEnd]]

/-- What begins a comment that ends with the line. -/
def lineComment : Pattern := .any [.text "--", .text "# "]

def notAfterWord : Pattern := .preceded fun before => !before.any isWord

def noName : Pattern := .notAhead (.one startsName)

def sign : Pattern := .optional (.char '-')

/-- Text between two marks; the mark written twice stands for itself. -/
def doubled (mark : Char) : Pattern :=
  .all [.char mark,
    .many (.alt (.text (String.ofList [mark, mark])) (.one (· != mark))), .char mark]

/-- Text between two quotes, which may be written twice or after a backslash. -/
def quotedWith (mark : Char) : Pattern :=
  .all [.char mark,
    .many (.any [.text (String.ofList [mark, mark]), .text (String.ofList ['\\', mark]),
      .one (· != mark)]),
    .char mark]

def wordGap (content : String) : Pattern := .seq (.word content) .gap

def wholePhrase (contents : List String) : Pattern := .seq (.phrase contents) .edge

def nameRules : List Rule :=
  [⟨.hint, .all [lineComment, .char '+', restOfLine]⟩,
   ⟨.comment, .all [lineComment, restOfLine]⟩,
   ⟨.other, lineBreak⟩,
   ⟨.other, .one isBlank⟩,
   ⟨.other, .text ":="⟩,
   ⟨.other, .text "::"⟩,
   ⟨.other, .char '*'⟩,
   ⟨.other, doubled '\x60'⟩,
   ⟨.other, doubled '´'⟩,
   ⟨.placeholder, .char '?'⟩,
   ⟨.placeholder,
    .all [.char '%', .optional (.all [.char '(', .many1 wordChar, .char ')']), .letter 's']⟩,
   ⟨.placeholder,
    .all [notAfterWord, .one (fun c => c == '$' || c == ':' || c == '?'), .many1 wordChar]⟩,
   ⟨.other, .all [.char '\\', .many1 wordChar]⟩,
   ⟨.other, .all [.words ["CASE", "IN", "VALUES", "USING", "FROM", "AS"], .edge]⟩,
   ⟨.other, .all [.any [.char '@', .text "##", .char '#'], nameLetter, .many1 wordChar]⟩,
   ⟨.other,
    .all [nameLetter, .many wordChar,
      .ahead (.all [.many (.one isBlank), .char '.', .notAhead digit])]⟩,
   ⟨.other, .all [.preceded (· == some '.'), nameLetter, .many wordChar]⟩,
   ⟨.other, .all [nameLetter, .many wordChar, .ahead (.char '(')]⟩]

def literalRules : List Rule :=
  [⟨.other,
    .all [sign, .char '0', .letter 'x',
      .many1 (.one fun c =>
        isDecimal c || ('a' ≤ caseKey c && caseKey c ≤ 'f'))]⟩,
   ⟨.other,
    .all [sign, .many1 digit, .optional (.seq (.char '.') (.many1 digit)), .letter 'e', sign,
      .many1 digit]⟩,
   ⟨.other,
    .all [noName, sign,
      .any [.all [.many1 digit, .char '.', .many digit], .all [.char '.', .many1 digit]],
      noName]⟩,
   ⟨.other, .all [noName, sign, .many1 digit, noName]⟩,
   ⟨.other, quotedWith '\''⟩,
   ⟨.other, quotedWith '"'⟩,
   ⟨.other,
    .any [.text "\"\"",
      .all [.char '"', .fewest (.one (· != '\n')), .one (· != '\\'), .char '"']]⟩,
   ⟨.other,
    .all [.preceded fun before => !before.any fun c => isWord c || c == ']' || c == ')',
      .char '[', .many1 (.one fun c => c != ']' && c != '['), .char ']']⟩]

def phraseRules : List Rule :=
  [⟨.other,
    .all [.optional (.any [
        .all [.optional (.any [wordGap "LEFT", wordGap "RIGHT", wordGap "FULL"]),
          .optional (.any [wordGap "INNER", wordGap "OUTER", wordGap "STRAIGHT"])],
        .optional (.any [wordGap "CROSS", wordGap "NATURAL"])]),
      .word "JOIN", .edge]⟩,
   ⟨.other,
    .all [.word "END",
      .optional (.seq .gap (.words ["IF", "LOOP", "WHILE", "FOR", "CASE"])), .edge]⟩,
   ⟨.other, .all [wordGap "IF", .optional (wordGap "NOT"), .word "EXISTS", .edge]⟩,
   ⟨.other, wholePhrase ["NOT", "NULL"]⟩,
   ⟨.other,
    .all [.words ["ASC", "DESC"],
      .optional (.all [.gap, wordGap "NULLS", .words ["FIRST", "LAST"]]), .edge]⟩,
   ⟨.other, .all [.words ["ASC", "DESC"], .edge]⟩,
   ⟨.other, .all [wordGap "NULLS", .words ["FIRST", "LAST"], .edge]⟩,
   ⟨.other, wholePhrase ["UNION", "ALL"]⟩,
   ⟨.other,
    .all [.word "CREATE", .optional (.seq .gap (.phrase ["OR", "REPLACE"])), .edge]⟩,
   ⟨.other, wholePhrase ["DOUBLE", "PRECISION"]⟩,
   ⟨.other, wholePhrase ["GROUP", "BY"]⟩,
   ⟨.other, wholePhrase ["ORDER", "BY"]⟩,
   ⟨.other, wholePhrase ["PRIMARY", "KEY"]⟩,
   ⟨.other, wholePhrase ["HANDLER", "FOR"]⟩,
   ⟨.other, .all [.word "GO", .one isBlank, .many1 digit, .edge]⟩,
   ⟨.other,
    .all [wordGap "LATERAL", wordGap "VIEW",
      .words ["EXPLODE", "INLINE", "PARSE_URL_TUPLE", "POSEXPLODE", "STACK"], .edge]⟩,
   ⟨.other,
    .all [.words ["AT", "WITH'"], .gap, wordGap "TIME", wordGap "ZONE", .char '\'',
      .many1 (.one (· != '\'')), .char '\'']⟩,
   ⟨.other, .all [.optional (wordGap "NOT"), .words ["LIKE", "ILIKE", "RLIKE"], .edge]⟩,
   ⟨.other,
    .all [.optional (wordGap "NOT"), .word "REGEXP", .optional (.seq .gap (.word "BINARY")),
      .edge]⟩]

def symbolRules : List Rule :=
  [⟨.other, .all [wordChar, .many (.one fun c => c == '$' || c == '#' || isWord c)]⟩,
   ⟨.other, .one (";:()[],.".toList.contains ·)⟩,
   ⟨.other,
    .any [.text "->>", .text "->", .text "#>>", .text "#>", .text "@>", .text "<@", .text "?|",
      .char '?', .text "?&", .char '-', .text "#-"]⟩,
   ⟨.other, .many1 (.one ("<>=~!".toList.contains ·))⟩,
   ⟨.other, .many1 (.one ("+/@#%^&|-".toList.contains ·))⟩]

end Rule

def rules : List Rule :=
  Rule.nameRules ++ Rule.literalRules ++ Rule.phraseRules ++ Rule.symbolRules

end SqlToolkit.Lexer
