import SqlToolkit.Fault
import SqlToolkit.Lexer.Token

/-!
# Markers

`:name` and `?` mark the places of bound values. Each driver understands one form of markers, and
a statement is spelled anew in that form. A `?` is bound by its position among the `?` markers,
counted from one. Where markers begin with a percent sign, every other percent sign of the text is
doubled.
-/

namespace SqlToolkit

open SqlToolkit.Lexer

/-- The forms of markers that drivers understand. -/
inductive Paramstyle where
  /-- Question marks: `?`. -/
  | qmark
  /-- The number of the marker: `:1`. -/
  | numeric
  /-- The name of the value: `:name`. -/
  | named
  /-- A directive for a text: `%s`. -/
  | format
  /-- A directive with a name: `%(name)s`. -/
  | pyformat
  deriving Repr, DecidableEq

namespace Paramstyle

def name : Paramstyle → String
  | .qmark => "qmark"
  | .numeric => "numeric"
  | .named => "named"
  | .format => "format"
  | .pyformat => "pyformat"

/-- The form with a name; an unknown name is a fault. -/
def ofName (name : String) : Attempt Paramstyle :=
  match [Paramstyle.qmark, .numeric, .named, .format, .pyformat].find? (·.name == name) with
  | some style => .ok style
  | none => .error (.parameter (.unknownParamstyle name))

def readsPercent : Paramstyle → Bool
  | .format | .pyformat => true
  | _ => false

def takesNames : Paramstyle → Bool
  | .named | .pyformat => true
  | _ => false

end Paramstyle

/-- What a marker is bound by. -/
inductive MarkerKey where
  | named (name : String)
  | positional (n : Nat)
  deriving Repr, DecidableEq

namespace MarkerKey

def toValue : MarkerKey → Value
  | .named name => .text name
  | .positional n => .int n

def argumentName : MarkerKey → String
  | .named name => name
  | .positional n => s!"p{n}"

end MarkerKey

namespace Marker

/-- The text of the marker with a key, the `index`-th of its statement. -/
def render (style : Paramstyle) (key : MarkerKey) (index : Nat) : List Char :=
  match style with
  | .qmark => ['?']
  | .format => ['%', 's']
  | .numeric => ':' :: (toString index).toList
  | .named => ':' :: key.argumentName.toList
  | .pyformat => '%' :: '(' :: key.argumentName.toList ++ [')', 's']

/-- A piece of a statement: text, or a marker with its key. -/
inductive Piece where
  | text (content : List Char)
  | marker (key : MarkerKey)
  deriving Repr, DecidableEq

/-- The tokens as pieces, when `position` markers without a name were passed. -/
def pieces (position : Nat) : List Token → List Piece
  | [] => []
  | token :: rest =>
    if token.kind = .placeholder then
      match token.text with
      | ['?'] => .marker (.positional (position + 1)) :: pieces (position + 1) rest
      | ':' :: c :: more => .marker (.named (String.ofList (c :: more))) :: pieces position rest
      | content => .text content :: pieces position rest
    else .text token.text :: pieces position rest

def Piece.key? : Piece → Option MarkerKey
  | .marker key => some key
  | .text _ => none

def escapePercent (content : List Char) : List Char :=
  content.flatMap fun c => if c = '%' then ['%', '%'] else [c]

/-- The text of the pieces in the driver's form, when `index` markers were passed. -/
def renderPieces (style : Paramstyle) (index : Nat) : List Piece → List Char
  | [] => []
  | .marker key :: rest =>
    render style key (index + 1) ++ renderPieces style (index + 1) rest
  | .text content :: rest =>
    (if style.readsPercent then escapePercent content else content)
      ++ renderPieces style index rest

def keys (pieces : List Piece) : List MarkerKey := pieces.filterMap Piece.key?

/-! ## Statements that are spelled anew -/

/-- A way to cut a text into tokens that loses nothing of it. -/
structure Cutting where
  cut : List Char → List Token
  whole : ∀ chars, (cut chars).flatMap Token.text = chars

def Cutting.standard : Cutting := ⟨tokens, flatMap_tokens⟩

def Cutting.pieces (cutting : Cutting) (sql : String) : List Piece :=
  Marker.pieces 0 (cutting.cut sql.toList)

/-- The statement in the driver's form, and the keys of its markers in order. A statement without
markers stays as it is. -/
def Cutting.restyle (cutting : Cutting) (sql : String) (style : Paramstyle) :
    String × List MarkerKey :=
  match keys (cutting.pieces sql) with
  | [] => (sql, [])
  | keys => (String.ofList (renderPieces style 0 (cutting.pieces sql)), keys)

/-- The statement in the driver's form, with the tokens of this library. -/
def restyle (sql : String) (style : Paramstyle) : String × List MarkerKey :=
  Cutting.standard.restyle sql style

end Marker

end SqlToolkit
