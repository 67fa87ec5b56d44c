import SqlToolkit.Rows

/-!
# Options of page links

Classes, marks and labels of the links, the name of the page parameter, and whether the page number
is written into the path instead of the query. Options are set by name; an unknown name refuses the
whole change.
-/

namespace SqlToolkit

structure PageOptions where
  activeClass : Value := .text "active"
  disabledClass : Value := .text "disabled"
  paginationClass : Value := .text "pagination pagination-flat"
  firstMarkup : Value := .text "<i class=\"fas fa-angle-double-left\"></i>"
  previousMarkup : Value := .text "<i class=\"fas fa-angle-left\"></i>"
  nextMarkup : Value := .text "<i class=\"fas fa-angle-right\"></i>"
  lastMarkup : Value := .text "<i class=\"fas fa-angle-double-right\"></i>"
  navLength : Value := .int 2
  querystring : Value := .text "p"
  pathLinks : Value := .bool false
  pathTransition : Value := .text "&"
  pathExtension : Value := .text ""
  pageLabel : Value := .text "Page"
  resultsLabel : Value := .text "results"
  toLabel : Value := .text "to"
  ofLabel : Value := .text "of"

namespace PageOptions

structure Field where
  get : PageOptions → Value
  set : PageOptions → Value → PageOptions

def fields : List (String × Field) :=
  [("active_class", ⟨activeClass, fun options value => { options with activeClass := value }⟩),
   ("disabled_class",
     ⟨disabledClass, fun options value => { options with disabledClass := value }⟩),
   ("pagination_class",
     ⟨paginationClass, fun options value => { options with paginationClass := value }⟩),
   ("first_markup", ⟨firstMarkup, fun options value => { options with firstMarkup := value }⟩),
   ("previous_markup",
     ⟨previousMarkup, fun options value => { options with previousMarkup := value }⟩),
   ("next_markup", ⟨nextMarkup, fun options value => { options with nextMarkup := value }⟩),
   ("last_markup", ⟨lastMarkup, fun options value => { options with lastMarkup := value }⟩),
   ("nav_length", ⟨navLength, fun options value => { options with navLength := value }⟩),
   ("querystring", ⟨querystring, fun options value => { options with querystring := value }⟩),
   ("rewrite_links", ⟨pathLinks, fun options value => { options with pathLinks := value }⟩),
   ("rewrite_transition",
     ⟨pathTransition, fun options value => { options with pathTransition := value }⟩),
   ("rewrite_extension",
     ⟨pathExtension, fun options value => { options with pathExtension := value }⟩),
   ("page_label", ⟨pageLabel, fun options value => { options with pageLabel := value }⟩),
   ("results_label",
     ⟨resultsLabel, fun options value => { options with resultsLabel := value }⟩),
   ("to_label", ⟨toLabel, fun options value => { options with toLabel := value }⟩),
   ("of_label", ⟨ofLabel, fun options value => { options with ofLabel := value }⟩)]

def toEntries (options : PageOptions) : List (String × Value) :=
  fields.map fun field => (field.1, field.2.get options)

def field? (key : Value) : Option Field := key.text?.bind fun name => fields.lookup name

/-- The options with the known ones of the entries replaced. -/
def write (options : PageOptions) (entries : Value.Entries) : PageOptions :=
  entries.foldl (fun changed entry =>
    match field? entry.1 with
    | some field => field.set changed entry.2
    | none => changed) options

def checkNames (names : List Value) : Attempt Unit :=
  match names.filter fun name => (field? name).isNone with
  | [] => .ok ()
  | unknown =>
    if unknown.all fun name => name.text?.isSome then
      .error (.parameter (.unknownOptions (unknown.map Value.display)))
    else .error .wrongKind

/-- Replaces several options, all of which must be known. -/
def set (options : PageOptions) (entries : Value.Entries) : Attempt PageOptions :=
  (checkNames (Entries.keys entries)).map fun _ => options.write entries

/-- Replaces the options of a map. The names in any other collection are looked at before it is
refused. -/
def setAll (options : PageOptions) (settings : Value) : Attempt PageOptions :=
  match settings with
  | .map entries => options.set entries
  | settings => do
    checkNames (← Rows.items settings)
    throw .missingAttribute

end PageOptions

end SqlToolkit
