import SqlToolkit.Pages.Options
import SqlToolkit.Text.Scan

/-!
# Page links

The list of links that leads through the pages, and the line that says which results a page shows.
A link names its page in the query of the URL or, in path mode, at the end of its path. A page
that an earlier list of links put into the URL is taken out before the links are made.
-/

namespace SqlToolkit

open SqlToolkit.Text

inductive LinkStyle where
  /-- As a parameter of the query. -/
  | query (name : String)
  /-- After a transition, with an extension at the end. -/
  | path (name transition : String) (extension : Value)

def PageOptions.textOption (option : Value) : Attempt String :=
  match option with
  | .text content => .ok content
  | _ => .error .wrongKind

/-- The name of the parameter in a query, a text or the text of a byte string. -/
def PageOptions.parameterName (options : PageOptions) : Attempt String :=
  match options.querystring with
  | .bytes content => .ok (Value.bytes content).display
  | name => textOption name

/-- The style that the options ask for. An extension that counts as true must be a text. -/
def PageOptions.linkStyle (options : PageOptions) : Attempt LinkStyle := do
  if options.pathLinks.truthy then
    let name ← textOption options.querystring
    let transition ← textOption options.pathTransition
    if options.pathExtension.truthy then
      let _ ← textOption options.pathExtension
    return .path name transition options.pathExtension
  else return .query (← options.parameterName)

namespace PageLinks

/-! ## Taking a page out of a URL -/

def dropDigits? (chars : List Char) : Option (List Char) :=
  (takeRun? Char.isDigit chars).map (·.2)

def dropAmp (chars : List Char) : List Char := (dropText? "amp;".toList chars).getD chars

/-- Reads the page parameter: its name, an equals sign and a number. -/
def dropPage? (name : List Char) (chars : List Char) : Option (List Char) :=
  ((dropText? name chars).bind (dropText? ['='])).bind dropDigits?

/-- Reads a page parameter that begins the query and another parameter's separator. -/
def dropFirstOfMany? (name : List Char) (chars : List Char) : Option (List Char) :=
  (((dropText? ['?'] chars).bind (dropPage? name)).bind (dropText? ['&'])).map dropAmp

/-- Reads a page parameter that begins the query. -/
def dropFirst? (name : List Char) (chars : List Char) : Option (List Char) :=
  (dropText? ['?'] chars).bind (dropPage? name)

/-- Reads a page parameter after a separator. -/
def dropLater? (name : List Char) (chars : List Char) : Option (List Char) :=
  match dropText? ['&'] chars with
  | none => none
  | some rest =>
    match (dropText? "amp;".toList rest).bind (dropPage? name) with
    | some after => some after
    | none => dropPage? name rest

/-- Reads a page in path mode: the transition, the name and a number. -/
def dropPathPage? (transition name : List Char) (chars : List Char) : Option (List Char) :=
  ((dropText? transition chars).bind (dropText? name)).bind dropDigits?

/-- The URL without the page that a link put there. -/
def stripPage (style : LinkStyle) (url : List Char) : List Char :=
  match style with
  | .query name =>
    let name := name.toList
    let url := substitute (replacing ['?'] (dropFirstOfMany? name)) 0 url
    let url := substitute (replacing [] (dropFirst? name)) 0 url
    substitute (replacing [] (dropLater? name)) 0 url
  | .path name transition extension =>
    let url := substitute (replacing [] (dropPathPage? transition.toList name.toList)) 0 url
    if extension.truthy then replaceText extension.display.toList [] url else url

/-! ## Links -/

def transitionFor (style : LinkStyle) (url : List Char) : List Char :=
  match style with
  | .path _ transition _ => transition.toList
  | .query _ => if url.contains '?' then "&amp;".toList else ['?']

/-- The URL of a page. Page 1 is not named; in path mode its URL needs an extension that is a
text. -/
def pageUrl (style : LinkStyle) (url : List Char) (page : Int) : Attempt String :=
  let base := String.ofList url
  let transition := String.ofList (transitionFor style url)
  match style with
  | .query name =>
    if page = 1 then .ok base
    else (Numeral.write page).map fun page => s!"{base}{transition}{name}={page}"
  | .path name _ extension =>
    if page = 1 then (PageOptions.textOption extension).map fun extension => base ++ extension
    else (Numeral.write page).map fun page => s!"{base}{transition}{name}{page}{extension.display}"

structure Item where
  href : String
  label : String
  css : Value := .text ""

def newItem (href : String) (label : Value) (css : Value := .text "") : Attempt Item := do
  let _ ← css.write Value.display
  return ⟨href, ← label.write Value.display, css⟩

def Item.html (item : Item) : String :=
  let css := if item.css.truthy then "page-item " ++ item.css.display else "page-item"
  "<li class=\"" ++ css ++ "\"><a class=\"page-link\" href=\"" ++ item.href ++ "\">" ++ item.label
    ++ "</a></li>"

/-- What a list of links is about: how many records and pages there are, which page is shown, and
how many records it has. -/
structure Figures where
  total : Int := 0
  pages : Int := 0
  current : Int := 1
  fetched : Int := 0
  deriving Repr, DecidableEq

def pageRange (low high : Int) : List Int :=
  (List.range (high + 1 - low).toNat).map fun step => low + Int.ofNat step

def pagesWithin (figures : Figures) (reach : Int) : List Int :=
  pageRange (max 1 (figures.current - reach)) (min figures.pages (figures.current + reach))

/-- Whether a reach that is not whole covers all pages. -/
def coversAll (figures : Figures) (current reach : Binary64) : Bool :=
  !(Binary64.ofInt 1).lt (current.sub reach)
    && !(current.add reach).lt (Binary64.ofInt figures.pages)

/-- The pages around the current one that have an item of their own. A reach that is not whole must
cover all pages. -/
def shownPages (figures : Figures) (reach : Value) : Attempt (List Int) :=
  match reach with
  | .int n => .ok (pagesWithin figures n)
  | .bool b => .ok (pagesWithin figures (if b then 1 else 0))
  | .float spelling =>
    match Binary64.ofInt? figures.current with
    | none => .error .overflow
    | some current =>
      if coversAll figures current (.ofText spelling) then .ok (pageRange 1 figures.pages)
      else .error .wrongKind
  | _ => .error .wrongKind

def linkItem (link : Int → Attempt String) (page : Int) (label : Value) : Attempt Item := do
  newItem (← link page) label

/-- The item of a page; the current page has no link. -/
def pageItem (options : PageOptions) (link : Int → Attempt String) (current page : Int) :
    Attempt Item :=
  if page = current then newItem "#" (.int page) options.activeClass
  else linkItem link page (.int page)

/-- The items that lead to the first and the previous page, if there is one. -/
def backItems (options : PageOptions) (figures : Figures) (link : Int → Attempt String) :
    Attempt (List Item) := do
  if figures.current > 1 then
    let previous ← linkItem link (figures.current - 1) options.previousMarkup
    let first ← linkItem link 1 options.firstMarkup
    return [first, previous]
  else return []

/-- The items that lead to the next and the last page, if there is one. -/
def forwardItems (options : PageOptions) (figures : Figures) (link : Int → Attempt String) :
    Attempt (List Item) := do
  if figures.current < figures.pages then
    let next ← linkItem link (figures.current + 1) options.nextMarkup
    let last ← linkItem link figures.pages options.lastMarkup
    return [next, last]
  else return []

/-- The items when there are several pages: first and previous, the label, the pages around the
current one, next and last. -/
def items (options : PageOptions) (figures : Figures) (link : Int → Attempt String) :
    Attempt (List Item) := do
  let shown ← shownPages figures options.navLength
  let around ← shown.mapM (pageItem options link figures.current)
  let caption ← newItem "#" options.pageLabel options.disabledClass
  let back ← backItems options figures link
  let forward ← forwardItems options figures link
  return back ++ caption :: (around ++ forward)

/-- The numbers of the first and the last result that the page shows. -/
def shownResults (figures : Figures) (perPage : Int) : Int × Int :=
  if figures.pages > 1 then
    let first := perPage * (figures.current - 1) + 1
    (first, first + figures.fetched - 1)
  else (1, figures.total)

def summary (options : PageOptions) (figures : Figures) (perPage : Int) : Attempt String := do
  let (first, last) := shownResults figures perPage
  return "<p class=\"text-right text-semibold\">"
    ++ (← options.resultsLabel.write Value.display) ++ s!" {← Numeral.write first} "
    ++ (← options.toLabel.write Value.display) ++ s!" {← Numeral.write last} "
    ++ (← options.ofLabel.write Value.display) ++ s!" {← Numeral.write figures.total}</p>"

def html (options : PageOptions) (figures : Figures) (perPage : Int) (items : List Item) :
    Attempt String := do
  return "<ul class=\"" ++ (← options.paginationClass.write Value.display) ++ "\">"
    ++ String.join (items.map Item.html) ++ "</ul>"
    ++ "<div class=\"heading-elements pt-2 pr-3\">" ++ (← summary options figures perPage)
    ++ "</div>"

def strip (options : PageOptions) (url : String) : Attempt String := do
  return String.ofList (stripPage (← options.linkStyle) url.toList)

/-- The stripped form of a value, which must be a text. -/
def stripFrom (options : PageOptions) (url : Value) : Attempt String := do
  strip options (← PageOptions.textOption url)

/-- The markup for a URL; nothing when there are no records. -/
def render (options : PageOptions) (figures : Figures) (perPage : Int) (url : String) :
    Attempt String := do
  if figures.total = 0 then return ""
  let style ← options.linkStyle
  if figures.pages > 1 then
    html options figures perPage
      (← items options figures (pageUrl style (stripPage style url.toList)))
  else html options figures perPage []

end PageLinks

end SqlToolkit
