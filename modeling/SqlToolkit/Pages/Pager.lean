import SqlToolkit.Facade.Basic
import SqlToolkit.Number.Binary64
import SqlToolkit.Pages.Links
import SqlToolkit.Pages.Number

/-!
# Paginated queries

A paginated query counts the matching records, finds the page that is asked for, fetches the records
of that page only, and keeps the figures from which the page links are made. When it fails the
figures are those of an empty result.
-/

namespace SqlToolkit

open SqlToolkit.PageLinks

structure Pager (σ : Type) where
  facade : Facade σ
  options : PageOptions := {}
  /-- The number of records of a page. -/
  perPage : Nat := 10
  /-- The page that is shown whatever the request asks for; null if none is forced. -/
  forcedPage : Value := .null
  figures : Figures := {}
  /-- The current page in the form in which it is shown. -/
  shownPage : Value := .int 1

namespace Pager

variable {σ : Type}

def facadePart : Part (Pager σ) (Facade σ) :=
  ⟨Pager.facade, fun facade pager => { pager with facade }⟩

def onFacade {α : Type} (action : Action (Facade σ) α) : Action (Pager σ) α :=
  Action.on facadePart action

/-! ## Settings -/

/-- A number of records per page: a whole number from one. -/
def pageSize (value : Value) : Attempt Nat :=
  let refused : Attempt Nat := value.refuse fun shown => .parameter (.badPageSize shown)
  match value with
  | .int n => if n < 1 then refused else .ok n.toNat
  | _ => refused

def create (facade : Facade σ) (options : PageOptions) (perPage : Value) : Attempt (Pager σ) := do
  return { facade, options, perPage := ← pageSize perPage }

def setPageSize (value : Value) : Action (Pager σ) Unit := do
  let perPage ← Action.ofAttempt (pageSize value)
  modify fun pager => { pager with perPage }

/-- Forces a page, or with null goes back to the one that is asked for. -/
def forcePage (page : Value) : Action (Pager σ) Unit :=
  modify fun pager => { pager with forcedPage := page }

def setOptions (settings : Value) : Action (Pager σ) Unit := do
  let options ← Action.ofAttempt ((← get).options.setAll settings)
  modify fun pager => { pager with options }

/-! ## Counting -/

def columnText : Value → Attempt String
  | .text columns => .ok columns
  | fields => do
    let texts ← (← Rows.items fields).mapM fun field =>
      match field with
      | .text column => Except.ok column
      | _ => .error .wrongKind
    return ", ".intercalate texts

def countedExpression (distinct : Bool) (columns : String) : String :=
  if distinct && Text.trim columns != "*" then "DISTINCT " ++ columns else "*"

variable [Connection σ]

/-- Composes the grouped statement whose rows are counted; the result is its SQL and its values. -/
def groupedStatement (table : Value) (columns : String) (condition grouping : Value)
    (distinct : Bool) : Action (Builder σ) (String × Value.Entries) := do
  Builder.select (.text columns)
  Builder.fromTable table
  Builder.filter condition
  Builder.groupBy grouping
  Builder.distinct (.bool distinct)
  let builder ← get
  let sql ← Action.ofAttempt builder.sql
  return (sql, ← Action.ofAttempt builder.placeholders)

def countGroups (selection : Facade.Selection) (columns : String) (grouping : Value)
    (distinct : Bool) (debug : Value) : Action (Facade σ) Value := do
  let (inner, placeholders) ← Facade.onBuilder
    (groupedStatement selection.table columns selection.condition grouping distinct)
  Facade.queryRow (.text s!"SELECT COUNT(*) AS rowsCount FROM ({inner}) grouped_rows")
    (.map placeholders) .num debug

def countRow (selection : Facade.Selection) (parameters : Value.Entries) (columns : String)
    (debug : Value) : Action (Facade σ) Value :=
  let distinct := ((Entries.get? (.text "select_distinct") parameters).getD .null).truthy
  let grouping := (Entries.get? (.text "group_by") parameters).getD .null
  if grouping.truthy then countGroups selection columns grouping distinct debug
  else
    let counted := Value.map [(.text (countedExpression distinct columns), .text "rowsCount")]
    Facade.selectCount { selection with fields := counted, parameters := .null } debug .num

/-- Runs an action; a fault of the toolkit becomes the one given for it. -/
def relabelled {α : Type} (label : Fault → Fault) (action : Action (Pager σ) α) :
    Action (Pager σ) α := do
  match ← Action.attempt action with
  | .ok result => return result
  | .error fault => throw (if fault.isToolkit then label fault else fault)

def count (selection : Facade.Selection) (parameters : Value.Entries) (debug : Value) :
    Action (Pager σ) Int := do
  let columns ← Action.ofAttempt (columnText selection.fields)
  let row ← relabelled .countFailed (onFacade (countRow selection parameters columns debug))
  match row with
  | .tuple (first :: _) => Action.ofAttempt first.toInteger
  | _ => throw .countMissing

/-! ## Selecting -/

/-- The number of pages for a number of records. The quotient is rounded to a floating-point number
before it is rounded up. -/
def pageCount (total : Int) (perPage : Nat) : Attempt Int :=
  match Binary64.ceilDiv? total perPage with
  | some pages => .ok pages
  | none => .error .overflow

def pageLimit (page : PageNumber.Chosen) (perPage : Nat) : Attempt String := do
  return s!"{← page.offset perPage},{← Numeral.write (Int.ofNat perPage)}"

/-- Executes the query of a page; the result is the number of its records. -/
def fetchPage (selection : Facade.Selection) (parameters : Value.Entries) (debug : Value) :
    Action (Facade σ) Int := do
  let _ ← Facade.select { selection with parameters := .map parameters } debug
  Facade.onBuilder Builder.numRows

/-- What developers are told of a page: its number, how many pages there are, and how many records
it has of how many. -/
def pageDetail (page : PageNumber.Chosen) (figures : Figures) : Attempt String := do
  return s!"Page {← page.shown.write Value.display}/{← Numeral.write figures.pages}: "
    ++ s!"{← Numeral.write figures.fetched} of {← Numeral.write figures.total} records"

/-- Counts the matching records and fetches the page that is asked for. The figures stay when only
the last line about them cannot be written. -/
def select (selection : Facade.Selection) (debug requested : Value) : Action (Pager σ) Unit := do
  modify fun pager => { pager with figures := {}, shownPage := .int 1 }
  let parameters ← Action.ofAttempt (Builder.settingEntries selection.parameters)
  let total ← count selection parameters debug
  let pager ← get
  let pages ← Action.ofAttempt (pageCount total pager.perPage)
  let page ← Action.ofAttempt (PageNumber.choose pager.forcedPage requested pages)
  let limit ← Action.ofAttempt (pageLimit page pager.perPage)
  let limited := Entries.insert (.text "limit") (.text limit) parameters
  let fetched ← relabelled .pageFailed (onFacade (fetchPage selection limited debug))
  let figures : Figures := ⟨total, pages, page.number, fetched⟩
  modify fun pager => { pager with figures, shownPage := page.shown }
  let _ ← Action.ofAttempt (pageDetail page figures)

/-! ## Links -/

def links (pager : Pager σ) (url : String) : Attempt String :=
  PageLinks.render pager.options pager.figures (Int.ofNat pager.perPage) url

/-- The page links for a value, which must be a text unless there are no records. -/
def linksFor (pager : Pager σ) (url : Value) : Attempt String :=
  match url with
  | .text url => pager.links url
  | _ => if pager.figures.total = 0 then .ok "" else .error .wrongKind

end Pager

end SqlToolkit
