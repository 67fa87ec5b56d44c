import SqlToolkit.Fault
import SqlToolkit.Number.Decimal
import SqlToolkit.Number.Numeral

/-!
# Page numbers

The number of the page that a request asks for: whatever is not a whole number asks for page 1. A
page that is forced instead must be a number, and a forced number that is not whole has no place
among the pages.
-/

namespace SqlToolkit.PageNumber

open SqlToolkit.Text

def parse : Value → Int
  | .bool _ | .null => 1
  | .int page => page
  | value => (Numeral.parse? (trim value.display)).getD 1

/-- The nearest page that exists; page 1 exists always. -/
def clamp (page pages : Int) : Int := max (if page > pages then pages else page) 1

theorem one_le_clamp (page pages : Int) : 1 ≤ clamp page pages := Int.le_max_right _ _

theorem clamp_le (page pages : Int) : clamp page pages ≤ max 1 pages := by
  unfold clamp
  split <;> omega

/-- A page that exists is kept. -/
theorem clamp_eq_self {page pages : Int} (low : 1 ≤ page) (high : page ≤ pages) :
    clamp page pages = page := by
  unfold clamp
  split <;> omega

/-! ## Forced pages -/

inductive Chosen where
  | whole (page : Int)
  /-- Page 1, forced by the truth value `true` and shown as that. -/
  | truth
  /-- A number among the pages that is not whole. -/
  | broken (number : Binary64)

def ofFloat (number : Binary64) (pages : Int) : Chosen :=
  if (Binary64.ofInt pages).lt number then .whole (clamp pages pages)
  else if number.lt (Binary64.ofInt 1) then .whole 1
  else .broken number

/-- The page to show: the forced one, unless it is null and the requested one counts. -/
def choose (forced requested : Value) (pages : Int) : Attempt Chosen :=
  match forced with
  | .null => .ok (.whole (clamp (parse requested) pages))
  | .int page => .ok (.whole (clamp page pages))
  | .bool forced =>
    if forced && 1 ≤ pages then .ok .truth else .ok (.whole (clamp (if forced then 1 else 0) pages))
  | .float spelling => .ok (ofFloat (.ofText spelling) pages)
  | _ => .error .wrongKind

def Chosen.number : Chosen → Int
  | .whole page => page
  | .truth | .broken _ => 1

def Chosen.shown : Chosen → Value
  | .whole page => .int page
  | .truth => .bool true
  | .broken number => .float number.text

/-- How many records come before a chosen page, as text. -/
def Chosen.offset (page : Chosen) (perPage : Nat) : Attempt String :=
  match page with
  | .broken number =>
    if (Binary64.ofInt? (Int.ofNat perPage)).isNone then .error .overflow
    else .ok ((number.sub (.ofInt 1)).times perPage).text
  | page => Numeral.write ((page.number - 1) * Int.ofNat perPage)

end SqlToolkit.PageNumber
