import SqlToolkit.Value.Printing

/-!
# The order of values

Numbers are ordered by size, byte strings and dates from left to right, and tuples by the first
place where they differ. Values of different kinds have no order.

What is no number at all comes neither before a number nor after it, so the values of one kind need
not have one increasing order. Their order is then the one that insertion by halving gives.
-/

namespace SqlToolkit

def numbersBefore : List Nat → List Nat → Bool
  | [], other => !other.isEmpty
  | _ :: _, [] => false
  | a :: as, b :: bs => a < b || (a == b && numbersBefore as bs)

def ClockTime.numbers (time : ClockTime) : List Nat :=
  [time.hour, time.minute, time.second, time.microsecond]

namespace Value

mutual

/-- Whether a value comes before another; `none` if they have no order. -/
def before? : Value → Value → Option Bool
  | .text a, .text b => some (numbersBefore (a.toList.map Char.toNat) (b.toList.map Char.toNat))
  | .bytes a, .bytes b => some (numbersBefore (a.map UInt8.toNat) (b.map UInt8.toNat))
  | .date a, .date b => some (numbersBefore a.parts b.parts)
  | .datetime a s, .datetime b t =>
    some (numbersBefore (a.parts ++ s.numbers) (b.parts ++ t.numbers))
  | .tuple a, .tuple b => itemsBefore? a b
  | a, b =>
    match a.number?, b.number? with
    | some x, some y => some (x.lt y)
    | _, _ => none

def itemsBefore? : List Value → List Value → Option Bool
  | [], other => some !other.isEmpty
  | _ :: _, [] => some false
  | a :: as, b :: bs => if sameKey a b then itemsBefore? as bs else before? a b

end

end Value

namespace Insertion

variable {α : Type}

/-- The length of the run at the front of a list that goes on after `previous` as long as an item
comes before the one in front of it, or as long as none does. -/
def runLength? (before? : α → α → Option Bool) (falling : Bool) (previous : α) :
    List α → Option Nat
  | [] => some 0
  | item :: rest => do
    if (← before? item previous) == falling then
      return (← runLength? before? falling item rest) + 1
    else return 0

/-- The longest run at the front of a list that is in order already, or in reverse order and then
turned round, and the items after it. -/
def firstRun? (before? : α → α → Option Bool) : List α → Option (List α × List α)
  | first :: second :: rest => do
    let falling ← before? second first
    let length := (← runLength? before? falling second rest) + 2
    let items := first :: second :: rest
    let run := items.take length
    return (if falling then run.reverse else run, items.drop length)
  | items => some (items, [])

/-- The place of an item among the ordered ones from `low` to `high`: behind those it does not come
before. -/
def placeOf? (before? : α → α → Option Bool) (item : α) (sorted : Array α) (low high : Nat) :
    Option Nat :=
  if _h : low < high then
    let middle := low + (high - low) / 2
    match sorted[middle]? with
    | none => some low
    | some other => do
      if ← before? item other then placeOf? before? item sorted low middle
      else placeOf? before? item sorted (middle + 1) high
  else some low
termination_by high - low

def insert? (before? : α → α → Option Bool) (sorted : List α) (item : α) : Option (List α) := do
  let place ← placeOf? before? item sorted.toArray 0 sorted.length
  return sorted.take place ++ item :: sorted.drop place

/-- The items in increasing order; `none` if two of those that are compared have no order. -/
def sort? (before? : α → α → Option Bool) (items : List α) : Option (List α) := do
  let (run, rest) ← firstRun? before? items
  rest.foldlM (insert? before?) run

end Insertion

end SqlToolkit
