import SqlToolkit.Proofs.Dialect.Deletion

/-!
# The rows that a DELETE statement deletes

What a DELETE statement means is fixed by the rows of its tables and by the truth of its conditions.
A condition is true, false or unknown for the rows that the names of the tables stand for, and only
a condition that is true selects a row. A join puts the rows of two tables together; an outer join
also keeps rows without a partner, with NULL in every column of the other table.
-/

namespace SqlToolkit

open SqlToolkit.Text SqlToolkit.Condition SqlToolkit.SearchCondition

/-- What a row has in each column; NULL is no value. -/
abbrev Row (V : Type) := String → Option V

abbrev Database (V : Type) := String → List (Row V)

/-- The rows that the names of tables stand for. -/
abbrev Scope (V : Type) := String → Row V

variable {V : Type}

def nullRow : Row V := fun _ => none

namespace Scope

def single (table : String) (row : Row V) : Scope V :=
  fun name => if name = table then row else nullRow

def pair (left : String) (row : Row V) (right : String) (other : Row V) : Scope V :=
  fun name => if name = left then row else if name = right then other else nullRow

theorem pair_left (left : String) (row : Row V) (right : String) (other : Row V) :
    pair left row right other left = row := if_pos rfl

theorem pair_right {left right : String} (h : left ≠ right) (row other : Row V) :
    pair left row right other right = other := by
  rw [pair, if_neg (Ne.symm h), if_pos rfl]

/-- Without the right table, the left row is all that there is. -/
theorem pair_eq_single {left right name : String} (h : name ≠ right) (row other : Row V) :
    pair left row right other name = single left row name := by
  rw [pair, single, if_neg h]

end Scope

/-- A row of a join: rows that match, or one row without a match where the join keeps it. -/
inductive JoinRow (lefts rights : List (Row V)) (on : Row V → Row V → Prop) :
    JoinKind → Option (Row V) → Option (Row V) → Prop
  | matched {kind : JoinKind} {left right : Row V} (hleft : left ∈ lefts) (hright : right ∈ rights)
      (h : on left right) : JoinRow lefts rights on kind (some left) (some right)
  | leftOnly {left : Row V} (hleft : left ∈ lefts) (h : ∀ right ∈ rights, ¬ on left right) :
      JoinRow lefts rights on .left (some left) none
  | rightOnly {right : Row V} (hright : right ∈ rights) (h : ∀ left ∈ lefts, ¬ on left right) :
      JoinRow lefts rights on .right none (some right)

/-- How a database reads conditions: where atoms end, and when they are true. -/
structure Reader (V : Type) where
  atoms : Atoms
  meaning : List Char → Scope V → Truth

/-- The condition is true for the rows. -/
def Reader.Holds (reader : Reader V) (condition : String) (scope : Scope V) : Prop :=
  ∃ tree, ReadsAs reader.atoms condition tree ∧
    tree.truth (fun atom => reader.meaning atom scope) = .yes

theorem Reader.holds_iff {reader : Reader V} {condition : String} {tree : Tree}
    (h : ReadsAs reader.atoms condition tree) (scope : Scope V) :
    reader.Holds condition scope ↔ tree.truth (fun atom => reader.meaning atom scope) = .yes := by
  constructor
  · rintro ⟨other, hother, htrue⟩
    rwa [Reads.unique h hother]
  · intro htrue
    exact ⟨tree, h, htrue⟩

namespace Deletion

def target : Deletion → String
  | .plain target _ | .whereExists target _ _ | .usingPartner target _ _ | .multiTable target _ _ =>
    target

def conditions : Deletion → List String
  | .plain _ condition => condition.toList
  | .whereExists _ _ condition | .usingPartner _ _ condition => [condition]
  | .multiTable _ join condition => join.condition :: condition.toList

def Deletes (reader : Reader V) (db : Database V) : Deletion → Row V → Prop
  | .plain target condition, row =>
    row ∈ db target ∧ ∀ text ∈ condition, reader.Holds text (.single target row)
  | .whereExists target partner condition, row | .usingPartner target partner condition, row =>
    row ∈ db target ∧ ∃ other ∈ db partner, reader.Holds condition (.pair target row partner other)
  | .multiTable target join condition, row =>
    ∃ left right,
      JoinRow (db join.leftTable) (db join.rightTable)
        (fun left right =>
          reader.Holds join.condition (.pair join.leftTable left join.rightTable right))
        join.kind left right ∧
      (∀ text ∈ condition, reader.Holds text
        (.pair join.leftTable (left.getD nullRow) join.rightTable (right.getD nullRow))) ∧
      (target = join.leftTable ∧ left = some row ∨ target = join.rightTable ∧ right = some row)

end Deletion

end SqlToolkit
