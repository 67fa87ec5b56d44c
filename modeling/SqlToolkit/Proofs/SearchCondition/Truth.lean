/-!
# The three truth values

A comparison with NULL is neither true nor false. `AND` is the lesser and `OR` the greater of two
truth values, where the unknown stands between the others.
-/

namespace SqlToolkit.SearchCondition

inductive Truth where
  | no
  | unknown
  | yes
  deriving Repr, DecidableEq

namespace Truth

def and : Truth → Truth → Truth
  | .no, _ => .no
  | .yes, b => b
  | .unknown, .no => .no
  | .unknown, _ => .unknown

def or : Truth → Truth → Truth
  | .yes, _ => .yes
  | .no, b => b
  | .unknown, .yes => .yes
  | .unknown, _ => .unknown

def not : Truth → Truth
  | .no => .yes
  | .unknown => .unknown
  | .yes => .no

def all : List Truth → Truth := List.foldr and yes

/-- At most as true. -/
instance : LE Truth := ⟨fun a b => a.and b = a⟩

instance (a b : Truth) : Decidable (a ≤ b) := inferInstanceAs (Decidable (a.and b = a))

variable {a b c : Truth}

@[simp] theorem and_yes : a.and .yes = a := by cases a <;> rfl

@[simp] theorem yes_and : Truth.yes.and a = a := rfl

@[simp] theorem and_no : a.and .no = .no := by cases a <;> rfl

@[simp] theorem no_and : Truth.no.and a = .no := rfl

@[simp] theorem or_yes : a.or .yes = .yes := by cases a <;> rfl

@[simp] theorem yes_or : Truth.yes.or a = .yes := rfl

@[simp] theorem and_self : a.and a = a := by cases a <;> rfl

@[simp] theorem or_self : a.or a = a := by cases a <;> rfl

@[simp] theorem not_not : a.not.not = a := by cases a <;> rfl

theorem and_assoc : (a.and b).and c = a.and (b.and c) := by
  cases a <;> cases b <;> cases c <;> rfl

theorem and_eq_yes : a.and b = .yes ↔ a = .yes ∧ b = .yes := by cases a <;> cases b <;> decide

theorem le_refl (a : Truth) : a ≤ a := and_self

theorem le_of_eq (h : a = b) : a ≤ b := h ▸ le_refl a

theorem le_trans (hab : a ≤ b) (hbc : b ≤ c) : a ≤ c := by
  change a.and c = a
  rw [← show a.and b = a from hab, and_assoc, show b.and c = b from hbc]

theorem or_le_or_left (h : b ≤ c) : a.or b ≤ a.or c := by
  revert h
  cases a <;> cases b <;> cases c <;> decide

theorem and_le_and_left (h : b ≤ c) : a.and b ≤ a.and c := by
  revert h
  cases a <;> cases b <;> cases c <;> decide

/-- Of a disjunction, a conjunction may take in the first part only. -/
theorem and_or_le : a.and (b.or c) ≤ (a.and b).or c := by cases a <;> cases b <;> cases c <;> decide

theorem or_and_le : (a.or b).and c ≤ a.or (b.and c) := by cases a <;> cases b <;> cases c <;> decide

end Truth

end SqlToolkit.SearchCondition
