import SqlToolkit.Proofs.SearchCondition.Tree

/-!
# Conditions with AND between them

Two conditions that are written with `AND` between them are spliced: the last term of the one and
the first term of the other become a single term, and an `OR` before or after them stays outside of
it. So the result is true wherever all of the conditions are, but not only there: it is their
conjunction when no `OR` stands outside parentheses or nothing is spliced, and, as long as no atom
occurs twice, in no other case.
-/

namespace SqlToolkit.SearchCondition

def Term.append : Term → Term → Term
  | .one factor, other => .and factor other
  | .and factor rest, other => .and factor (rest.append other)

def Tree.prepend (term : Term) : Tree → Tree
  | .one first => .one (term.append first)
  | .or first rest => .or (term.append first) rest

/-- The last term of the one and the first term of the other are joined. -/
def Tree.splice : Tree → Tree → Tree
  | .one term, other => other.prepend term
  | .or term rest, other => .or term (rest.splice other)

def Tree.spliceAll (first : Tree) : List Tree → Tree
  | [] => first
  | next :: more => first.splice (next.spliceAll more)

/-- Whether no `OR` stands outside parentheses. -/
def Tree.isTerm : Tree → Bool
  | .one _ => true
  | .or _ _ => false

theorem Term.spelled_append (t u : Term) :
    (t.append u).spelled = t.spelled ++ .and :: u.spelled := by
  cases t with
  | one factor => rfl
  | and factor rest =>
    rw [Term.append, Term.spelled, Term.spelled, Term.spelled_append rest u, List.append_assoc,
      List.cons_append]

theorem Tree.spelled_prepend (t : Term) (x : Tree) :
    (x.prepend t).spelled = t.spelled ++ .and :: x.spelled := by
  cases x with
  | one first => exact Term.spelled_append t first
  | or first rest =>
    rw [Tree.prepend, Tree.spelled, Tree.spelled, Term.spelled_append, List.append_assoc,
      List.cons_append]

/-- Splicing is what `AND` between two conditions does. -/
theorem Tree.spelled_splice (x y : Tree) :
    (x.splice y).spelled = x.spelled ++ .and :: y.spelled := by
  cases x with
  | one term => exact Tree.spelled_prepend term y
  | or term rest =>
    rw [Tree.splice, Tree.spelled, Tree.spelled, Tree.spelled_splice rest y, List.append_assoc,
      List.cons_append]

variable {value : List Char → Truth}

theorem Term.truth_append (t u : Term) :
    (t.append u).truth value = (t.truth value).and (u.truth value) := by
  cases t with
  | one factor => rfl
  | and factor rest =>
    rw [Term.append, Term.truth, Term.truth, Term.truth_append rest u, Truth.and_assoc]

/-- A condition without an `OR` is a further requirement on the first term only. -/
theorem Tree.and_le_truth_prepend (t : Term) (x : Tree) :
    (t.truth value).and (x.truth value) ≤ (x.prepend t).truth value := by
  cases x with
  | one first => exact Truth.le_of_eq (Term.truth_append t first).symm
  | or first rest =>
    rw [Tree.prepend, Tree.truth, Tree.truth, Term.truth_append]
    exact Truth.and_or_le

/-- What is written with `AND` is true where both conditions are. -/
theorem Tree.and_le_truth_splice (x y : Tree) :
    (x.truth value).and (y.truth value) ≤ (x.splice y).truth value := by
  cases x with
  | one term => exact Tree.and_le_truth_prepend term y
  | or term rest =>
    rw [Tree.splice, Tree.truth, Tree.truth]
    exact Truth.le_trans Truth.or_and_le (Truth.or_le_or_left (Tree.and_le_truth_splice rest y))

theorem Tree.all_le_truth_spliceAll (first : Tree) (more : List Tree) :
    Truth.all ((first :: more).map (Tree.truth value)) ≤ (first.spliceAll more).truth value := by
  induction more generalizing first with
  | nil => exact Truth.le_of_eq Truth.and_yes
  | cons next more ih =>
    exact Truth.le_trans (Truth.and_le_and_left (ih next)) (Tree.and_le_truth_splice first _)

theorem Tree.isTerm_splice {x y : Tree} :
    (x.splice y).isTerm = (x.isTerm && y.isTerm) := by
  cases x with
  | one term => cases y <;> rfl
  | or term rest => rfl

theorem Tree.truth_splice_of_isTerm {x y : Tree} (hx : x.isTerm = true) (hy : y.isTerm = true) :
    (x.splice y).truth value = (x.truth value).and (y.truth value) := by
  cases x with
  | or term rest => cases hx
  | one term =>
    cases y with
    | or first rest => cases hy
    | one first => exact Term.truth_append term first

theorem Tree.isTerm_spliceAll {first : Tree} {more : List Tree}
    (h : ∀ x ∈ first :: more, x.isTerm = true) : (first.spliceAll more).isTerm = true := by
  induction more generalizing first with
  | nil => exact h first List.mem_cons_self
  | cons next more ih =>
    have hrest := ih fun x hx => h x (List.mem_cons_of_mem first hx)
    rw [Tree.spliceAll, Tree.isTerm_splice, h first List.mem_cons_self, hrest]
    rfl

/-- Without an `OR` outside parentheses, `AND` is the conjunction. -/
theorem Tree.truth_spliceAll_of_isTerm {first : Tree} {more : List Tree}
    (h : ∀ x ∈ first :: more, x.isTerm = true) :
    (first.spliceAll more).truth value = Truth.all ((first :: more).map (Tree.truth value)) := by
  induction more generalizing first with
  | nil => exact Truth.and_yes.symm
  | cons next more ih =>
    have hmore : ∀ x ∈ next :: more, x.isTerm = true := fun x hx => h x (List.mem_cons_of_mem _ hx)
    rw [Tree.spliceAll, Tree.truth_splice_of_isTerm (h first List.mem_cons_self)
      (Tree.isTerm_spliceAll hmore), ih hmore]
    rfl

/-! ## Atoms that occur once -/

variable {other : List Char → Truth}

mutual

theorem Factor.truth_congr : ∀ {f : Factor},
    (∀ text ∈ f.atoms, value text = other text) → f.truth value = f.truth other
  | .atom text, h => h text List.mem_cons_self
  | .not f, h => congrArg Truth.not (Factor.truth_congr (f := f) h)
  | .group x, h => Tree.truth_congr (x := x) h

theorem Term.truth_congr : ∀ {t : Term},
    (∀ text ∈ t.atoms, value text = other text) → t.truth value = t.truth other
  | .one f, h => Factor.truth_congr (f := f) h
  | .and f t, h => by
    have hf := Factor.truth_congr fun text ht => h text (List.mem_append_left _ ht)
    have hr := Term.truth_congr fun text ht => h text (List.mem_append_right _ ht)
    rw [Term.truth, Term.truth, hf, hr]

theorem Tree.truth_congr : ∀ {x : Tree},
    (∀ text ∈ x.atoms, value text = other text) → x.truth value = x.truth other
  | .one t, h => Term.truth_congr (t := t) h
  | .or t x, h => by
    have ht := Term.truth_congr fun text hm => h text (List.mem_append_left _ hm)
    have hr := Tree.truth_congr fun text hm => h text (List.mem_append_right _ hm)
    rw [Tree.truth, Tree.truth, ht, hr]

end

/-- One assignment for the given atoms, and another one for all others. -/
def assign (atoms : List (List Char)) (value other : List Char → Truth) (text : List Char) :
    Truth :=
  if text ∈ atoms then value text else other text

theorem assign_of_mem {atoms : List (List Char)} {text : List Char} (h : text ∈ atoms) :
    assign atoms value other text = value text := if_pos h

theorem assign_of_disjoint {atoms others : List (List Char)}
    (apart : ∀ a ∈ atoms, ∀ b ∈ others, a ≠ b) {text : List Char} (h : text ∈ others) :
    assign atoms value other text = other text := if_neg fun hm => apart text hm text h rfl

mutual

/-- Where no atom occurs twice, a factor may have any truth value. -/
theorem Factor.exists_truth_eq : ∀ {f : Factor}, f.atoms.Nodup → ∀ truth : Truth,
    ∃ value, f.truth value = truth
  | .atom _, _, truth => ⟨fun _ => truth, rfl⟩
  | .not f, h, truth => by
    obtain ⟨value, hf⟩ := Factor.exists_truth_eq (f := f) h truth.not
    exact ⟨value, by rw [Factor.truth, hf, Truth.not_not]⟩
  | .group x, h, truth => Tree.exists_truth_eq (x := x) h truth

theorem Term.exists_truth_eq : ∀ {t : Term}, t.atoms.Nodup → ∀ truth : Truth,
    ∃ value, t.truth value = truth
  | .one f, h, truth => Factor.exists_truth_eq (f := f) h truth
  | .and f t, h, truth => by
    obtain ⟨hf, ht, apart⟩ := List.nodup_append.mp h
    obtain ⟨value, hvalue⟩ := Factor.exists_truth_eq hf truth
    obtain ⟨other, hother⟩ := Term.exists_truth_eq ht truth
    refine ⟨assign f.atoms value other, ?_⟩
    rw [Term.truth, Factor.truth_congr fun _ => assign_of_mem,
      Term.truth_congr fun _ => assign_of_disjoint apart, hvalue, hother, Truth.and_self]

theorem Tree.exists_truth_eq : ∀ {x : Tree}, x.atoms.Nodup → ∀ truth : Truth,
    ∃ value, x.truth value = truth
  | .one t, h, truth => Term.exists_truth_eq (t := t) h truth
  | .or t x, h, truth => by
    obtain ⟨ht, hx, apart⟩ := List.nodup_append.mp h
    obtain ⟨value, hvalue⟩ := Term.exists_truth_eq ht truth
    obtain ⟨other, hother⟩ := Tree.exists_truth_eq hx truth
    refine ⟨assign t.atoms value other, ?_⟩
    rw [Tree.truth, Term.truth_congr fun _ => assign_of_mem,
      Tree.truth_congr fun _ => assign_of_disjoint apart, hvalue, hother, Truth.or_self]

end

theorem Term.atoms_append (t u : Term) : (t.append u).atoms = t.atoms ++ u.atoms := by
  cases t with
  | one factor => rfl
  | and factor rest =>
    rw [Term.append, Term.atoms, Term.atoms, Term.atoms_append rest u, List.append_assoc]

theorem Tree.atoms_splice (x y : Tree) : (x.splice y).atoms = x.atoms ++ y.atoms := by
  cases x with
  | one term =>
    cases y with
    | one first => exact Term.atoms_append term first
    | or first rest =>
      rw [Tree.splice, Tree.prepend, Tree.atoms, Tree.atoms, Tree.atoms, Term.atoms_append,
        List.append_assoc]
  | or term rest =>
    rw [Tree.splice, Tree.atoms, Tree.atoms, Tree.atoms_splice rest y, List.append_assoc]

theorem Tree.atoms_spliceAll (first : Tree) (more : List Tree) :
    (first.spliceAll more).atoms = (first :: more).flatMap Tree.atoms := by
  induction more generalizing first with
  | nil => simp [Tree.spliceAll]
  | cons next more ih => rw [Tree.spliceAll, Tree.atoms_splice, ih, ← List.flatMap_cons]

theorem Tree.all_congr {trees : List Tree}
    (h : ∀ text ∈ trees.flatMap Tree.atoms, value text = other text) :
    Truth.all (trees.map (Tree.truth value)) = Truth.all (trees.map (Tree.truth other)) := by
  refine congrArg Truth.all (List.map_congr_left fun x hx => Tree.truth_congr fun text ht => ?_)
  exact h text (List.mem_flatMap.mpr ⟨x, hx, ht⟩)

/-- A term that is true asks for nothing. -/
theorem Tree.truth_prepend_of_yes {t : Term} (h : t.truth value = .yes) (x : Tree) :
    (x.prepend t).truth value = x.truth value := by
  cases x with
  | one first => rw [Tree.prepend, Tree.truth, Tree.truth, Term.truth_append, h, Truth.yes_and]
  | or first rest => rw [Tree.prepend, Tree.truth, Tree.truth, Term.truth_append, h, Truth.yes_and]

/-- A term and a condition without common atoms have any two truth values at once. -/
theorem exists_truths {t : Term} {x : Tree} (ht : t.atoms.Nodup) (hx : x.atoms.Nodup)
    (apart : ∀ a ∈ t.atoms, ∀ b ∈ x.atoms, a ≠ b) (first second : Truth) :
    ∃ value, t.truth value = first ∧ x.truth value = second := by
  obtain ⟨value, hvalue⟩ := Term.exists_truth_eq ht first
  obtain ⟨other, hother⟩ := Tree.exists_truth_eq hx second
  refine ⟨assign t.atoms value other, ?_, ?_⟩
  · rw [Term.truth_congr fun _ => assign_of_mem, hvalue]
  · rw [Tree.truth_congr fun _ => assign_of_disjoint apart, hother]

/-- The terms of the first condition before an `OR` let rows through that a later one refuses. -/
theorem Tree.exists_truth_ne_of_or_first {t : Term} {x next : Tree} (more : List Tree)
    (ht : t.atoms.Nodup) (hnext : next.atoms.Nodup)
    (apart : ∀ a ∈ t.atoms, ∀ b ∈ next.atoms, a ≠ b) :
    ∃ value, ((Tree.or t x).spliceAll (next :: more)).truth value ≠
      Truth.all ((Tree.or t x :: next :: more).map (Tree.truth value)) := by
  obtain ⟨value, hyes, hno⟩ := exists_truths ht hnext apart .yes .no
  have hwhole : ((Tree.or t x).spliceAll (next :: more)).truth value = .yes := by
    rw [Tree.spliceAll, Tree.splice, Tree.truth, hyes, Truth.yes_or]
  have hall : Truth.all ((Tree.or t x :: next :: more).map (Tree.truth value)) = .no := by
    simp only [List.map_cons, Truth.all, List.foldr_cons, hno, Truth.no_and, Truth.and_no]
  refine ⟨value, ?_⟩
  rw [hwhole, hall]
  decide

/-- The terms of the last condition after an `OR` let rows through that the one before refuses. -/
theorem Tree.exists_truth_ne_of_or_last {t u : Term} {x : Tree} (ht : t.atoms.Nodup)
    (hx : x.atoms.Nodup) (apart : ∀ a ∈ t.atoms, ∀ b ∈ x.atoms, a ≠ b) :
    ∃ value, ((Tree.one t).spliceAll [.or u x]).truth value ≠
      Truth.all ([.one t, .or u x].map (Tree.truth value)) := by
  obtain ⟨value, hno, hyes⟩ := exists_truths ht hx apart .no .yes
  have hwhole : ((Tree.one t).spliceAll [.or u x]).truth value = .yes := by
    rw [Tree.spliceAll, Tree.spliceAll, Tree.splice, Tree.prepend, Tree.truth, hyes, Truth.or_yes]
  have hall : Truth.all ([.one t, .or u x].map (Tree.truth value)) = .no := by
    simp only [List.map_cons, Truth.all, List.foldr_cons, Tree.truth, hno, Truth.no_and]
  refine ⟨value, ?_⟩
  rw [hwhole, hall]
  decide

/-- What lets a row through goes on to do so after a further term. -/
theorem Tree.exists_truth_ne_of_more {t : Term} {next : Tree} {more : List Tree}
    (ht : t.atoms.Nodup) (apart : ∀ a ∈ t.atoms, ∀ b ∈ (next :: more).flatMap Tree.atoms, a ≠ b)
    (h : ∃ value, (next.spliceAll more).truth value ≠
      Truth.all ((next :: more).map (Tree.truth value))) :
    ∃ value, ((Tree.one t).spliceAll (next :: more)).truth value ≠
      Truth.all ((.one t :: next :: more).map (Tree.truth value)) := by
  obtain ⟨other, hne⟩ := h
  obtain ⟨value, hvalue⟩ := Term.exists_truth_eq ht .yes
  refine ⟨assign t.atoms value other, ?_⟩
  have hyes : t.truth (assign t.atoms value other) = .yes := by
    rw [Term.truth_congr fun _ => assign_of_mem, hvalue]
  have hrest : ((next.spliceAll more).truth (assign t.atoms value other)) =
      (next.spliceAll more).truth other := by
    refine Tree.truth_congr fun text hm => assign_of_disjoint apart ?_
    rwa [Tree.atoms_spliceAll] at hm
  have hall : Truth.all ((next :: more).map (Tree.truth (assign t.atoms value other))) =
      Truth.all ((next :: more).map (Tree.truth other)) :=
    Tree.all_congr fun _ => assign_of_disjoint apart
  have hfirst : Truth.all ((.one t :: next :: more).map (Tree.truth (assign t.atoms value other))) =
      Truth.all ((next :: more).map (Tree.truth (assign t.atoms value other))) := by
    rw [List.map_cons, Truth.all, List.foldr_cons, Tree.truth, hyes, Truth.yes_and]
  rw [Tree.spliceAll, Tree.splice, Tree.truth_prepend_of_yes hyes, hrest, hfirst, hall]
  exact hne

/-- An `OR` outside parentheses lets a row through that a neighbour refuses. -/
theorem Tree.exists_truth_ne {first next : Tree} {more : List Tree}
    (distinct : ((first :: next :: more).flatMap Tree.atoms).Nodup)
    (h : ∃ x ∈ first :: next :: more, x.isTerm = false) :
    ∃ value, (first.spliceAll (next :: more)).truth value ≠
      Truth.all ((first :: next :: more).map (Tree.truth value)) := by
  induction more generalizing first next with
  | nil =>
    rw [List.flatMap_cons, List.flatMap_cons, List.flatMap_nil, List.append_nil] at distinct
    obtain ⟨hfirst, hnext, apart⟩ := List.nodup_append.mp distinct
    cases first with
    | or t x =>
      obtain ⟨ht, -, -⟩ := List.nodup_append.mp hfirst
      exact Tree.exists_truth_ne_of_or_first [] ht hnext fun a ha =>
        apart a (List.mem_append_left _ ha)
    | one t =>
      cases next with
      | one u => simp [Tree.isTerm] at h
      | or u x =>
        obtain ⟨-, hx, -⟩ := List.nodup_append.mp hnext
        exact Tree.exists_truth_ne_of_or_last hfirst hx fun a ha b hb =>
          apart a ha b (List.mem_append_right _ hb)
  | cons last more ih =>
    rw [List.flatMap_cons] at distinct
    obtain ⟨hfirst, hrest, apart⟩ := List.nodup_append.mp distinct
    cases first with
    | or t x =>
      obtain ⟨ht, -, -⟩ := List.nodup_append.mp hfirst
      obtain ⟨hnext, -, -⟩ := List.nodup_append.mp (List.flatMap_cons ▸ hrest)
      exact Tree.exists_truth_ne_of_or_first (last :: more) ht hnext fun a ha b hb =>
        apart a (List.mem_append_left _ ha) b
          (List.mem_flatMap.mpr ⟨next, List.mem_cons_self, hb⟩)
    | one t =>
      obtain ⟨x, hx, hor⟩ := h
      have hlater : x ∈ next :: last :: more := by
        rcases List.mem_cons.mp hx with rfl | hx
        · cases hor
        · exact hx
      exact Tree.exists_truth_ne_of_more hfirst apart (ih hrest ⟨x, hlater, hor⟩)

end SqlToolkit.SearchCondition
