import SqlToolkit.Proofs.Statement.Interpolation
import SqlToolkit.Proofs.Statement.QuestionMarks
import SqlToolkit.Proofs.Value.Order

/-!
# Interpolation against simultaneous substitution

A statement with its values is shown with each marker replaced by its literal, all at once, if and
only if all values can be written and no literal is gone through again with success: no later pass
finds its marker in the literal of a name, and no literal has a question mark when another value
comes. The literal of a text is the text between quotes, so a text with a marker in it is where the
two differ.
-/

namespace SqlToolkit.Interpolation

open SqlToolkit.Text

/-- A statement: text, and then markers with the text behind each. -/
structure Template where
  lead : List Char
  segments : Segments
  markless : Markless lead
  proper : segments.IsProper

def Template.sql (template : Template) : String :=
  String.ofList (template.lead ++ template.segments.source)

/-- The statement with the literal of its value in the place of each marker. -/
def Template.shown (template : Template) (named : List Char → Value) (next : Nat → Value) :
    String :=
  String.ofList (template.lead ++ template.segments.filled (fun name => (named name).literal.toList)
    (fun position => (next position).literal.toList) 0)

def position (entry : Value × Value) : Int :=
  match entry.1 with
  | .int number => number
  | _ => 0

/-- The values of a map are under names and under positions from one on, one value for each. -/
structure IsPlaceholders (placeholders : Value.Entries) : Prop where
  key : ∀ entry ∈ placeholders, (∃ key, entry.1 = .text key ∧ IsRun isWord (bareName key)) ∨
    ∃ number : Int, entry.1 = .int number ∧ 0 < number
  distinctNames : (placeholders.filterMap fun entry => entry.1.text?.map bareName).Nodup
  distinctPositions : ((positionalEntries placeholders).map position).Nodup
  value : ∀ entry ∈ placeholders, entry.2.IsPlain

/-- A map has the value of each marker. -/
structure Supplies (placeholders : Value.Entries) (named : List Char → Value) (next : Nat → Value)
    (segments : Segments) : Prop where
  named : ∀ name ∈ segments.markerNames, ∃ key, bareName key = name ∧
    (.text key, named name) ∈ placeholders
  next : ∀ index < segments.nextCount, (.int (index + 1), next (index + 1)) ∈ placeholders

variable {placeholders : Value.Entries} {entries : List (String × Value)} {key : String}
  {value : Value} {named : List Char → Value} {next : Nat → Value} {segments : Segments}

/-! ## The passes of a map -/

theorem mem_namedEntries :
    (key, value) ∈ namedEntries placeholders ↔ (.text key, value) ∈ placeholders :=
  List.mem_mergeSort.trans mem_textEntries

theorem IsPlaceholders.areProper (h : IsPlaceholders placeholders) :
    AreProper (namedEntries placeholders) where
  name entry hentry := by
    obtain ⟨key, hkey, hrun⟩ | ⟨number, hkey, -⟩ := h.key _ (mem_namedEntries.mp hentry)
    · cases hkey
      exact hrun
    · cases hkey
  literal entry hentry := Value.isLiteral_literal (h.value _ (mem_namedEntries.mp hentry))

theorem IsPlaceholders.nodup_names (h : IsPlaceholders placeholders) :
    (names (namedEntries placeholders)).Nodup := by
  refine (((List.mergeSort_perm _ _).map _).nodup_iff).mpr ?_
  rw [textEntries, List.map_filterMap]
  simpa [Function.comp_def] using h.distinctNames

/-- With one value for each name, the first pass for a name puts in its value. -/
theorem literalOf_of_mem (hnodup : (names entries).Nodup) (h : (key, value) ∈ entries) :
    literalOf entries (bareName key) = value.literal.toList := by
  obtain ⟨before, behind, rfl⟩ := List.append_of_mem h
  refine literalOf_pass fun hmem => ?_
  rw [names, List.map_append, List.map_cons] at hnodup
  exact (List.nodup_append.mp hnodup).2.2 _ hmem _ List.mem_cons_self rfl

theorem Supplies.literalOf (h : Supplies placeholders named next segments)
    (hplaceholders : IsPlaceholders placeholders) {name : List Char}
    (hname : name ∈ segments.markerNames) :
    literalOf (namedEntries placeholders) name = (named name).literal.toList := by
  obtain ⟨key, rfl, hentry⟩ := h.named name hname
  exact literalOf_of_mem hplaceholders.nodup_names (mem_namedEntries.mpr hentry)

theorem Supplies.mem_names (h : Supplies placeholders named next segments) {name : List Char}
    (hname : name ∈ segments.markerNames) : name ∈ names (namedEntries placeholders) := by
  obtain ⟨key, rfl, hentry⟩ := h.named name hname
  exact List.mem_map.mpr ⟨_, mem_namedEntries.mpr hentry, rfl⟩

/-! ## The values of a map -/

theorem IsPlaceholders.int (h : IsPlaceholders placeholders) {entry : Value × Value}
    (hentry : entry ∈ positionalEntries placeholders) :
    entry.1 = .int (position entry) ∧ 0 < position entry := by
  obtain ⟨hmem, hkey⟩ := List.mem_filter.mp hentry
  obtain ⟨key, heq, -⟩ | ⟨number, heq, hpos⟩ := h.key entry hmem
  · rw [heq] at hkey
    cases hkey
  · have hposition : position entry = number := by rw [position, heq]
    rw [hposition]
    exact ⟨heq, hpos⟩

/-- The values with a position in order; the first ones are those for the question marks. -/
theorem orderedValues?_spec (h : IsPlaceholders placeholders)
    (hsupplies : Supplies placeholders named next segments) :
    ∃ values, orderedValues? (positionalEntries placeholders) = some values ∧
      values.length = (positionalEntries placeholders).length ∧
      (∀ value ∈ values, value.IsPlain) ∧
      ∀ index < segments.nextCount, values[index]? = some (next (index + 1)) := by
  have hcompared : Insertion.ComparedBy (fun a b => Value.before? a.1 b.1) position
      (positionalEntries placeholders) := by
    intro a ha b hb
    show Value.before? a.1 b.1 = _
    rw [(h.int ha).1, (h.int hb).1, Value.before?_int]
  obtain ⟨sorted, hsort, hperm, hsorted⟩ := Insertion.sort?_spec hcompared
  have hdistinct : sorted.Pairwise fun a b => position a ≠ position b :=
    List.pairwise_map.mp ((hperm.map position).nodup_iff.mpr h.distinctPositions)
  have hincreasing : sorted.Pairwise fun a b => position a < position b :=
    (hsorted.and hdistinct).imp fun hboth => Int.lt_iff_le_and_ne.mpr hboth
  have hplaces := Insertion.getElem?_of_increasing hincreasing
    (fun entry hentry => (h.int (hperm.subset hentry)).2) (n := segments.nextCount)
    (f := fun index => (Value.int (index + 1), next (index + 1))) fun index hindex => by
      refine ⟨hperm.symm.subset (List.mem_filter.mpr ⟨hsupplies.next index hindex, rfl⟩), ?_⟩
      show ((index : Int) + 1) = 0 + index + 1
      rw [Int.zero_add]
  refine ⟨sorted.map (·.2), by rw [orderedValues?, hsort, Option.map_some], ?_, ?_, ?_⟩
  · rw [List.length_map, hperm.length_eq]
  · intro value hvalue
    obtain ⟨entry, hentry, rfl⟩ := List.mem_map.mp hvalue
    exact h.value entry (List.mem_filter.mp (hperm.subset hentry)).1
  · intro index hindex
    rw [List.getElem?_map, hplaces index hindex, Option.map_some]

/-! ## Literals by their markers -/

namespace Segments

variable {first second : List Char → List Char} {literals : Nat → List Char}

theorem filled_congr (h : ∀ name ∈ segments.markerNames, first name = second name) (used : Nat) :
    filled first literals used segments = filled second literals used segments := by
  induction segments generalizing used with
  | nil => rfl
  | cons segment rest ih =>
    match segment with
    | (.named name, text) =>
      obtain ⟨hname, hrest⟩ := List.forall_mem_cons.mp h
      rw [filled, filled, hname, ih hrest]
    | (.next, text) => rw [filled, filled, ih h]

theorem clearOf_congr (h : ∀ name ∈ segments.markerNames, first name = second name) {count : Nat}
    (used : Nat) :
    ClearOf count first literals used segments ↔ ClearOf count second literals used segments := by
  induction segments generalizing used with
  | nil => exact Iff.rfl
  | cons segment rest ih =>
    match segment with
    | (.named name, text) =>
      obtain ⟨hname, hrest⟩ := List.forall_mem_cons.mp h
      rw [ClearOf, ClearOf, hname, ih hrest]
    | (.next, text) => rw [ClearOf, ClearOf, ih h]

end Segments

/-! ## All markers at once -/

/-- No later pass finds its marker in the literal of a name, and no literal has a question mark when
another value comes. -/
structure Template.IsStable (template : Template) (placeholders : Value.Entries)
    (named : List Char → Value) (next : Nat → Value) : Prop where
  untouched : ∀ name ∈ template.segments.markerNames,
    ∀ later ∈ laterThan name (namedEntries placeholders),
      Nowhere (dropMarker? (bareName later.1)) (named name).literal.toList
  clear : template.segments.ClearOf (positionalEntries placeholders).length
    (fun name => (named name).literal.toList) (fun position => (next position).literal.toList) 0

theorem interpolate_sql (template : Template) (hentries : AreProper (namedEntries placeholders))
    {values : List Value}
    (hvalues : orderedValues? (positionalEntries placeholders) = some values)
    (hwritable : Writable placeholders) :
    interpolate template.sql placeholders = .ok (String.ofList (template.lead ++
      fillTexts (fillNamed template.segments.source (namedEntries placeholders))
        (values.map (·.literal.toList)))) := by
  rw [interpolate_of_writable _ hvalues hwritable, Template.sql, String.toList_ofList,
    fillNamed_append_of_not_mem hentries template.markless.colon, fillPositional_eq_fillTexts,
    fillTexts_append_of_not_mem template.markless.question]

section

variable {template : Template} (hplaceholders : IsPlaceholders placeholders)
  (hsupplies : Supplies placeholders named next template.segments)
  (hapart : template.segments.Apart (namedEntries placeholders))

include hplaceholders hsupplies hapart

theorem interpolate_eq_shown_of_writable (hwritable : Writable placeholders) :
    interpolate template.sql placeholders = .ok (template.shown named next) ↔
      template.IsStable placeholders named next := by
  obtain ⟨values, hvalues, hlength, hplain, hnext⟩ := orderedValues?_spec hplaceholders hsupplies
  have hentries := hplaceholders.areProper
  have hliteral (name) (hname : name ∈ template.segments.markerNames) :=
    hsupplies.literalOf hplaceholders hname
  have hnamed (name) (hname : name ∈ template.segments.markerNames) :=
    hsupplies.mem_names hname
  have hliterals : ∀ literal ∈ values.map (·.literal.toList), IsLiteral literal := by
    intro literal hmem
    obtain ⟨value, hvalue, rfl⟩ := List.mem_map.mp hmem
    exact Value.isLiteral_literal (hplain value hvalue)
  have hcontinues : Segments.Continues (fun position => (next position).literal.toList) 0
      (values.map (·.literal.toList)) template.segments := by
    intro index hindex
    rw [List.getElem?_map, hnext index hindex, Option.map_some, Nat.zero_add]
  have hmain := Segments.fillTexts_fillNamed_iff hentries template.proper hapart hnamed hliterals
    hcontinues
  rw [Segments.filled_congr hliteral, Segments.clearOf_congr hliteral, List.length_map, hlength]
    at hmain
  rw [interpolate_sql template hentries hvalues hwritable, Template.shown, Except.ok.injEq,
    String.ofList_inj, List.append_cancel_left_eq, hmain]
  constructor
  · intro h
    exact ⟨fun name hname => hliteral name hname ▸ h.1 name hname, h.2⟩
  · intro h
    refine ⟨fun name hname => ?_, h.clear⟩
    rw [Untouched, hliteral name hname]
    exact h.untouched name hname

/-- A statement is shown with the literal of its value in the place of each marker, and nothing
else, if and only if the values can be written and no literal is changed once it is there. -/
theorem interpolate_eq_shown_iff :
    interpolate template.sql placeholders = .ok (template.shown named next) ↔
      Writable placeholders ∧ template.IsStable placeholders named next := by
  have hwhen := interpolate_eq_shown_of_writable hplaceholders hsupplies hapart
  constructor
  · intro h
    have hwritable := writable_of_interpolate h
    exact ⟨hwritable, (hwhen hwritable).mp h⟩
  · rintro ⟨hwritable, hstable⟩
    exact (hwhen hwritable).mpr hstable

end

def rowTemplate : Template where
  lead := "VALUES (".toList
  segments := [(.named ['a'], [',', ' ']), (.named ['b', 'b'], [',', ' ']), (.next, [')'])]
  markless := by decide
  proper := {
    text := by decide
    name := by
      intro name text hmem
      simp only [List.mem_cons, List.not_mem_nil, or_false, Prod.mk.injEq, Mark.named.injEq,
        reduceCtorEq, false_and] at hmem
      rcases hmem with ⟨rfl, rfl⟩ | ⟨rfl, rfl⟩
      · exact ⟨.of_all (by decide) (by decide), by decide⟩
      · exact ⟨.of_all (by decide) (by decide), by decide⟩ }

def rowPlaceholders : Value.Entries :=
  [(.text "a", .text "it's"), (.text "bb", .int 5), (.int 1, .text "what?")]

def rowNamed : List Char → Value
  | [_] => .text "it's"
  | _ => .int 5

theorem isPlaceholders_row : IsPlaceholders rowPlaceholders where
  key := by
    unfold rowPlaceholders
    simp only [List.forall_mem_cons, List.not_mem_nil, false_implies, implies_true, and_true]
    exact ⟨.inl ⟨"a", rfl, .of_all (by decide) (by decide)⟩,
      .inl ⟨"bb", rfl, .of_all (by decide) (by decide)⟩, .inr ⟨1, rfl, by decide⟩⟩
  distinctNames := by decide
  distinctPositions := by decide
  value := by
    unfold rowPlaceholders
    simp only [List.forall_mem_cons, List.not_mem_nil, false_implies, implies_true, and_true]
    exact ⟨.text _, .int _, .text _⟩

theorem markerNames_row : rowTemplate.segments.markerNames = [['a'], ['b', 'b']] := rfl

theorem supplies_row :
    Supplies rowPlaceholders rowNamed (fun _ => .text "what?") rowTemplate.segments where
  named := by
    rw [markerNames_row]
    simp only [List.forall_mem_cons, List.not_mem_nil, false_implies, implies_true, and_true]
    exact ⟨⟨"a", by decide, .head _⟩, ⟨"bb", by decide, .tail _ (.head _)⟩⟩
  next index hindex := by
    obtain rfl : index = 0 := Nat.lt_one_iff.mp hindex
    exact .tail _ (.tail _ (.head _))

theorem writable_row : Writable rowPlaceholders := by
  unfold Writable rowPlaceholders
  simp only [List.forall_mem_cons, List.not_mem_nil, false_implies, implies_true, and_true]
  exact ⟨rfl, by decide +kernel, rfl⟩

theorem isStable_row : rowTemplate.IsStable rowPlaceholders rowNamed fun _ => .text "what?" where
  untouched := by
    rw [markerNames_row]
    simp only [List.forall_mem_cons, List.not_mem_nil, false_implies, implies_true, and_true]
    exact ⟨fun _ _ => nowhere_dropMarker? (by decide), fun _ _ => nowhere_dropMarker? (by decide)⟩
  clear := ⟨fun _ => by decide, fun _ => by decide, fun h => absurd h (by decide), trivial⟩

/-- A quote in the value of a name and a question mark in the last value change nothing. -/
theorem interpolate_row :
    interpolate "VALUES (:a, :bb, ?)" rowPlaceholders = .ok "VALUES ('it''s', 5, 'what?')" :=
  (interpolate_eq_shown_iff isPlaceholders_row supplies_row
    (Segments.apart_of_text (by decide))).mpr ⟨writable_row, isStable_row⟩

/-- A marker in a text is replaced too when its pass comes behind the one that puts the text in. -/
theorem interpolate_marker_in_text :
    interpolate "SELECT :a, :b" [(.text "a", .text ":b"), (.text "b", .int 1)] =
      .ok "SELECT '1', 1" := by
  have hnamed : namedEntries [(.text "a", .text ":b"), (.text "b", .int 1)] =
      [("a", .text ":b"), ("b", .int 1)] := List.mergeSort_of_pairwise (by decide)
  have hwritable : Writable [(.text "a", .text ":b"), (.text "b", .int 1)] := by
    unfold Writable
    simp only [List.forall_mem_cons, List.not_mem_nil, false_implies, implies_true, and_true]
    exact ⟨rfl, by decide +kernel⟩
  rw [interpolate_of_writable _ rfl hwritable, hnamed]
  rfl

end SqlToolkit.Interpolation
