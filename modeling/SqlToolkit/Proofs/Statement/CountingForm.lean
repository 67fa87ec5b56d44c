import SqlToolkit.Proofs.Statement.Selecting
import SqlToolkit.Statement.CountProbe

/-!
# The counting form of a SELECT

A SELECT of one item is cut at its own `FROM`, and what is counted has the same source, except that
the last ORDER BY of the source is left out and the blanks at its ends. So the counting form is
again a query that can be read, and its rows are those of the SELECT wherever what was left out is
only an order. A count of a column leaves out NULL whether it is of distinct values or not.
-/

namespace SqlToolkit

open SqlToolkit.Text

namespace Statement

/-! ## Leaving out the order -/

/-- A source as it is counted: without its last ORDER BY, and without blanks at its ends. -/
def unordered (source : String) : String :=
  .ofList (trimChars (dropLastOrder (dropBlanks source.toList)))

section BeforeLast

variable {reader : List Char → Option (List Char)} {chars found : List Char}

theorem beforeLast?_append (body : List Char) (h : beforeLast? reader chars = some found) :
    beforeLast? reader (body ++ chars) = some (body ++ found) := by
  induction body with
  | nil => exact h
  | cons c rest ih => rw [List.cons_append, beforeLast?, ih]; rfl

theorem beforeLast?_past {passed : List Char}
    (hp : ∀ c ∈ passed, ∀ more, reader (c :: more) = none)
    (h : beforeLast? reader chars = none) : beforeLast? reader (passed ++ chars) = none := by
  induction passed with
  | nil => exact h
  | cons c rest ih =>
    have hrest := ih fun d hd => hp d (List.mem_cons_of_mem c hd)
    rw [List.cons_append, beforeLast?, hrest]
    dsimp only
    rw [hp c List.mem_cons_self]
    rfl

end BeforeLast

/-- The characters of a word, told one by one. -/
theorem not_blank_of_all {word : List Char} (h : word.all (!isBlank ·) = true) :
    ∀ c ∈ word, isBlank c = false :=
  fun c hc => by simpa using List.all_eq_true.mp h c hc

theorem dropOrderBy?_of_not_blank {c : Char} (h : isBlank c = false) (more : List Char) :
    dropOrderBy? (c :: more) = none := by
  simp [dropOrderBy?, dropGap?, h]

/-- An order in which there is no other one is the last. -/
theorem dropLastOrder_append {order : List Char}
    (h : beforeLast? dropOrderBy? (' ' :: order) = none) (body : List Char) :
    dropLastOrder (body ++ (" ORDER BY ".toList ++ order)) = body := by
  have hword (word : List Char) (hw : word.all (!isBlank ·) = true) :
      ∀ c ∈ word, ∀ more, dropOrderBy? (c :: more) = none := fun c hc more =>
    dropOrderBy?_of_not_blank (not_blank_of_all hw c hc) more
  have hby : beforeLast? dropOrderBy? ("BY".toList ++ ' ' :: order) = none :=
    beforeLast?_past (hword _ (by decide)) h
  have hgap : beforeLast? dropOrderBy? (' ' :: ("BY".toList ++ ' ' :: order)) = none := by
    rw [beforeLast?, hby]
    rfl
  have horder := beforeLast?_past (hword "ORDER".toList (by decide)) hgap
  have hlast : beforeLast? dropOrderBy? (" ORDER BY ".toList ++ order) = some [] := by
    show beforeLast? dropOrderBy?
      (' ' :: ("ORDER".toList ++ ' ' :: ("BY".toList ++ ' ' :: order))) = some []
    rw [beforeLast?, horder]
    rfl
  rw [dropLastOrder, beforeLast?_append body hlast, List.append_nil]
  rfl

/-- Of a source with an order of its own, the order is what is left out. -/
theorem unordered_append {order : String}
    (h : beforeLast? dropOrderBy? (' ' :: order.toList) = none) {body : String}
    (hbody : dropBlanks body.toList ≠ []) :
    unordered (body ++ " ORDER BY " ++ order) = trim body := by
  have hchars : dropBlanks (body ++ " ORDER BY " ++ order).toList =
      dropBlanks body.toList ++ (" ORDER BY ".toList ++ order.toList) := by
    rw [String.toList_append, String.toList_append, List.append_assoc]
    unfold dropBlanks at hbody ⊢
    rw [List.dropWhile_append, if_neg (by simpa using hbody)]
  have hsame : dropBlanks (dropBlanks body.toList) = dropBlanks body.toList :=
    dropBlanks_of_stopsAt (stopsAt_dropWhile isBlank _)
  rw [unordered, hchars, dropLastOrder_append h, trim, trimChars, trimChars, hsame]

/-! ## Cutting a SELECT at its FROM -/

/-- One item that is selected: a text without blanks, but not the word `FROM`. -/
def IsItem (item : List Char) : Prop :=
  IsRun (!isBlank ·) item ∧ Query.isKeyword "FROM" item = false

variable {item : List Char}

theorem IsItem.notBlank (h : IsItem item) : ∀ c ∈ item, isBlank c = false :=
  fun c hc => by simpa using h.1.2 c hc

theorem dropFrom?_of_not_blank {c : Char} (h : isBlank c = false) (more : List Char) :
    dropFrom? (c :: more) = none := by
  simp [dropFrom?, dropGap?, h]

theorem dropFrom?_from (source : List Char) :
    dropFrom? (" FROM ".toList ++ source) = some (dropBlanks source) := rfl

/-- An item is not taken for `FROM`. -/
theorem dropFrom?_item (h : IsItem item) (rest : List Char) :
    dropFrom? (' ' :: (item ++ ' ' :: rest)) = none := by
  have hstart : StopsAt isBlank (item ++ ' ' :: rest) :=
    h.1.stopsAt (fun _ hc => by simpa using hc) _
  have hgap : dropGap? (' ' :: (item ++ ' ' :: rest)) = some (item ++ ' ' :: rest) :=
    congrArg some (dropBlanks_of_stopsAt hstart)
  unfold dropFrom?
  rw [hgap, Option.bind_some, dropWord?_append (.of_all (by decide))]
  cases hword : dropWord? "FROM".toList item with
  | none => rfl
  | some left =>
    obtain ⟨written, hitem, -⟩ := dropWord?_eq_some_iff.mp hword
    cases left with
    | nil =>
      have hfrom := h.2
      rw [Query.isKeyword, hword] at hfrom
      cases hfrom
    | cons c more =>
      have hc : isBlank c = false := h.notBlank c (hitem ▸ by simp)
      simp [dropGap?, hc]

/-- A SELECT is cut at its own FROM, whatever the source has in it. -/
theorem splitSelect?_spelled {item : String} (h : IsItem item.toList) (distinct : Bool)
    (source : String) :
    splitSelect? (Query.spelled distinct item source).toList =
      some ((Query.distinctWord distinct).toList ++ item.toList, dropBlanks source.toList) := by
  let tail := item.toList ++ (" FROM ".toList ++ source.toList)
  have hchars : (Query.spelled distinct item source).toList =
      "SELECT".toList ++ ' ' :: ((Query.distinctWord distinct).toList ++ tail) := by
    simp [Query.spelled, String.toList_append, tail]
  have hselect :
      dropWord? "SELECT".toList (dropBlanks (Query.spelled distinct item source).toList) =
        some (' ' :: ((Query.distinctWord distinct).toList ++ tail)) := by
    have hstart (rest : List Char) : StopsAt isBlank ("SELECT".toList ++ rest) :=
      stopsAt_cons.mpr (by decide)
    rw [hchars, dropBlanks_of_stopsAt (hstart _)]
    exact dropWord?_eq_some_iff.mpr ⟨_, rfl, .refl _⟩
  have hcut : cutAt? dropFrom? tail = some (item.toList, dropBlanks source.toList) :=
    search_append (fun c hc => dropFrom?_of_not_blank (h.notBlank c hc)) (dropFrom?_from _)
  have hfound : cutAt? dropFrom? ((Query.distinctWord distinct).toList ++ tail) =
      some ((Query.distinctWord distinct).toList ++ item.toList, dropBlanks source.toList) := by
    cases distinct with
    | false => exact hcut
    | true =>
      have hword : ∀ c ∈ "DISTINCT".toList, ∀ more, dropFrom? (c :: more) = none :=
        fun c hc => dropFrom?_of_not_blank (not_blank_of_all (by decide) c hc)
      have hgap : search dropFrom? (' ' :: tail) =
          some (' ' :: item.toList, dropBlanks source.toList) := by
        have hitem : dropFrom? (' ' :: tail) = none := dropFrom?_item h _
        have htail : search dropFrom? tail = some (item.toList, dropBlanks source.toList) := hcut
        rw [search, hitem, htail]
        rfl
      exact (search_past hword (' ' :: tail)).trans (by rw [hgap]; rfl)
  have hstart : StopsAt isBlank ((Query.distinctWord distinct).toList ++ tail) := by
    cases distinct with
    | false => exact h.1.stopsAt (fun _ hc => by simpa using hc) _
    | true => exact stopsAt_cons.mpr (by decide)
  have hbody : dropGap? (' ' :: ((Query.distinctWord distinct).toList ++ tail)) =
      some ((Query.distinctWord distinct).toList ++ tail) :=
    congrArg some (dropBlanks_of_stopsAt hstart)
  unfold splitSelect? splitAtFrom?
  rw [hselect, Option.bind_some, hbody]
  simp only [Option.bind_eq_bind, Option.bind_some, hfound]

/-- A SELECT of one item is counted by a SELECT of the count from the same source, unless its rows
cannot be counted that way. -/
theorem countProbe?_spelled {item counted : String} (h : IsItem item.toList)
    (hcounted : counted.isEmpty = false) (distinct : Bool) (source : String) :
    countProbe? (Query.spelled distinct item source) (some counted) =
      if preventsCount (Query.spelled distinct item source).toList then none
      else some (Query.spelled false ("COUNT(" ++ counted ++ ") AS row_count")
        (unordered source)) := by
  have htext : "SELECT COUNT(" ++ counted ++ ") AS row_count FROM " ++ unordered source =
      Query.spelled false ("COUNT(" ++ counted ++ ") AS row_count") (unordered source) := by
    apply String.toList_inj.mp
    simp [Query.spelled, Query.distinctWord, String.toList_append]
  unfold countProbe?
  dsimp only
  split
  · rfl
  · rw [splitSelect?_spelled h, ← htext]
    simp only [Option.bind_eq_bind, Option.bind_some, hcounted]
    rw [if_neg Bool.false_ne_true, String.ofList_toList]
    rfl

/-! ## What is counted -/

def countedText (columns : List Char) : Option String → List Char
  | some given => if given.isEmpty then trimChars columns else given.toList
  | none => trimChars columns

theorem countProbe?_eq (sql : String) (expression : Option String) :
    countProbe? sql expression =
      if preventsCount sql.toList then none
      else (splitSelect? sql.toList).map fun cut =>
        "SELECT COUNT(" ++ String.ofList (countedText cut.1 expression) ++ ") AS row_count FROM "
          ++ String.ofList (trimChars (dropLastOrder cut.2)) := by
  unfold countProbe? countedText
  dsimp only
  split
  · rfl
  · cases splitSelect? sql.toList with
    | none => rfl
    | some cut => cases expression <;> rfl

end Statement

/-! ## What is counted and what is selected -/

namespace Query

variable {R V : Type} [DecidableEq R] [DecidableEq V] {contents : Contents R V}
  {values : Value.Entries} {source : String}

/-- A column is counted under its name, after `DISTINCT` or without it. -/
theorem readTally?_spelled {name : List Char} (h : IsColumn name) (distinct : Bool)
    (rest : List Char) :
    readTally? ((distinctWord distinct).toList ++ (name ++ ')' :: rest)) =
      some (.values distinct (.ofList name), rest) := by
  cases distinct with
  | false => exact readTally?_column h rest
  | true =>
    have hblank : ∀ c ∈ name, isBlank c = false :=
      fun c hc => Join.isBlank_of_isColumnChar (h.1.2 c hc)
    have htrim : trimChars name = name :=
      trimChars_of_stopsAt (fun c hc => hblank c (List.mem_of_mem_head? hc))
        fun c hc => hblank c (List.mem_reverse.mp (List.mem_of_mem_head? hc))
    have htally := readTally?_distinct (htrim.symm ▸ h) rest
    rwa [htrim] at htally

/-- What the counting form of a SELECT counts. -/
def tallyOf (distinct : Bool) : Selected → Tally
  | .column name => .values distinct name
  | _ => .rows

omit [DecidableEq R] in
theorem exists_countValue (tally : Tally) (source : String) (contents : Contents R V)
    (values : Value.Entries) :
    ∃ count, countValue? ⟨false, .count tally, source⟩ contents values = some count := by
  cases tally <;> exact ⟨_, rfl⟩

omit [DecidableEq R] in
/-- The rows are counted in any order. -/
theorem countValue?_of_perm {other : String} (tally : Tally)
    (h : (contents.rows other values).Perm (contents.rows source values)) :
    countValue? ⟨false, .count tally, other⟩ contents values =
      countValue? ⟨false, .count tally, source⟩ contents values := by
  cases tally with
  | rows => exact congrArg some h.length_eq
  | values distinct name =>
    have hvalues := h.filterMap (contents.cell name)
    cases distinct with
    | false => exact congrArg some hvalues.length_eq
    | true => exact congrArg some hvalues.dedup.length_eq

/-- A count of the values of a column is the number of its results unless one of them is NULL. -/
theorem countValues_eq_iff_not_null {distinct : Bool} {name : String} :
    countValue? ⟨false, .count (.values distinct name), source⟩ contents values =
        some (rowCount ⟨distinct, .column name, source⟩ contents values) ↔
      CountsAll ⟨distinct, .column name, source⟩ contents values := by
  cases distinct with
  | true => exact countValues_eq_iff_column
  | false =>
    simp only [countValue?, rowCount, CountsAll, kept, Option.some.injEq, Bool.false_eq_true,
      if_false, List.length_map, List.filterMap_length_eq_length, Option.isSome_iff_ne_none]

/-- The count of a SELECT is the number of its rows just if it is not one of distinct rows, some of
which are repeated, nor one of a column with NULL in it. -/
theorem countValue?_tallyOf_iff {distinct : Bool} {selected : Selected}
    (hselected : ∀ tally, selected ≠ .count tally) :
    countValue? ⟨false, .count (tallyOf distinct selected), source⟩ contents values =
        some (rowCount ⟨distinct, selected, source⟩ contents values) ↔
      (selected = .all ∧ distinct = false) ∨
        CountsAll ⟨distinct, selected, source⟩ contents values := by
  cases selected with
  | all =>
    rw [and_iff_right rfl]
    exact countRows_eq_iff_all
  | column name =>
    rw [or_iff_right (fun h => Selected.noConfusion h.1)]
    exact countValues_eq_iff_not_null
  | count tally => exact absurd rfl (hselected tally)

end Query

end SqlToolkit
