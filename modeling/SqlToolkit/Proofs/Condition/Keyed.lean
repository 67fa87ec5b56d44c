import SqlToolkit.Proofs.Condition.Conjunction
import SqlToolkit.Proofs.Condition.Naming

/-!
# Conditions on qualified columns

The text of an entry whose key names a column with its table begins with the name of the table and a
dot, and ends with the name of the placeholder. So the texts can be put after one another, in
parentheses or after `WHERE`, and neither trimming nor reading mistakes where they begin and end.
-/

namespace SqlToolkit.Condition

open SqlToolkit.Text SqlToolkit.SearchCondition

/-- The key names a column of the table. -/
def QualifiedBy (table : List Char) (key : String) : Prop :=
  ∃ name rest, column key = name ++ '.' :: rest ∧ IsRun isAsciiWord name ∧ SameWord table name

/-- The text has a name and a dot at the front and no blank at the end. -/
def IsQualified (text : List Char) : Prop :=
  (∃ name rest, text = name ++ '.' :: rest ∧ IsRun isAsciiWord name) ∧ StopsAt isBlank text.reverse

/-! ## The text of an entry -/

theorem isBlank_of_mem_column {key : String} {c : Char} (h : c ∈ column key) :
    isBlank c = false := by
  have hc := List.all_eq_true.mp List.all_takeWhile c h
  simp only [endsColumn, Bool.not_eq_true', Bool.or_eq_false_iff] at hc
  exact hc.1.1.1.1

/-- A trimmed key begins with its column. -/
theorem exists_trim_of_column (key : String) :
    ∃ more, trimChars key.toList = column key ++ more := by
  obtain ⟨more, -, -, hmore⟩ :=
    trimChars_eq_append List.takeWhile_append_dropWhile.symm fun _ => isBlank_of_mem_column
  exact ⟨more, hmore⟩

theorem toList_fragment (key : String) (column : List Char) (name : String) :
    ∃ sign, (fragment key column name).toList = trimChars key.toList ++ (sign ++ name.toList) := by
  unfold fragment
  dsimp only
  split
  · exact ⟨" = :".toList, by simp [trim]⟩
  · exact ⟨" :".toList, by simp [trim]⟩

theorem isWord_of_mem_nameWith {column : List Char} {letter c : Char} (hletter : letter ∈ letters)
    (h : c ∈ (nameWith (baseOf column) letter).toList) : isWord c = true := by
  have hletters : letters.all isWord = true := by decide
  rw [nameWith, String.toList_ofList, baseOf, String.toList_ofList] at h
  obtain rfl | rfl | h := by simpa only [List.mem_cons] using h
  · exact List.all_eq_true.mp hletters c hletter
  · decide
  · obtain ⟨d, -, rfl⟩ := List.mem_map.mp h
    split
    · assumption
    · decide

variable {placeholders : List (String × Value)}

theorem isQualified_of_entryText {table : List Char} {key text : String} {value : Value}
    (hkey : QualifiedBy table key) (h : EntryText placeholders (.text key, value) text) :
    IsQualified text.toList := by
  obtain ⟨name, rest, hcolumn, hname, -⟩ := hkey
  cases h with
  | @keyed _ _ letter hletter hbound =>
  obtain ⟨sign, hfragment⟩ :=
    toList_fragment key (column key) (nameWith (baseOf (column key)) letter)
  obtain ⟨more, htrim⟩ := exists_trim_of_column key
  constructor
  · rw [hfragment, htrim, hcolumn]
    exact ⟨name, _, by rw [List.append_assoc, List.append_assoc, List.cons_append], hname⟩
  · -- the last character is in the name of the placeholder
    have hlast : IsRun isWord (nameWith (baseOf (column key)) letter).toList.reverse := by
      refine ⟨?_, fun c hc => isWord_of_mem_nameWith hletter (List.mem_reverse.mp hc)⟩
      simp [nameWith]
    rw [hfragment, List.reverse_append, List.reverse_append, List.append_assoc]
    exact hlast.stopsAt (fun _ => isBlank_of_isWord) _

/-! ## The text of a condition -/

def conjunction (texts : List String) : String := " AND ".intercalate texts

def conditionOf? : List String → Option String
  | [] => none
  | text :: texts => some (conjunction (text :: texts))

theorem IsQualified.opens {text : List Char} (h : IsQualified text) : Opens text := by
  obtain ⟨⟨name, rest, rfl, hname⟩, -⟩ := h
  obtain ⟨c, more, rfl, hc⟩ := hname.exists_cons
  have hdot : c ≠ '.' := fun hd => absurd (hd ▸ hc) (by decide)
  exact ⟨c, _, rfl, isBlank_of_isAsciiWord hc, hdot⟩

theorem IsQualified.stopsAt {text : List Char} (h : IsQualified text) : StopsAt isBlank text := by
  obtain ⟨c, rest, rfl, hc, -⟩ := h.opens
  exact stopsAt_cons.mpr hc

theorem IsQualified.append {first last : List Char} (hfirst : IsQualified first)
    (hlast : IsQualified last) (between : List Char) :
    IsQualified (first ++ (between ++ last)) := by
  obtain ⟨⟨name, rest, rfl, hname⟩, -⟩ := hfirst
  refine ⟨⟨name, rest ++ (between ++ last), by simp, hname⟩, ?_⟩
  obtain ⟨⟨other, more, rfl, -⟩, hend⟩ := hlast
  rw [List.reverse_append, List.reverse_append, List.append_assoc]
  cases hr : (other ++ '.' :: more).reverse with
  | nil => simp at hr
  | cons c back => exact stopsAt_cons.mpr (stopsAt_cons.mp (hr ▸ hend))

theorem isQualified_conjunction {text : String} {texts : List String}
    (h : ∀ t ∈ text :: texts, IsQualified t.toList) :
    IsQualified (conjunction (text :: texts)).toList := by
  rw [conjunction, String.toList_intercalate]
  induction texts generalizing text with
  | nil => simpa using h
  | cons next texts ih =>
    have hrest := ih fun t ht => h t (List.mem_cons_of_mem _ ht)
    rw [List.map_cons, List.map_cons, List.intercalate_cons_cons, List.append_assoc]
    exact (h text List.mem_cons_self).append hrest _

/-- A condition names the columns that its parts name. -/
theorem references_conjunction {table : String}
    (htable : Outside ' ' table.toList) {text : String}
    {texts : List String} (h : ∀ t ∈ text :: texts, IsQualified t.toList) :
    references (" WHERE " ++ conjunction (text :: texts)) table = true ↔
      ∃ t ∈ text :: texts, Names table.toList t.toList := by
  have hopens : ∀ t ∈ (text :: texts).map String.toList, Opens t := by
    intro t ht
    obtain ⟨s, hs, rfl⟩ := List.mem_map.mp ht
    exact (h s hs).opens
  have hnone : namesAfter table.toList none " WHERE".toList = false :=
    namesAfter_of_noDot (by decide)
  have hsplit : (" WHERE " ++ conjunction (text :: texts)).toList =
      " WHERE".toList ++ ' ' :: (conjunction (text :: texts)).toList := by
    rw [String.toList_append]
    rfl
  rw [references_eq, hsplit, namesAfter_append htable (isQualified_conjunction h).opens, hnone,
    Bool.false_or, namesAfter_none_iff, conjunction, String.toList_intercalate, List.map_cons,
    names_intercalate_iff htable hopens, ← List.map_cons]
  simp only [List.mem_map, exists_exists_and_eq_and]

/-- The condition of a clause becomes a further condition in parentheses. -/
theorem fold_conjunction {text : String} {texts : List String}
    (h : ∀ t ∈ text :: texts, IsQualified t.toList) :
    fold (" WHERE " ++ conjunction (text :: texts)) =
      " AND (" ++ conjunction (text :: texts) ++ ")" := by
  have hq := isQualified_conjunction h
  have hword : dropLeadingWhere (" WHERE " ++ conjunction (text :: texts)).toList =
      dropBlanks (conjunction (text :: texts)).toList := by
    rw [String.toList_append]
    rfl
  have hne : (conjunction (text :: texts)).toList.isEmpty = false := by
    obtain ⟨c, rest, heq, -⟩ := hq.opens
    rw [heq]
    rfl
  rw [fold, hword, dropBlanks_of_stopsAt hq.stopsAt, trimChars_of_stopsAt hq.stopsAt hq.2]
  rw [if_neg (by simp [hne]), String.ofList_toList]

end SqlToolkit.Condition
