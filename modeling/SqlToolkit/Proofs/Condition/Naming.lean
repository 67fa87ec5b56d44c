import SqlToolkit.Condition
import SqlToolkit.Join
import SqlToolkit.Proofs.Text.Scan

/-!
# Columns of a table in a condition

A text names a column of a table where the name of the table stands, in any case, with a dot after
it and no word character before it. Texts with `AND` between them name just what one of them names,
as a name does not reach across a blank and no text begins with a dot.
-/

namespace SqlToolkit.Condition

open SqlToolkit.Text

def Names (table text : List Char) : Prop :=
  ∃ before word blanks after, text = before ++ (word ++ (blanks ++ '.' :: after)) ∧
    SameWord table word ∧ (∀ c ∈ blanks, isBlank c = true) ∧
    ∀ c ∈ before.getLast?, isWord c = false ∧ c ≠ '$'

def qualifies (table chars : List Char) : Bool :=
  ((dropWord? table chars).bind fun rest => dropText? ['.'] (dropBlanks rest)).isSome

/-- A name may not begin after the character. -/
def goesOn (before : Option Char) : Bool := before.any fun c => isWord c || c == '$'

/-- The names that begin after the given character are searched for. -/
def namesAfter (table : List Char) (before : Option Char) (chars : List Char) : Bool :=
  occursAfter (fun before chars => !goesOn before && qualifies table chars) before chars

theorem references_eq (sql table : String) :
    references sql table = namesAfter table.toList none sql.toList := rfl

variable {table chars : List Char}

theorem qualifies_eq_true_iff :
    qualifies table chars = true ↔ ∃ word blanks after, chars = word ++ (blanks ++ '.' :: after) ∧
      SameWord table word ∧ ∀ c ∈ blanks, isBlank c = true := by
  unfold qualifies
  rw [Option.isSome_iff_exists]
  constructor
  · rintro ⟨after, h⟩
    obtain ⟨rest, hword, hdot⟩ := Option.bind_eq_some_iff.mp h
    obtain ⟨word, rfl, hw⟩ := dropWord?_eq_some_iff.mp hword
    obtain ⟨blanks, hblanks, areBlanks, -⟩ := exists_blanks_dropBlanks rest
    rw [dropText?_eq_some_iff.mp hdot] at hblanks
    exact ⟨word, blanks, after, by rw [hblanks]; rfl, hw, areBlanks⟩
  · rintro ⟨word, blanks, after, rfl, hw, areBlanks⟩
    refine ⟨after, Option.bind_eq_some_iff.mpr
      ⟨blanks ++ '.' :: after, dropWord?_eq_some_iff.mpr ⟨word, rfl, hw⟩, ?_⟩⟩
    rw [dropBlanks_append areBlanks (stopsAt_cons.mpr (by decide))]
    exact dropText?_eq_some_iff.mpr rfl

theorem goesOn_eq_false_iff {before : Option Char} :
    goesOn before = false ↔ ∀ c ∈ before, isWord c = false ∧ c ≠ '$' := by
  cases before with
  | none => simp [goesOn]
  | some c => simp [goesOn]

/-- The search finds a name where one stands. -/
theorem namesAfter_none_iff : namesAfter table none chars = true ↔ Names table chars := by
  unfold namesAfter Names
  rw [occursAfter_eq_true_iff]
  constructor
  · rintro ⟨before, rest, rfl, h⟩
    rw [Option.or_none, Bool.and_eq_true, Bool.not_eq_true'] at h
    obtain ⟨word, blanks, after, rfl, hw, hb⟩ := qualifies_eq_true_iff.mp h.2
    exact ⟨before, word, blanks, after, rfl, hw, hb, goesOn_eq_false_iff.mp h.1⟩
  · rintro ⟨before, word, blanks, after, rfl, hw, hb, hbefore⟩
    refine ⟨before, _, rfl, ?_⟩
    rw [Option.or_none, Bool.and_eq_true, Bool.not_eq_true']
    exact ⟨goesOn_eq_false_iff.mpr hbefore,
      qualifies_eq_true_iff.mpr ⟨word, blanks, after, rfl, hw, hb⟩⟩

/-! ## Texts with blanks between them -/

/-- The text begins neither with a blank nor with a dot. -/
def Opens (text : List Char) : Prop := ∃ c rest, text = c :: rest ∧ isBlank c = false ∧ c ≠ '.'

theorem Opens.append (h : Opens chars) (more : List Char) : Opens (chars ++ more) := by
  obtain ⟨c, rest, rfl, hc⟩ := h
  exact ⟨c, rest ++ more, rfl, hc⟩

/-- No dot comes after the blanks at the front. -/
theorem Opens.noDot (h : Opens chars) : dropText? ['.'] (dropBlanks chars) = none := by
  obtain ⟨c, rest, rfl, hblank, hdot⟩ := h
  rw [dropBlanks_of_stopsAt (stopsAt_cons.mpr hblank), dropText?, if_neg (Ne.symm hdot)]

/-- A name does not reach across a blank. -/
theorem qualifies_append (htable : Outside ' ' table) {more : List Char}
    (hmore : Opens more) (chars : List Char) :
    qualifies table (chars ++ ' ' :: more) = qualifies table chars := by
  unfold qualifies
  rw [dropWord?_append htable]
  cases dropWord? table chars with
  | none => rfl
  | some rest =>
    rw [Option.map_some, Option.bind_some, Option.bind_some, ← dropBlanks_dropBlanks_append]
    cases hd : dropBlanks rest with
    | nil =>
      have hblank : dropBlanks (' ' :: more) = dropBlanks more := rfl
      rw [List.nil_append, hblank, hmore.noDot]
      rfl
    | cons c kept =>
      have hc : StopsAt isBlank (c :: kept) := hd ▸ stopsAt_dropWhile isBlank rest
      have hkeep : StopsAt isBlank (c :: kept ++ ' ' :: more) :=
        stopsAt_cons.mpr (stopsAt_cons.mp hc)
      rw [dropBlanks_of_stopsAt hkeep, List.cons_append]
      simp only [dropText?]
      split <;> rfl

theorem namesAfter_blank (chars : List Char) :
    namesAfter table (some ' ') chars = namesAfter table none chars := by
  cases chars <;> rfl

/-- Two texts with a blank between them name what one of them names. -/
theorem namesAfter_append (htable : Outside ' ' table)
    {more : List Char} (hmore : Opens more) (before : Option Char) (chars : List Char) :
    namesAfter table before (chars ++ ' ' :: more) =
      (namesAfter table before chars || namesAfter table none more) := by
  have hq := qualifies_append htable hmore
  induction chars generalizing before with
  | nil =>
    have hfirst := hq []
    rw [List.nil_append] at hfirst
    rw [← namesAfter_blank more]
    simp only [namesAfter, List.nil_append, occursAfter, hfirst]
  | cons c rest ih =>
    have hfirst := hq (c :: rest)
    rw [List.cons_append] at hfirst
    have hrest := ih (some c)
    simp only [namesAfter, List.cons_append, occursAfter] at hrest ⊢
    rw [hfirst, hrest, Bool.or_assoc]

theorem namesAfter_of_noDot (h : '.' ∉ chars) : namesAfter table none chars = false := by
  rw [Bool.eq_false_iff]
  intro hn
  obtain ⟨before, word, blanks, after, rfl, -⟩ := namesAfter_none_iff.mp hn
  exact h (by simp)

/-- A condition names the columns that its parts name. -/
theorem names_intercalate_iff (htable : Outside ' ' table)
    {text : List Char} {texts : List (List Char)} (hopen : ∀ t ∈ text :: texts, Opens t) :
    Names table (" AND ".toList.intercalate (text :: texts)) ↔
      ∃ t ∈ text :: texts, Names table t := by
  induction texts generalizing text with
  | nil => simp
  | cons next texts ih =>
    have hrest := ih fun t ht => hopen t (List.mem_cons_of_mem _ ht)
    have hopens : Opens (" AND ".toList.intercalate (next :: texts)) := by
      have hnext := hopen next (List.mem_cons_of_mem _ List.mem_cons_self)
      cases texts with
      | nil => simpa using hnext
      | cons _ _ =>
        rw [List.intercalate_cons_cons, List.append_assoc]
        exact hnext.append _
    have hword : Opens (['A', 'N', 'D'] ++ ' ' :: " AND ".toList.intercalate (next :: texts)) :=
      ⟨'A', _, rfl, by decide, by decide⟩
    have hsplit : " AND ".toList.intercalate (text :: next :: texts) =
        text ++ ' ' :: (['A', 'N', 'D'] ++ ' ' :: " AND ".toList.intercalate (next :: texts)) := by
      rw [List.intercalate_cons_cons, List.append_assoc]
      rfl
    have hnone : namesAfter table none ['A', 'N', 'D'] = false := namesAfter_of_noDot (by decide)
    have hboth : Names table (" AND ".toList.intercalate (text :: next :: texts)) ↔
        Names table text ∨ Names table (" AND ".toList.intercalate (next :: texts)) := by
      rw [hsplit, ← namesAfter_none_iff, ← namesAfter_none_iff, ← namesAfter_none_iff,
        namesAfter_append htable hword, namesAfter_append htable hopens, hnone, Bool.false_or,
        Bool.or_eq_true]
    rw [hboth, hrest]
    simp only [List.mem_cons, exists_eq_or_imp]

end SqlToolkit.Condition
