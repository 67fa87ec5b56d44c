import SqlToolkit.Proofs.Statement.CountingForm
import SqlToolkit.Proofs.Text.Boundary
import SqlToolkit.Proofs.Text.Phrase

/-!
# The counting form of a plain SELECT

A SELECT is plain if the letters of no word stand in it that could group, unite or limit its rows.
Whatever its fields are, as long as `FROM` is not a word of theirs, a plain SELECT is cut at its own
FROM, and it is counted by a count of its fields, or of what is given instead, in the same source
without the last order.
-/

namespace SqlToolkit.Statement

open SqlToolkit.Text

/-! ## Plain texts -/

def regroupingWords : List String :=
  ["LIMIT", "FIRST", "SKIP", "OFFSET", "NEXT", "HAVING", "GROUP", "UNION"]

/-- The letters of none of these words stand in the text. -/
def IsPlain (chars : List Char) : Prop := ∀ word ∈ regroupingWords, ¬ HasLetters word chars

variable {chars : List Char}

theorem isPlain_append (before more : List Char) :
    IsPlain (before ++ ' ' :: more) ↔ IsPlain before ∧ IsPlain more := by
  have hseam : ∀ word ∈ regroupingWords, HasLetters word (before ++ ' ' :: more) ↔
      HasLetters word before ∨ HasLetters word more := by
    have hsolid : ∀ word ∈ regroupingWords, IsSolid word := by decide
    exact fun word hword => hasLetters_append (hsolid word hword) before more
  unfold IsPlain
  constructor
  · intro h
    exact ⟨fun word hword hletters => h word hword ((hseam word hword).mpr (.inl hletters)),
      fun word hword hletters => h word hword ((hseam word hword).mpr (.inr hletters))⟩
  · rintro ⟨hbefore, hmore⟩ word hword hletters
    exact ((hseam word hword).mp hletters).elim (hbefore word hword) (hmore word hword)

instance (chars : List Char) : Decidable (IsPlain chars) :=
  inferInstanceAs (Decidable (∀ word ∈ regroupingWords, ¬ HasLetters word chars))

/-- A plain text goes on plainly with one that begins with a blank. -/
theorem IsPlain.append {more : List Char} (h : IsPlain chars) (hmore : IsPlain more)
    (hopens : OpensWith ' ' more) : IsPlain (chars ++ more) := by
  cases more with
  | nil => rwa [List.append_nil]
  | cons c more =>
    obtain rfl : c = ' ' := hopens c rfl
    exact (isPlain_append _ _).mpr ⟨h, ((isPlain_append [] more).mp hmore).2⟩

/-- A SELECT is plain if its fields and its source are. -/
theorem isPlain_spelled {fields source : String} (hfields : IsPlain fields.toList)
    (hsource : IsPlain source.toList) (distinct : Bool) :
    IsPlain (Query.spelled distinct fields source).toList := by
  have hbody : IsPlain ((Query.distinctWord distinct).toList ++ fields.toList) := by
    cases distinct with
    | false => exact hfields
    | true => exact (isPlain_append "DISTINCT".toList fields.toList).mpr ⟨by decide, hfields⟩
  have hchars : (Query.spelled distinct fields source).toList =
      "SELECT".toList ++ ' ' :: (((Query.distinctWord distinct).toList ++ fields.toList) ++
        ' ' :: ("FROM".toList ++ ' ' :: source.toList)) := by
    simp [Query.spelled, String.toList_append]
  rw [hchars, isPlain_append, isPlain_append, isPlain_append]
  exact ⟨by decide, hbody, by decide, hsource⟩

theorem dropWord?_word (first second chars : List Char) :
    dropWord? (first ++ second) chars = (dropWord? first chars).bind (dropWord? second) := by
  induction first generalizing chars with
  | nil => rfl
  | cons want first ih =>
    cases chars with
    | nil => rfl
    | cons c more =>
      by_cases hc : sameLetter want c = true
      · simpa [dropWord?, hc] using ih more
      · simp [dropWord?, hc]

/-- What is read for one of several words, and not without it, begins with this word. -/
theorem exists_word_of_findSome? {α : Type} {words : List String} {reader : String → Option α}
    (h : (words.findSome? reader).isSome = true)
    (hnone : ∀ word, dropWord? word.toList chars = none → reader word = none) :
    ∃ word ∈ words, (dropWord? word.toList chars).isSome = true := by
  obtain ⟨word, hword, hread⟩ := List.findSome?_isSome_iff.mp h
  refine ⟨word, hword, ?_⟩
  cases hdrop : dropWord? word.toList chars with
  | none => rw [hnone word hdrop] at hread; cases hread
  | some left => rfl

/-- What keeps rows from being counted begins with one of the words. -/
theorem exists_word_of_regrouping {rest : List Char} (h : (dropRegrouping? rest).isSome = true) :
    ∃ word ∈ regroupingWords, (dropWord? word.toList rest).isSome = true := by
  rw [dropRegrouping?, Option.isSome_or, Option.isSome_or, Bool.or_eq_true, Bool.or_eq_true] at h
  obtain h | h | h := h
  · obtain ⟨word, hword, hread⟩ := exists_word_of_findSome? h fun word hnone => by rw [hnone]
    have hmem : ∀ word ∈ limitingWords, word ∈ regroupingWords := by decide
    exact ⟨word, hmem word hword, hread⟩
  · have hhaving : dropWord? "HAVING SUM".toList rest =
        (dropWord? "HAVING".toList rest).bind (dropWord? " SUM".toList) :=
      dropWord?_word "HAVING".toList " SUM".toList rest
    rw [hhaving] at h
    exact ⟨"HAVING", by decide, Option.isSome_of_isSome_bind h⟩
  · rw [dropPhrase?_cons, Option.bind_assoc] at h
    exact ⟨"GROUP", by decide, Option.isSome_of_isSome_bind h⟩

/-- A plain text has nothing in it that keeps rows from being counted. -/
theorem preventsCount_of_plain (h : IsPlain chars) : preventsCount chars = false := by
  have hnone {rest : List Char} (hsuffix : rest <:+ chars) :
      ¬ ∃ word ∈ regroupingWords, (dropWord? word.toList rest).isSome = true := by
    rintro ⟨word, hword, hread⟩
    exact h word hword (occurs_eq_true_iff.mpr ⟨rest, hsuffix, hread⟩)
  rw [preventsCount, Bool.or_eq_false_iff, Bool.eq_false_iff, Bool.eq_false_iff]
  constructor
  · intro hfound
    obtain ⟨rest, hsuffix, hread⟩ := occurs_eq_true_iff.mp hfound
    exact hnone hsuffix (exists_word_of_regrouping hread)
  · intro hfound
    obtain ⟨before, rest, rfl, hread⟩ := occursAfter_eq_true_iff.mp hfound
    obtain ⟨word, hword, hunion⟩ := exists_word_of_findSome? (Bool.and_eq_true_iff.mp hread).2
      fun word hnone => by rw [hnone]
    have hmem : ∀ word ∈ ["UNION"], word ∈ regroupingWords := by decide
    exact hnone (List.suffix_append _ _) ⟨word, hmem word hword, hunion⟩

/-! ## Cutting at the FROM -/

/-- Fields as they are written: they begin with a character that is no blank, and `FROM` is none of
their words. -/
structure IsFields (fields : List Char) : Prop where
  ne_nil : fields ≠ []
  start : StopsAt isBlank fields
  noFrom : ¬ HasWords ["FROM"] fields

theorem IsFields.distinct {fields : List Char} (h : IsFields fields) (distinct : Bool) :
    IsFields ((Query.distinctWord distinct).toList ++ fields) := by
  cases distinct with
  | false => exact h
  | true =>
    refine ⟨List.cons_ne_nil _ _, stopsAt_cons.mpr (by decide), ?_⟩
    have hwords : ∀ word ∈ ["FROM"], IsSolid word := by decide
    have hdistinct : ¬ HasWords ["FROM"] "DISTINCT".toList := by decide
    exact fun hfrom => ((hasWords_append hwords (List.cons_ne_nil _ _) nofun _).mp hfrom).elim
      hdistinct h.noFrom

/-- A text that ends with another character than a blank is not blank. -/
theorem dropBlanks_ne_nil_of_suffix {front : List Char} (h : StopsAt isBlank chars.reverse)
    (hne : front ≠ []) (hsuffix : front <:+ chars) (blanks : List Char) :
    dropBlanks (front ++ blanks) ≠ [] := by
  obtain ⟨c, more, hfront⟩ := List.exists_cons_of_ne_nil (List.reverse_ne_nil_iff.mpr hne)
  have hc : isBlank c = false := stopsAt_cons.mp (hfront ▸ h.reverse_of_suffix hsuffix)
  have hmem : c ∈ front := List.mem_reverse.mp (hfront ▸ List.mem_cons_self)
  intro hnil
  obtain ⟨before, hall, hblank, -⟩ := exists_blanks_dropBlanks (front ++ blanks)
  rw [hnil, List.append_nil] at hall
  rw [hblank c (hall ▸ List.mem_append_left _ hmem)] at hc
  cases hc

theorem dropFrom?_blanks {blanks : List Char} (h : ∀ c ∈ blanks, isBlank c = true)
    (source : List Char) :
    dropFrom? (blanks ++ (" FROM ".toList ++ source)) = some (dropBlanks source) := by
  have hgap : dropGap? (blanks ++ (" FROM ".toList ++ source)) =
      some ("FROM".toList ++ ' ' :: source) := by
    refine dropGap?_eq_some_iff.mpr ⟨blanks ++ [' '], by simp, ⟨by simp, fun c hc => ?_⟩, ?_⟩
    · rcases List.mem_append.mp hc with hc | hc
      · exact h c hc
      · rw [List.mem_singleton.mp hc]
        rfl
    · exact stopsAt_cons.mpr (by decide)
  rw [dropFrom?, hgap]
  rfl

/-- The first FROM behind the fields is their own. -/
theorem cutAt?_from {fields : List Char} (h : IsFields fields) (source : List Char) :
    cutAt? dropFrom? (fields ++ (" FROM ".toList ++ source)) =
      some (trimChars fields, dropBlanks source) := by
  obtain ⟨blanks, hfields, hblanks, hend⟩ := exists_blanks_trimChars h.start
  have hsolid : IsSolid "FROM" := by decide
  have hnowhere : Nowhere (dropSpaced? ["FROM"]) (fields ++ [' ']) := by
    refine nowhere_dropSpaced? fun hfrom => ?_
    have hwords : ∀ word ∈ ["FROM"], IsSolid word := by decide
    have hnil : ¬ HasWords ["FROM"] [] := by decide
    exact ((hasWords_append hwords (List.cons_ne_nil _ _) nofun _).mp hfrom).elim h.noFrom hnil
  have hbefore : ∀ front, front ≠ [] → front <:+ trimChars fields →
      dropFrom? (front ++ (blanks ++ (" FROM ".toList ++ source))) = none := by
    intro front hne hsuffix
    have hread : dropSpaced? ["FROM"] ((front ++ blanks) ++ [' ']) = none := by
      refine hnowhere _ (by simp) ?_
      obtain ⟨passed, hkept⟩ := hsuffix
      exact ⟨passed, by rw [hfields, ← hkept]; simp⟩
    have hstops := dropBlanks_ne_nil_of_suffix hend hne hsuffix blanks
    rw [← List.append_assoc]
    exact dropSpaced?_append hsolid hstops hread _
  have hcut := search_behind hbefore (dropFrom?_blanks hblanks source)
  rwa [← List.append_assoc, ← hfields] at hcut

/-- A SELECT is cut at the FROM behind its fields. -/
theorem splitSelect?_of_isFields {fields : String} (h : IsFields fields.toList) (distinct : Bool)
    (source : String) :
    splitSelect? (Query.spelled distinct fields source).toList =
      some (trimChars ((Query.distinctWord distinct).toList ++ fields.toList),
        dropBlanks source.toList) := by
  let body := (Query.distinctWord distinct).toList ++ fields.toList
  have hbody : IsFields body := h.distinct distinct
  have hchars : (Query.spelled distinct fields source).toList =
      "SELECT".toList ++ ' ' :: (body ++ (" FROM ".toList ++ source.toList)) := by
    simp [Query.spelled, String.toList_append, body]
  have hstart : StopsAt isBlank (body ++ (" FROM ".toList ++ source.toList)) := by
    obtain ⟨c, more, hcons⟩ := List.exists_cons_of_ne_nil hbody.ne_nil
    have hc := hbody.start
    rw [hcons] at hc ⊢
    exact stopsAt_cons.mpr (stopsAt_cons.mp hc)
  have hselect : dropWord? "SELECT".toList (dropBlanks (Query.spelled distinct fields source).toList) =
      some (' ' :: (body ++ (" FROM ".toList ++ source.toList))) := by
    have hblank (rest : List Char) : StopsAt isBlank ("SELECT".toList ++ rest) :=
      stopsAt_cons.mpr (by decide)
    rw [hchars, dropBlanks_of_stopsAt (hblank _)]
    exact dropWord?_eq_some_iff.mpr ⟨_, rfl, .refl _⟩
  have hgap : dropGap? (' ' :: (body ++ (" FROM ".toList ++ source.toList))) =
      some (body ++ (" FROM ".toList ++ source.toList)) :=
    congrArg some (dropBlanks_of_stopsAt hstart)
  unfold splitSelect? splitAtFrom?
  rw [hselect, Option.bind_some, hgap]
  simp only [Option.bind_eq_bind, Option.bind_some, cutAt?_from hbody]
  rfl

/-! ## The counting form -/

/-- A plain SELECT is counted in its source without the last order. -/
theorem countProbe?_of_plain {fields source : String} {distinct : Bool}
    (hfields : IsFields fields.toList)
    (hplain : IsPlain (Query.spelled distinct fields source).toList)
    (expression : Option String) :
    countProbe? (Query.spelled distinct fields source) expression =
      some ("SELECT COUNT(" ++ String.ofList (countedText
        ((Query.distinctWord distinct).toList ++ fields.toList) expression) ++
          ") AS row_count FROM " ++ unordered source) := by
  have hcounted (columns : List Char) :
      countedText (trimChars columns) expression = countedText columns expression := by
    unfold countedText
    rw [trimChars_trimChars]
  rw [countProbe?_eq, preventsCount_of_plain hplain, if_neg Bool.false_ne_true,
    splitSelect?_of_isFields hfields, Option.map_some, hcounted]
  rfl

/-! ## Leaving out the order -/

theorem beforeLast?_of_nowhere {reader : List Char → Option (List Char)} (h : Nowhere reader chars) :
    beforeLast? reader chars = none := by
  induction chars with
  | nil => rfl
  | cons c more ih =>
    obtain ⟨hhead, htail⟩ := nowhere_cons.mp h
    rw [beforeLast?, ih htail, hhead]
    rfl

/-- Without the words of an order nothing is left out of a source. -/
theorem unordered_of_noOrder {source : String} (h : ¬ HasWords ["ORDER", "BY"] source.toList) :
    unordered source = trim source := by
  obtain ⟨blanks, hsource, -, -⟩ := exists_blanks_dropBlanks source.toList
  have hnowhere : Nowhere dropOrderBy? (dropBlanks source.toList) :=
    (nowhere_dropSpaced? h).of_suffix ⟨blanks, hsource.symm⟩
  rw [unordered, dropLastOrder, beforeLast?_of_nowhere hnowhere, Option.getD_none,
    trimChars_dropBlanks, trim]

/-- No other order stands behind the keyword of an order without these words. -/
theorem beforeLast?_of_noOrder {order : List Char} (h : ¬ HasWords ["ORDER", "BY"] order) :
    beforeLast? dropOrderBy? (' ' :: order) = none := by
  have hsolid : IsSolid "ORDER" := by decide
  exact beforeLast?_of_nowhere (nowhere_dropSpaced? fun hwords => h ((hasWords_blank hsolid).mp hwords))

end SqlToolkit.Statement
