import SqlToolkit.Proofs.Text.Substitution

/-!
# Words and phrases in a text that is put together

The letters of a word, and the words of a phrase, are looked for at every place of a text. A text
that is put together with a blank at the seam has no others than its parts, unless a phrase goes on
behind the seam. A reader that insists on gaps around a phrase finds it only where it stands as
words of the text.
-/

namespace SqlToolkit.Text

variable {chars more : List Char}

/-! ## Letters -/

section Letters

variable {α : Type} {reader : List Char → Option α}

theorem occurs_cons {c : Char} :
    occurs reader (c :: more) = ((reader (c :: more)).isSome || occurs reader more) := by
  unfold occurs
  rw [search]
  cases reader (c :: more) with
  | none => rw [Option.isSome_map]; rfl
  | some answer => rfl

theorem occurs_eq_true_iff :
    occurs reader chars = true ↔ ∃ rest, rest <:+ chars ∧ (reader rest).isSome = true := by
  induction chars with
  | nil =>
    have hnil : occurs reader [] = (reader []).isSome := by rw [occurs, search, Option.isSome_map]
    simp [hnil]
  | cons c more ih =>
    rw [occurs_cons, Bool.or_eq_true, ih]
    constructor
    · rintro (h | ⟨rest, hsuffix, h⟩)
      · exact ⟨_, List.suffix_rfl, h⟩
      · exact ⟨rest, hsuffix.trans (List.suffix_cons c more), h⟩
    · rintro ⟨rest, hsuffix, h⟩
      obtain rfl | hsuffix := List.suffix_cons_iff.mp hsuffix
      · exact .inl h
      · exact .inr ⟨rest, hsuffix, h⟩

/-- The letters of the word stand somewhere in the text, in any case. -/
def HasLetters (word : String) (chars : List Char) : Prop :=
  occurs (dropWord? word.toList) chars = true

instance (word : String) (chars : List Char) : Decidable (HasLetters word chars) :=
  inferInstanceAs (Decidable (_ = true))

/-- The word has letters, and no blank is one of them. -/
def IsSolid (word : String) : Prop := word.toList ≠ [] ∧ Outside ' ' word.toList

instance (word : String) : Decidable (IsSolid word) :=
  decidable_of_iff
    (word.toList ≠ [] ∧ word.toList.all (fun want => caseKey want != caseKey ' ') = true)
    (and_congr_right fun _ => by simp [Outside])

theorem dropWord?_nil {word : List Char} (h : word ≠ []) : dropWord? word [] = none := by
  cases word with
  | nil => exact absurd rfl h
  | cons want more => rfl

/-- The letters of a word do not reach over a blank. -/
theorem hasLetters_append {word : String} (h : IsSolid word) (before more : List Char) :
    HasLetters word (before ++ ' ' :: more) ↔
      HasLetters word before ∨ HasLetters word more := by
  unfold HasLetters
  induction before with
  | nil =>
    have hblank := dropWord?_append h.2 [] more
    rw [dropWord?_nil h.1] at hblank
    rw [List.nil_append] at hblank ⊢
    rw [occurs_cons, hblank]
    simp [occurs, search, dropWord?_nil h.1]
  | cons c before ih =>
    have hseam := dropWord?_append h.2 (c :: before) more
    rw [List.cons_append] at hseam ⊢
    rw [occurs_cons, occurs_cons, hseam, Option.isSome_map, Bool.or_eq_true, ih, Bool.or_eq_true,
      or_assoc]

end Letters

/-! ## Phrases -/

section Phrases

variable {words : List String} {start : Option Char} {front : List Char}

theorem dropBlanks_append_blank (front more : List Char) :
    dropBlanks (front ++ ' ' :: more) =
      if dropBlanks front = [] then dropBlanks more else dropBlanks front ++ ' ' :: more := by
  have hblank : (' ' :: more).dropWhile isBlank = dropBlanks more := rfl
  unfold dropBlanks at hblank ⊢
  rw [List.dropWhile_append, hblank]
  simp only [List.isEmpty_iff]

theorem dropGap?_cons (c : Char) (more : List Char) :
    dropGap? (c :: more) = if isBlank c then some (dropBlanks more) else none := rfl

theorem dropPhrase?_cons {next : String} {word : String} (more : List String) (chars : List Char) :
    dropPhrase? (word :: next :: more) chars =
      ((dropWord? word.toList chars).bind dropGap?).bind (dropPhrase? (next :: more)) := by
  rw [Option.bind_assoc]
  rfl

theorem dropPhrase?_nil_text {word : String} (h : word.toList ≠ []) (more : List String) :
    dropPhrase? (word :: more) [] = none := by
  cases more with
  | nil => exact dropWord?_nil h
  | cons next more =>
    rw [dropPhrase?_cons, dropWord?_nil h]
    rfl

/-- A phrase does not reach over a blank behind which none of its later words stands. -/
theorem dropPhrase?_append (hwords : ∀ word ∈ words, IsSolid word) (hne : words ≠ [])
    (hmore : ∀ word ∈ words.tail, dropWord? word.toList (dropBlanks more) = none)
    (front : List Char) :
    dropPhrase? words (front ++ ' ' :: more) =
      (dropPhrase? words front).map (· ++ ' ' :: more) := by
  induction words generalizing front with
  | nil => exact absurd rfl hne
  | cons word words ih =>
    have hword := hwords word List.mem_cons_self
    have hread := dropWord?_append hword.2 front more
    cases words with
    | nil => exact hread
    | cons next words =>
      have hnext := hwords next (List.mem_cons_of_mem _ List.mem_cons_self)
      have hbehind : dropPhrase? (next :: words) (dropBlanks more) = none := by
        have hfails := hmore next List.mem_cons_self
        cases words with
        | nil => exact hfails
        | cons other words =>
          rw [dropPhrase?_cons, hfails]
          rfl
      have hrest := ih (fun word hmem => hwords word (List.mem_cons_of_mem _ hmem))
        (List.cons_ne_nil _ _) fun word hmem => hmore word (List.mem_cons_of_mem _ hmem)
      rw [dropPhrase?_cons, dropPhrase?_cons, hread]
      cases dropWord? word.toList front with
      | none => rfl
      | some left =>
        rw [Option.map_some, Option.bind_some, Option.bind_some]
        cases left with
        | nil =>
          show dropPhrase? (next :: words) (dropBlanks more) = none
          exact hbehind
        | cons c left =>
          rw [List.cons_append, dropGap?_cons, dropGap?_cons]
          by_cases hc : isBlank c = true
          · rw [if_pos hc, if_pos hc, Option.bind_some, Option.bind_some, dropBlanks_append_blank]
            split
            · next hblank => rw [hblank, dropPhrase?_nil_text hnext.1, hbehind]; rfl
            · exact hrest _
          · rw [if_neg hc, if_neg hc]
            rfl

/-- The words stand at the place as words of the text, one after the other. -/
def standsAlone (words : List String) (before : Option Char) (chars : List Char) : Bool :=
  !before.any isWord && (dropPhrase? words chars).any (!startsWithWord ·)

/-- The words stand somewhere in the text as words of it, one after the other and in any case. -/
def HasWords (words : List String) (chars : List Char) : Prop :=
  occursAfter (standsAlone words) none chars = true

instance (words : List String) (chars : List Char) : Decidable (HasWords words chars) :=
  inferInstanceAs (Decidable (_ = true))

theorem startsWithWord_append_blank (front more : List Char) :
    startsWithWord (front ++ ' ' :: more) = startsWithWord front := by
  cases front with
  | nil => rfl
  | cons c front => rfl

theorem occursAfter_of_blank (words : List String) (chars : List Char) :
    occursAfter (standsAlone words) (some ' ') chars =
      occursAfter (standsAlone words) none chars := by
  cases chars with
  | nil => rfl
  | cons c more => rfl

theorem occursAfter_append (hwords : ∀ word ∈ words, IsSolid word) (hne : words ≠ [])
    (hmore : ∀ word ∈ words.tail, dropWord? word.toList (dropBlanks more) = none)
    (front : List Char) :
    occursAfter (standsAlone words) start (front ++ ' ' :: more) =
      (occursAfter (standsAlone words) start front ||
        occursAfter (standsAlone words) none more) := by
  have hseam (before : Option Char) (front : List Char) :
      standsAlone words before (front ++ ' ' :: more) = standsAlone words before front := by
    unfold standsAlone
    rw [dropPhrase?_append hwords hne hmore]
    cases dropPhrase? words front with
    | none => rfl
    | some left => rw [Option.map_some, Option.any_some, startsWithWord_append_blank]; rfl
  induction front generalizing start with
  | nil =>
    have hblank := hseam start []
    show (standsAlone words start (' ' :: more) ||
      occursAfter (standsAlone words) (some ' ') more) = _
    rw [List.nil_append] at hblank
    rw [hblank, occursAfter_of_blank, occursAfter]
  | cons c front ih =>
    have hhead := hseam start (c :: front)
    rw [List.cons_append] at hhead ⊢
    rw [occursAfter, occursAfter, hhead, ih, Bool.or_assoc]

/-- A phrase stands in a part of a text that is put together, unless it goes on behind the seam. -/
theorem hasWords_append (hwords : ∀ word ∈ words, IsSolid word) (hne : words ≠ [])
    (hmore : ∀ word ∈ words.tail, dropWord? word.toList (dropBlanks more) = none)
    (front : List Char) :
    HasWords words (front ++ ' ' :: more) ↔ HasWords words front ∨ HasWords words more := by
  unfold HasWords
  rw [occursAfter_append hwords hne hmore, Bool.or_eq_true]

/-- A blank at the front of a text is no word. -/
theorem hasWords_blank {word : String} {more : List String} (h : IsSolid word) :
    HasWords (word :: more) (' ' :: chars) ↔ HasWords (word :: more) chars := by
  have hblank : dropPhrase? (word :: more) (' ' :: chars) = none := by
    have hword : dropWord? word.toList (' ' :: chars) = none := by
      have hseam := dropWord?_append h.2 [] chars
      rwa [dropWord?_nil h.1] at hseam
    cases more with
    | nil => exact hword
    | cons next more =>
      rw [dropPhrase?_cons, hword]
      rfl
  have hhead : standsAlone (word :: more) none (' ' :: chars) = false := by
    rw [standsAlone, hblank]
    rfl
  unfold HasWords
  rw [occursAfter, hhead, Bool.false_or, occursAfter_of_blank]

/-! ## Phrases between gaps -/

def dropSpaced? (words : List String) (chars : List Char) : Option (List Char) :=
  ((dropGap? chars).bind (dropPhrase? words)).bind dropGap?

/-- A phrase between gaps stands alone. -/
theorem nowhere_dropSpaced? (h : ¬ HasWords words chars) : Nowhere (dropSpaced? words) chars := by
  intro rest _ hsuffix
  rw [Option.eq_none_iff_forall_ne_some]
  intro left hread
  obtain ⟨behind, hbehind, hgap⟩ := Option.bind_eq_some_iff.mp hread
  obtain ⟨phrase, hphrase, hwords⟩ := Option.bind_eq_some_iff.mp hbehind
  obtain ⟨before, hrest, hbefore, -⟩ := dropGap?_eq_some_iff.mp hphrase
  obtain ⟨after, rfl, hafter, -⟩ := dropGap?_eq_some_iff.mp hgap
  obtain ⟨passed, rfl⟩ := hsuffix
  have hlast : ((passed ++ before).getLast?.or none).any isWord = false := by
    rw [List.getLast?_append, List.getLast?_eq_some_getLast hbefore.1]
    exact isWord_of_isBlank (hbefore.2 _ (List.getLast_mem hbefore.1))
  have hnext : startsWithWord (after ++ left) = false := by
    obtain ⟨c, more, rfl, hc⟩ := IsRun.exists_cons hafter
    exact isWord_of_isBlank hc
  refine h (occursAfter_eq_true_iff.mpr ⟨passed ++ before, phrase, ?_, ?_⟩)
  · rw [hrest, List.append_assoc]
  · rw [standsAlone, hlast, hwords, Option.any_some, hnext]
    rfl

/-- Where a word stands before a blank, the blank can only be the gap behind it. -/
theorem dropSpaced?_word {word : String} (h : IsSolid word) (hfront : dropBlanks front ≠ [])
    (more : List Char) :
    dropSpaced? [word] (front ++ ' ' :: more) =
      ((dropGap? front).bind (dropWord? word.toList)).bind fun left =>
        dropGap? (left ++ ' ' :: more) := by
  cases front with
  | nil => exact absurd rfl hfront
  | cons c front =>
    unfold dropSpaced?
    rw [List.cons_append, dropGap?_cons, dropGap?_cons]
    by_cases hc : isBlank c = true
    · have hkept : dropBlanks front ≠ [] := by simpa [dropBlanks, hc] using hfront
      rw [if_pos hc, if_pos hc, dropBlanks_append_blank, if_neg hkept, Option.bind_some,
        Option.bind_some, dropPhrase?, dropWord?_append h.2]
      cases dropWord? word.toList (dropBlanks front) <;> rfl
    · rw [if_neg hc, if_neg hc]
      rfl

/-- A word between gaps that does not stand before a blank does not stand before other text
either. -/
theorem dropSpaced?_append {word : String} (h : IsSolid word) (hfront : dropBlanks front ≠ [])
    (hread : dropSpaced? [word] (front ++ [' ']) = none) (more : List Char) :
    dropSpaced? [word] (front ++ ' ' :: more) = none := by
  rw [dropSpaced?_word h hfront] at hread ⊢
  cases hword : (dropGap? front).bind (dropWord? word.toList) with
  | none => rfl
  | some left =>
    rw [hword, Option.bind_some] at hread
    rw [Option.bind_some]
    cases left with
    | nil => cases hread
    | cons c left =>
      rw [List.cons_append, dropGap?_cons] at hread ⊢
      by_cases hc : isBlank c = true
      · rw [if_pos hc] at hread
        cases hread
      · rw [if_neg hc]

end Phrases

end SqlToolkit.Text
