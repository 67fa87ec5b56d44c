import SqlToolkit.Proofs.Text.Blank
import SqlToolkit.Text.Scan

/-!
# What the readers read

Each reader is described by the texts that it takes off the front, and by what it insists on in the
text that follows. A reader of runs or gaps goes as far as it can, so what follows may not go on in
the same way; a reader of words does not look ahead.
-/

namespace SqlToolkit.Text

variable {chars rest : List Char}

/-! ## Kinds of text -/

def SameWord (word written : List Char) : Prop := written.map caseKey = word.map caseKey

/-- Characters of one kind, at least one. -/
def IsRun (accept : Char → Bool) (run : List Char) : Prop :=
  run ≠ [] ∧ ∀ c ∈ run, accept c = true

def IsGap (gap : List Char) : Prop := IsRun isBlank gap

/-- The text does not go on with a character of the kind. -/
def StopsAt (accept : Char → Bool) (rest : List Char) : Prop := ∀ c ∈ rest.head?, accept c = false

theorem SameWord.refl (word : List Char) : SameWord word word := rfl

theorem stopsAt_nil (accept : Char → Bool) : StopsAt accept [] := by simp [StopsAt]

theorem stopsAt_cons {accept : Char → Bool} {c : Char} :
    StopsAt accept (c :: rest) ↔ accept c = false := by simp [StopsAt]

theorem IsRun.of_all {accept : Char → Bool} {run : List Char} (hne : run ≠ [])
    (h : run.all accept = true) : IsRun accept run := ⟨hne, List.all_eq_true.mp h⟩

/-- A run begins with a character of its kind. -/
theorem IsRun.exists_cons {accept : Char → Bool} {run : List Char} (h : IsRun accept run) :
    ∃ c more, run = c :: more ∧ accept c = true := by
  obtain ⟨c, more, rfl⟩ := List.exists_cons_of_ne_nil h.1
  exact ⟨c, more, rfl, h.2 c List.mem_cons_self⟩

/-- A run of another kind may follow where a kind stops. -/
theorem IsRun.stopsAt {accept other : Char → Bool} {run : List Char} (h : IsRun accept run)
    (apart : ∀ c, accept c = true → other c = false) (rest : List Char) :
    StopsAt other (run ++ rest) := by
  obtain ⟨c, more, rfl, hc⟩ := h.exists_cons
  exact stopsAt_cons.mpr (apart c hc)

/-- An end of a text ends as the text does. -/
theorem StopsAt.reverse_of_suffix {accept : Char → Bool} {back : List Char}
    (h : StopsAt accept chars.reverse) (hsuffix : back <:+ chars) :
    StopsAt accept back.reverse := by
  obtain ⟨front, hfront⟩ := List.reverse_prefix.mpr hsuffix
  intro c hc
  refine h c ?_
  rw [← hfront, List.head?_append, Option.mem_def.mp hc]
  rfl

/-! ## Runs and gaps -/

theorem takeWhile_append_of_stopsAt {accept : Char → Bool} {run : List Char}
    (hrun : ∀ c ∈ run, accept c = true) (hrest : StopsAt accept rest) :
    (run ++ rest).takeWhile accept = run ∧ (run ++ rest).dropWhile accept = rest := by
  rw [List.takeWhile_append_of_pos hrun, List.dropWhile_append_of_pos hrun]
  cases rest with
  | nil => simp
  | cons c more =>
    have hc := stopsAt_cons.mp hrest
    simp [hc]

theorem stopsAt_dropWhile (accept : Char → Bool) (chars : List Char) :
    StopsAt accept (chars.dropWhile accept) := by
  intro c hc
  have h := List.head?_dropWhile_not accept chars
  rw [Option.mem_def.mp hc] at h
  simpa using h

theorem takeRun?_eq_some_iff {accept : Char → Bool} {run : List Char} :
    takeRun? accept chars = some (run, rest) ↔
      chars = run ++ rest ∧ IsRun accept run ∧ StopsAt accept rest := by
  constructor
  · intro h
    obtain ⟨hchars, hne, hrun⟩ := of_takeRun? h
    refine ⟨hchars, ⟨hne, hrun⟩, ?_⟩
    unfold takeRun? at h
    split at h
    · cases h
    · obtain ⟨-, rfl⟩ := by simpa using h
      exact stopsAt_dropWhile accept chars
  · rintro ⟨rfl, ⟨hne, hrun⟩, hrest⟩
    obtain ⟨htake, hdrop⟩ := takeWhile_append_of_stopsAt hrun hrest
    unfold takeRun?
    rw [htake, hdrop]
    split
    · exact absurd rfl hne
    · rfl

theorem dropBlanks_append {blanks : List Char} (hblanks : ∀ c ∈ blanks, isBlank c = true)
    (hrest : StopsAt isBlank rest) : dropBlanks (blanks ++ rest) = rest :=
  (takeWhile_append_of_stopsAt hblanks hrest).2

theorem dropBlanks_of_stopsAt (h : StopsAt isBlank chars) : dropBlanks chars = chars := by
  have hb : ∀ c ∈ ([] : List Char), isBlank c = true := nofun
  exact dropBlanks_append hb h

/-- What stands before the text without its blanks is blank. -/
theorem exists_blanks_dropBlanks (chars : List Char) :
    ∃ blanks, chars = blanks ++ dropBlanks chars ∧ (∀ c ∈ blanks, isBlank c = true) ∧
      StopsAt isBlank (dropBlanks chars) :=
  ⟨chars.takeWhile isBlank, List.takeWhile_append_dropWhile.symm,
    fun c hc => List.all_eq_true.mp List.all_takeWhile c hc, stopsAt_dropWhile isBlank chars⟩

theorem dropBlanks_dropBlanks_append (chars more : List Char) :
    dropBlanks (dropBlanks chars ++ more) = dropBlanks (chars ++ more) := by
  obtain ⟨blanks, hchars, hblanks, -⟩ := exists_blanks_dropBlanks chars
  calc dropBlanks (dropBlanks chars ++ more)
      = dropBlanks (blanks ++ (dropBlanks chars ++ more)) :=
        (List.dropWhile_append_of_pos hblanks).symm
    _ = dropBlanks (chars ++ more) := by rw [← List.append_assoc, ← hchars]

theorem dropGap?_eq_some_iff :
    dropGap? chars = some rest ↔
      ∃ gap, chars = gap ++ rest ∧ IsGap gap ∧ StopsAt isBlank rest := by
  constructor
  · intro h
    cases chars with
    | nil => cases h
    | cons c more =>
      by_cases hc : isBlank c = true
      · rw [dropGap?, if_pos hc] at h
        cases h
        obtain ⟨blanks, hmore, hblanks, hstop⟩ := exists_blanks_dropBlanks more
        have hgap : ∀ d ∈ c :: blanks, isBlank d = true := by simpa [hc] using hblanks
        exact ⟨c :: blanks, congrArg (c :: ·) hmore, ⟨List.cons_ne_nil _ _, hgap⟩, hstop⟩
      · rw [dropGap?, if_neg hc] at h
        cases h
  · rintro ⟨gap, rfl, hgap, hstop⟩
    obtain ⟨c, more, rfl, hc⟩ := IsRun.exists_cons hgap
    have hmore : ∀ d ∈ more, isBlank d = true := fun d hd => hgap.2 d (List.mem_cons_of_mem c hd)
    rw [List.cons_append, dropGap?, if_pos hc, dropBlanks_append hmore hstop]

/-! ## Trimming -/

/-- Trimming takes off blanks at both ends until a character that is none. -/
theorem trimChars_append {before kept after : List Char} (hb : ∀ c ∈ before, isBlank c = true)
    (ha : ∀ c ∈ after, isBlank c = true) (hfirst : StopsAt isBlank kept)
    (hlast : StopsAt isBlank kept.reverse) : trimChars (before ++ (kept ++ after)) = kept := by
  have hrev : ∀ c ∈ after.reverse, isBlank c = true := fun c hc => ha c (List.mem_reverse.mp hc)
  unfold trimChars
  cases kept with
  | nil =>
    have hall : ∀ c ∈ before ++ after, isBlank c = true := by
      intro c hc
      exact (List.mem_append.mp hc).elim (hb c) (ha c)
    have hdrop := dropBlanks_append hall (stopsAt_nil isBlank)
    rw [List.append_nil] at hdrop
    rw [List.nil_append, hdrop]
    rfl
  | cons c more =>
    have hc : StopsAt isBlank (c :: more ++ after) := stopsAt_cons.mpr (stopsAt_cons.mp hfirst)
    rw [dropBlanks_append hb hc, List.reverse_append, dropBlanks_append hrev hlast,
      List.reverse_reverse]

theorem trimChars_of_stopsAt (hfirst : StopsAt isBlank chars)
    (hlast : StopsAt isBlank chars.reverse) : trimChars chars = chars := by
  rw [trimChars, dropBlanks_of_stopsAt hfirst, dropBlanks_of_stopsAt hlast, List.reverse_reverse]

/-- Blanks are trimmed off the end only up to a character that is none. -/
theorem trimChars_eq_append {kept : List Char} (hdrop : dropBlanks chars = kept ++ rest)
    (hkept : ∀ c ∈ kept, isBlank c = false) :
    ∃ more dropped, rest = more ++ dropped ∧ trimChars chars = kept ++ more := by
  obtain ⟨blanks, hrest, hblanks, hstop⟩ := exists_blanks_dropBlanks rest.reverse
  have hend : StopsAt isBlank (dropBlanks rest.reverse ++ kept.reverse) := by
    cases hd : dropBlanks rest.reverse with
    | nil =>
      intro c hc
      exact hkept c (List.mem_reverse.mp (List.mem_of_mem_head? hc))
    | cons c more => exact stopsAt_cons.mpr (stopsAt_cons.mp (hd ▸ hstop))
  have hback : (kept ++ rest).reverse = blanks ++ (dropBlanks rest.reverse ++ kept.reverse) := by
    rw [List.reverse_append, ← List.append_assoc, ← hrest]
  refine ⟨(dropBlanks rest.reverse).reverse, blanks.reverse, ?_, ?_⟩
  · rw [← List.reverse_append, ← hrest, List.reverse_reverse]
  · rw [trimChars, hdrop, hback, dropBlanks_append hblanks hend, List.reverse_append,
      List.reverse_reverse]

/-- Of a text that does not begin with blanks, trimming takes off those at the end. -/
theorem exists_blanks_trimChars (h : StopsAt isBlank chars) :
    ∃ blanks, chars = trimChars chars ++ blanks ∧ (∀ c ∈ blanks, isBlank c = true) ∧
      StopsAt isBlank (trimChars chars).reverse := by
  obtain ⟨blanks, hchars, hblanks, hstop⟩ := exists_blanks_dropBlanks chars.reverse
  refine ⟨blanks.reverse, ?_, fun c hc => hblanks c (List.mem_reverse.mp hc), ?_⟩
  · rw [trimChars, dropBlanks_of_stopsAt h, ← List.reverse_append, ← hchars, List.reverse_reverse]
  · rw [trimChars, dropBlanks_of_stopsAt h, List.reverse_reverse]
    exact hstop

theorem trimChars_dropBlanks (chars : List Char) :
    trimChars (dropBlanks chars) = trimChars chars := by
  have hsame : dropBlanks (dropBlanks chars) = dropBlanks chars :=
    dropBlanks_of_stopsAt (stopsAt_dropWhile isBlank chars)
  rw [trimChars, hsame, trimChars]

/-- A trimmed text has no blanks at its ends. -/
theorem stopsAt_trimChars (chars : List Char) :
    StopsAt isBlank (trimChars chars) ∧ StopsAt isBlank (trimChars chars).reverse := by
  have hstart : StopsAt isBlank (dropBlanks chars) := stopsAt_dropWhile isBlank chars
  obtain ⟨blanks, hchars, -, hend⟩ := exists_blanks_trimChars hstart
  rw [trimChars_dropBlanks] at hchars hend
  refine ⟨?_, hend⟩
  cases hkept : trimChars chars with
  | nil => exact stopsAt_nil isBlank
  | cons c more =>
    rw [hchars, hkept] at hstart
    exact stopsAt_cons.mpr (stopsAt_cons.mp hstart)

theorem trimChars_trimChars (chars : List Char) : trimChars (trimChars chars) = trimChars chars :=
  trimChars_of_stopsAt (stopsAt_trimChars chars).1 (stopsAt_trimChars chars).2

/-- Only blanks are lost by trimming. -/
theorem exists_trimChars (chars : List Char) :
    ∃ before after, chars = before ++ (trimChars chars ++ after) ∧
      (∀ c ∈ before, isBlank c = true) ∧ ∀ c ∈ after, isBlank c = true := by
  obtain ⟨before, hfront, hb, -⟩ := exists_blanks_dropBlanks chars
  obtain ⟨after, hback, ha, -⟩ := exists_blanks_dropBlanks (dropBlanks chars).reverse
  refine ⟨before, after.reverse, ?_, hb, fun c hc => ha c (List.mem_reverse.mp hc)⟩
  have hkept := congrArg List.reverse hback
  rw [List.reverse_reverse, List.reverse_append] at hkept
  rw [trimChars, ← hkept]
  exact hfront

/-! ## Words -/

theorem dropWord?_eq_some_iff {word : List Char} :
    dropWord? word chars = some rest ↔
      ∃ written, chars = written ++ rest ∧ SameWord word written := by
  induction word generalizing chars with
  | nil => simp [dropWord?, SameWord, eq_comm]
  | cons want more ih =>
    cases chars with
    | nil => simp [dropWord?, SameWord]
    | cons c cs =>
      by_cases h : caseKey want = caseKey c
      · simp only [dropWord?, sameLetter, h, beq_self_eq_true, if_true, ih]
        constructor
        · rintro ⟨written, rfl, hw⟩
          refine ⟨c :: written, rfl, ?_⟩
          rw [SameWord, List.map_cons, List.map_cons, h, show _ = _ from hw]
        · rintro ⟨written, hcs, hw⟩
          cases written with
          | nil => simp [SameWord] at hw
          | cons d written =>
            obtain ⟨rfl, rfl⟩ := List.cons.inj hcs
            exact ⟨written, rfl, (List.cons.inj hw).2⟩
      · simp only [dropWord?, sameLetter, beq_eq_false_iff_ne.mpr h, Bool.false_eq_true, if_false,
          reduceCtorEq, false_iff]
        rintro ⟨written, hcs, hw⟩
        cases written with
        | nil => simp [SameWord] at hw
        | cons d written =>
          obtain ⟨rfl, -⟩ := List.cons.inj hcs
          exact h (List.cons.inj hw).1.symm

/-- A word begins with its first letter in one case or the other. -/
theorem SameWord.exists_cons {first : Char} {word written : List Char}
    (h : SameWord (first :: word) written) :
    ∃ c more, written = c :: more ∧ caseKey c = caseKey first := by
  cases written with
  | nil => cases h
  | cons c more => exact ⟨c, more, rfl, (List.cons.inj h).1⟩

/-- Each letter of a word is one of the word's own, in one case or the other. -/
theorem SameWord.exists_mem {word written : List Char} (h : SameWord word written) {c : Char}
    (hc : c ∈ written) : ∃ want ∈ word, caseKey c = caseKey want := by
  have hkey : caseKey c ∈ word.map caseKey := by
    rw [← show _ = _ from h]
    exact List.mem_map_of_mem hc
  obtain ⟨want, hwant, hsame⟩ := List.mem_map.mp hkey
  exact ⟨want, hwant, hsame.symm⟩

/-- A word is not read where another one stands that begins with another letter. -/
theorem dropWord?_of_sameWord {want first : Char} {more word written : List Char}
    (h : SameWord (first :: word) written) (hne : caseKey want ≠ caseKey first) :
    dropWord? (want :: more) (written ++ rest) = none := by
  obtain ⟨c, written, rfl, hc⟩ := h.exists_cons
  simp [dropWord?, sameLetter, hc, hne]

/-- The character is no letter of the word. -/
def Outside (stop : Char) (word : List Char) : Prop := ∀ want ∈ word, caseKey want ≠ caseKey stop

theorem Outside.of_all {stop : Char} {word : List Char}
    (h : (word.all fun want => caseKey want != caseKey stop) = true) : Outside stop word :=
  fun want hw => by simpa using List.all_eq_true.mp h want hw

/-- A word is not read across a character that is none of its letters. -/
theorem dropWord?_append {word : List Char} {stop : Char} (h : Outside stop word)
    (chars more : List Char) :
    dropWord? word (chars ++ stop :: more) =
      (dropWord? word chars).map (· ++ stop :: more) := by
  induction word generalizing chars with
  | nil => rfl
  | cons want word ih =>
    cases chars with
    | nil => simp [dropWord?, sameLetter, h want List.mem_cons_self]
    | cons c cs =>
      have hword := ih (fun w hw => h w (List.mem_cons_of_mem want hw)) cs
      by_cases hc : sameLetter want c = true
      · simpa [dropWord?, hc] using hword
      · simp [dropWord?, hc]

/-- A word whose first letter is no blank may stand where blanks end. -/
theorem SameWord.stopsAt_isBlank {first : Char} {word written : List Char}
    (h : SameWord (first :: word) written) (hf : isBlank (caseKey first) = false)
    (rest : List Char) : StopsAt isBlank (written ++ rest) := by
  obtain ⟨c, written, rfl, hc⟩ := h.exists_cons
  exact stopsAt_cons.mpr (isBlank_of_caseKey_eq hc hf)

/-! ## Searching -/

variable {α : Type} {reader : List Char → Option α} {before : List Char} {answer : α}

/-- What is found is read at the position where it is found. -/
theorem of_search (h : search reader chars = some (before, answer)) :
    ∃ rest, chars = before ++ rest ∧ reader rest = some answer := by
  induction chars generalizing before with
  | nil =>
    obtain ⟨found, hf, heq⟩ := Option.map_eq_some_iff.mp h
    cases heq
    exact ⟨[], rfl, hf⟩
  | cons c more ih =>
    unfold search at h
    split at h
    · next found hf =>
      cases h
      exact ⟨c :: more, rfl, hf⟩
    · obtain ⟨⟨passed, found⟩, hs, heq⟩ := Option.map_eq_some_iff.mp h
      cases heq
      obtain ⟨rest, rfl, hr⟩ := ih hs
      exact ⟨rest, rfl, hr⟩

theorem search_of_reads (h : reader chars = some answer) :
    search reader chars = some ([], answer) := by
  cases chars with
  | nil => simp [search, h]
  | cons c more => simp [search, h]

/-- A search passes over a text where the reader fails at every character. -/
theorem search_behind {passed : List Char}
    (h : ∀ front, front ≠ [] → front <:+ passed → reader (front ++ rest) = none)
    (hread : reader rest = some answer) : search reader (passed ++ rest) = some (passed, answer) := by
  induction passed with
  | nil => exact search_of_reads hread
  | cons c passed ih =>
    have hhead := h (c :: passed) (List.cons_ne_nil _ _) List.suffix_rfl
    have hrest := ih fun front hne hsuffix =>
      h front hne (hsuffix.trans (List.suffix_cons c passed))
    rw [List.cons_append] at hhead ⊢
    rw [search, hhead, hrest]
    rfl

/-- Where nothing can be read before, the search goes on. -/
theorem search_past {passed : List Char} (hp : ∀ c ∈ passed, ∀ more, reader (c :: more) = none)
    (rest : List Char) :
    search reader (passed ++ rest) =
      (search reader rest).map fun found => (passed ++ found.1, found.2) := by
  induction passed with
  | nil => simp
  | cons c more ih =>
    have hmore := ih fun d hd => hp d (List.mem_cons_of_mem c hd)
    rw [List.cons_append, search, hp c List.mem_cons_self, hmore, Option.map_map]
    rfl

theorem search_append {passed : List Char} (hp : ∀ c ∈ passed, ∀ more, reader (c :: more) = none)
    (h : reader rest = some answer) : search reader (passed ++ rest) = some (passed, answer) := by
  rw [search_past hp, search_of_reads h, Option.map_some, List.append_nil]

/-- A reader that looks back is tried at every position, with the character before it. -/
theorem occursAfter_eq_true_iff {accept : Option Char → List Char → Bool} {start : Option Char} :
    occursAfter accept start chars = true ↔
      ∃ before rest, chars = before ++ rest ∧ accept (before.getLast?.or start) rest = true := by
  induction chars generalizing start with
  | nil =>
    constructor
    · intro h
      exact ⟨[], [], rfl, h⟩
    · rintro ⟨before, rest, hsplit, h⟩
      obtain ⟨rfl, rfl⟩ := List.append_eq_nil_iff.mp hsplit.symm
      exact h
  | cons c more ih =>
    have hlast (before : List Char) :
        (c :: before).getLast?.or start = before.getLast?.or (some c) := by
      rw [List.getLast?_cons]
      cases before.getLast? <;> rfl
    rw [occursAfter, Bool.or_eq_true, ih]
    constructor
    · rintro (h | ⟨before, rest, rfl, h⟩)
      · exact ⟨[], c :: more, rfl, h⟩
      · exact ⟨c :: before, rest, rfl, (hlast before) ▸ h⟩
    · rintro ⟨before, rest, hsplit, h⟩
      cases before with
      | nil => exact .inl (hsplit ▸ h)
      | cons d before =>
        obtain ⟨rfl, rfl⟩ := List.cons.inj hsplit
        exact .inr ⟨before, rest, rfl, (hlast before) ▸ h⟩

end SqlToolkit.Text
