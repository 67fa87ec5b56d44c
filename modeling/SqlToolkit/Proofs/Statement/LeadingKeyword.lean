import SqlToolkit.Proofs.Text.Capital
import SqlToolkit.Proofs.Text.Scan
import SqlToolkit.Statement.Keyword

/-!
# The first word of a statement

A package that reads SQL leaves a first word and the blank after it apart from what follows, and
changes nothing but blanks in front of what could begin a comment. So a keyword with a blank behind
it is the first word of its text when the comments are left out, whatever follows; another character
that is no parenthesis and begins no comment becomes part of that word.
-/

namespace SqlToolkit

open SqlToolkit.Text SqlToolkit.Lexer

/-! ## Texts with other blanks -/

namespace Respaced

variable {front back chars kept : List Char}

theorem of_append (h : Respaced (front ++ back) kept) :
    ∃ first second, kept = first ++ second ∧ Respaced front first ∧ Respaced back second := by
  induction front generalizing kept with
  | nil => exact ⟨[], kept, rfl, .nil, h⟩
  | cons c front ih =>
    cases h with
    | keep _ h =>
      obtain ⟨first, second, rfl, hfirst, hsecond⟩ := ih h
      exact ⟨c :: first, second, rfl, .keep c hfirst, hsecond⟩
    | drop hblank h =>
      obtain ⟨first, second, rfl, hfirst, hsecond⟩ := ih h
      exact ⟨first, second, rfl, .drop hblank hfirst, hsecond⟩
    | replace hblank hother h =>
      obtain ⟨first, second, rfl, hfirst, hsecond⟩ := ih h
      exact ⟨_ :: first, second, rfl, .replace hblank hother hfirst, hsecond⟩

/-- What has no blanks stays. -/
theorem eq_of_no_blank (h : Respaced chars kept) (hchars : ∀ c ∈ chars, isBlank c = false) :
    kept = chars := by
  induction h with
  | nil => rfl
  | keep c _ ih => rw [ih (List.forall_mem_cons.mp hchars).2]
  | drop hblank _ _ | replace hblank _ _ _ =>
    cases ((List.forall_mem_cons.mp hchars).1).symm.trans hblank

/-- What each character is, or what each blank is, each character that is left is as well. -/
theorem forall_mem {P : Char → Prop} (h : Respaced chars kept)
    (hblank : ∀ c, isBlank c = true → P c) (hchars : ∀ c ∈ chars, P c) : ∀ c ∈ kept, P c := by
  induction h with
  | nil => exact hchars
  | keep c _ ih =>
    obtain ⟨hc, hrest⟩ := List.forall_mem_cons.mp hchars
    exact List.forall_mem_cons.mpr ⟨hc, ih hrest⟩
  | drop _ _ ih => exact ih (List.forall_mem_cons.mp hchars).2
  | replace _ hother _ ih =>
    exact List.forall_mem_cons.mpr ⟨hblank _ hother, ih (List.forall_mem_cons.mp hchars).2⟩

end Respaced

namespace Statement

theorem upperChar_of_isBlank {c : Char} (h : isBlank c = true) : upperChar c = [c] :=
  of_isBlank (P := fun c => upperChar c = [c]) (by decide +kernel) h

/-! ## Words -/

/-- A word as it may be written, and the word in capitals. -/
structure Capitals (written word : List Char) : Prop where
  upper : written.flatMap upperChar = word
  ascii : ∀ c ∈ word, isAsciiWord c = true
  nonempty : word ≠ []

namespace Capitals

variable {written word kept : List Char} {c : Char}

/-- Characters of words in ASCII have capital forms of one character each. -/
theorem of_ascii (hne : written ≠ []) (h : ∀ c ∈ written, isAsciiWord c = true) :
    Capitals written (written.map Char.toUpper) where
  upper := by
    have hletters : written.map upperChar = written.map fun c => [c.toUpper] :=
      List.map_congr_left fun c hc => upperChar_of_isAsciiWord (h c hc)
    rw [List.flatMap_def, hletters, ← List.flatMap_def, List.map_eq_flatMap]
  ascii := by
    intro c hc
    obtain ⟨letter, hletter, rfl⟩ := List.mem_map.mp hc
    exact isAsciiWord_toUpper (h letter hletter)
  nonempty := fun hnil => hne (List.map_eq_nil_iff.mp hnil)

/-- What has no other capital form is a letter of the word itself. -/
theorem isAsciiWord_of_mem (h : Capitals written word) (hc : c ∈ written)
    (hsame : upperChar c = [c]) : isAsciiWord c = true := by
  refine h.ascii c ?_
  rw [← h.upper]
  exact List.mem_flatMap.mpr ⟨c, hc, hsame ▸ List.mem_singleton_self c⟩

theorem isBlank_of_mem (h : Capitals written word) (hc : c ∈ written) : isBlank c = false := by
  refine Bool.eq_false_iff.mpr fun hblank => ?_
  have hascii := h.isAsciiWord_of_mem hc (upperChar_of_isBlank hblank)
  cases (isBlank_of_isAsciiWord hascii).symm.trans hblank

theorem opensComment_of_mem (h : Capitals written word) (hc : c ∈ written) :
    opensComment c = false := by
  refine Bool.eq_false_iff.mpr fun hopens => ?_
  have hcase : c = '-' ∨ c = '#' ∨ c = '/' := by simpa [opensComment, or_assoc] using hopens
  rcases hcase with rfl | rfl | rfl
  all_goals exact absurd (h.isAsciiWord_of_mem hc rfl) (by decide)

theorem written_ne_nil (h : Capitals written word) : written ≠ [] := by
  rintro rfl
  exact h.nonempty h.upper.symm

end Capitals

/-! ## What counts as a blank around the first word -/

theorem upperChar_of_endsKeyword {c : Char} (h : EndsKeyword c) : upperChar c = [c] := by
  rcases h with hblank | rfl
  · exact upperChar_of_isBlank hblank
  · decide

theorem isBlank_of_endsKeyword {c : Char} (h : EndsKeyword c) :
    isBlank (if c = '(' then ' ' else c) = true := by
  rcases h with hblank | rfl
  · split
    · rfl
    · exact hblank
  · rfl

/-- In capitals and with blanks in the place of parentheses, as the first word is looked for. -/
def opened (chars : List Char) : List Char :=
  (chars.flatMap upperChar).map fun c => if c = '(' then ' ' else c

/-- What becomes part of a word in front of the text. -/
def attached (chars : List Char) : List Char := (opened chars).takeWhile fun c => !isBlank c

theorem firstKeyword_upper (chars : List Char) :
    firstKeyword (chars.flatMap upperChar) = firstWord (opened chars) := rfl

theorem opened_append (front back : List Char) :
    opened (front ++ back) = opened front ++ opened back := by
  rw [opened, List.flatMap_append, List.map_append]
  rfl

theorem isBlank_of_mem_opened {chars : List Char} (h : ∀ c ∈ chars, EndsKeyword c) :
    ∀ c ∈ opened chars, isBlank c = true := by
  intro c hc
  obtain ⟨d, hd, rfl⟩ := List.mem_map.mp hc
  obtain ⟨written, hwritten, hupper⟩ := List.mem_flatMap.mp hd
  rw [upperChar_of_endsKeyword (h written hwritten)] at hupper
  obtain rfl := List.mem_singleton.mp hupper
  exact isBlank_of_endsKeyword (h d hwritten)

theorem attached_cons {c : Char} (h : ¬EndsKeyword c) (rest : List Char) :
    ∃ first more, attached (c :: rest) = first :: more ∧
      (isWord c = false → isAsciiWord first = false) := by
  obtain ⟨hblank, hparenthesis⟩ := not_or.mp h
  obtain ⟨first, more, hupper, hfirst, hopen, hmark⟩ :=
    exists_upperChar (Bool.eq_false_iff.mpr hblank) hparenthesis
  rw [attached, opened, List.flatMap_cons, hupper, List.cons_append, List.map_cons,
    if_neg hopen, List.takeWhile_cons, hfirst]
  exact ⟨first, _, rfl, hmark⟩

/-- Nothing becomes part of a word only in front of a blank or an opening parenthesis. -/
theorem attached_eq_nil_iff {chars : List Char} :
    attached chars = [] ↔ ∀ c ∈ chars.head?, EndsKeyword c := by
  cases chars with
  | nil => exact iff_of_true rfl nofun
  | cons c rest =>
    have hhead : (∀ d ∈ (c :: rest).head?, EndsKeyword d) ↔ EndsKeyword c :=
      ⟨fun h => h c rfl, fun h d hd => Option.some.inj hd ▸ h⟩
    rw [hhead]
    constructor
    · intro hnone
      refine Classical.byContradiction fun hmark => ?_
      obtain ⟨first, more, hmore, -⟩ := attached_cons hmark rest
      cases hnone.symm.trans hmore
    · intro hends
      rw [attached, opened, List.flatMap_cons, upperChar_of_endsKeyword hends,
        List.singleton_append, List.map_cons, List.takeWhile_cons, isBlank_of_endsKeyword hends]
      rfl

theorem firstWord_append_blanks {blanks : List Char} (chars : List Char)
    (h : ∀ c ∈ blanks, isBlank c = true) : firstWord (chars ++ blanks) = firstWord chars := by
  induction chars with
  | nil =>
    have hnone := dropBlanks_append h (stopsAt_nil isBlank)
    rw [List.append_nil] at hnone
    rw [firstWord, List.nil_append, hnone]
    rfl
  | cons c rest ih =>
    unfold firstWord dropBlanks at ih ⊢
    rw [List.cons_append, List.dropWhile_cons, List.dropWhile_cons]
    split
    · exact ih
    · rw [← List.cons_append, List.takeWhile_append]
      have hnone : blanks.takeWhile (fun c => !isBlank c) = [] := by
        cases blanks with
        | nil => rfl
        | cons blank more => rw [List.takeWhile_cons, h blank List.mem_cons_self]; rfl
      rw [hnone, List.append_nil]
      split
      · next hlength => exact ((List.takeWhile_prefix _).eq_of_length hlength).symm
      · rfl

theorem firstWord_blanks_append {blanks : List Char} (h : ∀ c ∈ blanks, isBlank c = true)
    (chars : List Char) : firstWord (blanks ++ chars) = firstWord chars := by
  unfold firstWord dropBlanks
  rw [List.dropWhile_append_of_pos h]

/-- Blanks at the ends of a text do not matter for its first word. -/
theorem firstWord_opened_trimChars (chars : List Char) :
    firstWord (opened (trimChars chars)) = firstWord (opened chars) := by
  obtain ⟨before, after, hchars, hbefore, hafter⟩ := exists_trimChars chars
  have hends {blanks : List Char} (h : ∀ c ∈ blanks, isBlank c = true) :
      ∀ c ∈ opened blanks, isBlank c = true := isBlank_of_mem_opened fun c hc => .inl (h c hc)
  conv => rhs; rw [hchars]
  rw [opened_append, opened_append, firstWord_blanks_append (hends hbefore),
    firstWord_append_blanks _ (hends hafter)]

/-- The first word goes on as long as no blank or parenthesis follows. -/
theorem Capitals.firstWord_opened {written word : List Char} (h : Capitals written word)
    (after : List Char) : firstWord (opened (written ++ after)) = word ++ attached after := by
  have hopen : opened written = word := by
    unfold opened
    rw [h.upper]
    refine (List.map_congr_left fun c hc => if_neg ?_).trans (List.map_id _)
    rintro rfl
    exact Bool.false_ne_true (h.ascii '(' hc)
  have hblank : ∀ c ∈ word, isBlank c = false := fun c hc => isBlank_of_isAsciiWord (h.ascii c hc)
  obtain ⟨c, letters, hword⟩ := List.exists_cons_of_ne_nil h.nonempty
  rw [opened_append, hopen, firstWord, dropBlanks_of_stopsAt (by
      rw [hword]
      exact stopsAt_cons.mpr (hblank c (hword ▸ List.mem_cons_self))),
    List.takeWhile_append_of_pos fun c hc => by rw [hblank c hc]; rfl]
  rfl

end Statement

open SqlToolkit.Statement

namespace SqlParser

variable (parser : SqlParser)

/-! ## Texts that begin with a word -/

/-- A statement is told by the first word of what is left of its text, with what is attached. -/
theorem toList_leadingKeyword {sql : String} {before written word after : List Char}
    (h : parser.uncommented sql.toList = before ++ (written ++ after))
    (hbefore : ∀ c ∈ before, EndsKeyword c) (hwritten : Capitals written word) :
    (parser.leadingKeyword sql).toList = word ++ attached after := by
  unfold leadingKeyword
  rw [String.toList_ofList, h, firstKeyword_upper, firstWord_opened_trimChars, opened_append,
    firstWord_blanks_append (isBlank_of_mem_opened hbefore), hwritten.firstWord_opened]

section Beginning

variable {sql : String} {front written word rest : List Char} {next : Char}
  (hsql : sql.toList = front ++ (written ++ next :: rest))
  (hfront : ∀ c ∈ front, EndsKeyword c) (hwritten : Capitals written word)

include hsql hfront hwritten

/-- A word of letters with a blank after it is what the statement is told by, unless it ends the
statement. -/
theorem leadingKeyword_of_gap (hletters : ∀ c ∈ word, c.isAlpha = true) (hgo : word ≠ ['G', 'O'])
    (hgap : isBlank next = true) : parser.leadingKeyword sql = String.ofList word := by
  obtain ⟨before, after, huncommented, hbefore, hafter⟩ := parser.apart front written next rest
    hfront hwritten.written_ne_nil (hwritten.upper.symm ▸ hletters) (hwritten.upper.symm ▸ hgo) hgap
  rw [← hsql] at huncommented
  rw [← String.toList_inj, parser.toList_leadingKeyword huncommented hbefore hwritten,
    attached_eq_nil_iff.mpr fun c hc => .inl (hafter c hc), List.append_nil, String.toList_ofList]

/-- A word with a mark after it is not told apart from the mark. -/
theorem leadingKeyword_of_mark (hmark : isBlank next = false) (hnext : opensComment next = false)
    (hupper : upperChar next = [next]) (hparenthesis : next ≠ '(') :
    ∃ more, (parser.leadingKeyword sql).toList = word ++ next :: more := by
  have hkept : ∀ c ∈ written ++ [next], isBlank c = false := by
    intro c hc
    rcases List.mem_append.mp hc with hw | hlast
    · exact hwritten.isBlank_of_mem hw
    · rwa [List.mem_singleton.mp hlast]
  have hplain : ∀ c ∈ front ++ (written ++ [next]), opensComment c = false := by
    intro c hc
    simp only [List.mem_append, List.mem_singleton] at hc
    rcases hc with hends | hw | rfl
    · exact opensComment_of_endsKeyword (hfront c hends)
    · exact hwritten.opensComment_of_mem hw
    · exact hnext
  obtain ⟨kept, more, hrespaced, huncommented⟩ := parser.respaced_front _ rest hplain
  obtain ⟨before, same, rfl, hbefore, hsame⟩ := hrespaced.of_append
  obtain rfl := hsame.eq_of_no_blank hkept
  have hleft : parser.uncommented sql.toList = before ++ (written ++ next :: more) := by
    have hsplit : sql.toList = front ++ (written ++ [next]) ++ rest := by
      rw [hsql]
      simp
    rw [hsplit, huncommented]
    simp
  rw [parser.toList_leadingKeyword hleft (hbefore.forall_mem (fun _ => .inl) hfront) hwritten,
    attached, opened, List.flatMap_cons, hupper, List.singleton_append, List.map_cons,
    if_neg hparenthesis, List.takeWhile_cons, hmark]
  exact ⟨_, rfl⟩

end Beginning

/-! ## Reads -/

/-- A statement that begins with one of the words for reads and a blank returns rows. -/
theorem isRead_of_word {sql : String} {blanks word rest : List Char} {gap : Char}
    (hsql : sql.toList = blanks ++ (word ++ gap :: rest))
    (hblanks : blanks.all isBlank = true) (hgap : isBlank gap = true)
    (hword : readKeywords.contains (String.ofList word) = true) : parser.isRead sql = true := by
  have hkeywords : ∀ keyword ∈ readKeywords, keyword.toList.flatMap upperChar = keyword.toList ∧
      keyword.toList.all Char.isAlpha = true ∧ keyword.toList ≠ [] ∧
        keyword.toList ≠ ['G', 'O'] := by decide +kernel
  obtain ⟨upper, letters, nonempty, hgo⟩ := hkeywords _ (List.contains_iff_mem.mp hword)
  rw [String.toList_ofList] at upper letters nonempty hgo
  have hletters := List.all_eq_true.mp letters
  have hcapitals : Capitals word word :=
    ⟨upper, fun c hc => isAsciiWord_of_isAlpha (hletters c hc), nonempty⟩
  rw [isRead, parser.leadingKeyword_of_gap hsql
    (fun c hc => .inl (List.all_eq_true.mp hblanks c hc)) hcapitals hletters hgo hgap]
  exact hword

end SqlParser

namespace Statement

/-- A text that begins with `SELECT`, a space and one more character. -/
def selecting (rest : List Char) : List Char :=
  ['S', 'E', 'L', 'E', 'C', 'T', ' ', 'C'] ++ rest

/-- A statement that begins with `SELECT` and a space returns rows. -/
theorem isRead_selecting (parser : SqlParser) {sql : String} {rest : List Char}
    (h : sql.toList = selecting rest) : parser.isRead sql = true :=
  @SqlParser.isRead_of_word parser sql [] ['S', 'E', 'L', 'E', 'C', 'T'] ('C' :: rest) ' ' h rfl
    rfl rfl

end Statement

end SqlToolkit
