import SqlToolkit.Proofs.Builder.PrefixedWrite

/-!
# What follows the first word

A raw statement is told by its first word, and the first word goes on up to a blank or an opening
parenthesis. A sign or a quote that follows a keyword at once becomes part of the word, and no
keyword has such a part, so the statement is taken for one of no known kind: it is run as a write
even when the keyword is one for reads.
-/

namespace SqlToolkit

namespace Statement

open SqlToolkit.Text SqlToolkit.Lexer

/-! ## Texts without comments -/

/-- No part of the text is a comment. -/
def CommentFree (cutting : Marker.Cutting) (chars : List Char) : Prop :=
  ∀ token ∈ cutting.cut chars, token.kind ≠ .comment

theorem commentFree_of_plain {chars : List Char}
    (h : (chars.all fun c => !opensComment c) = true) : CommentFree .standard chars := by
  intro token htoken hkind
  obtain ⟨c, more, htext, hopens⟩ := opensComment_of_comment htoken hkind
  have hc : c ∈ (tokens chars).flatMap Token.text :=
    List.mem_flatMap.mpr ⟨token, htoken, htext ▸ List.mem_cons_self⟩
  rw [flatMap_tokens] at hc
  have hplain := List.all_eq_true.mp h c hc
  rw [hopens] at hplain
  cases hplain

/-! ## Texts that begin with a word -/

/-- A text that begins with a word of ASCII letters, with any blanks and opening parentheses before
it. What follows does not go on with the word. -/
structure FirstWord where
  lead : List Char
  word : List Char
  rest : List Char
  opening : ∀ c ∈ lead, EndsKeyword c
  letters : IsRun Char.isAlpha word
  ends : StopsAt isWord rest

namespace FirstWord

variable (form : FirstWord)

def sql : String := String.ofList (form.lead ++ (form.word ++ form.rest))

def keyword : String := String.ofList (form.word.map Char.toUpper)

/-- The word is the whole text, or a blank or an opening parenthesis follows. -/
def Apart : Prop := ∀ c ∈ form.rest.head?, EndsKeyword c

/-- The word stands apart in what the package leaves of the text as well. -/
def StaysApart (parser : SqlParser) : Prop :=
  ∃ before after, parser.uncommented form.sql.toList = before ++ (form.word ++ after) ∧
    (∀ c ∈ before, EndsKeyword c) ∧ ∀ c ∈ after.head?, EndsKeyword c

theorem capitals : Capitals form.word (form.word.map Char.toUpper) :=
  .of_ascii form.letters.1 fun c hc => isAsciiWord_of_isAlpha (form.letters.2 c hc)

/-- In a text without comments only the blanks around the word may change. -/
theorem exists_uncommented {parser : SqlParser}
    (h : CommentFree parser.toCutting form.sql.toList) :
    ∃ before left, parser.uncommented form.sql.toList = before ++ (form.word ++ left) ∧
      (∀ c ∈ before, EndsKeyword c) ∧ Respaced form.rest left := by
  have hrespaced := parser.respaced _ h
  rw [sql, String.toList_ofList] at hrespaced ⊢
  obtain ⟨before, more, huncommented, hbefore, hmore⟩ := hrespaced.of_append
  obtain ⟨word, left, rfl, hword, hleft⟩ := hmore.of_append
  obtain rfl := hword.eq_of_no_blank fun c hc => form.capitals.isBlank_of_mem hc
  exact ⟨before, left, huncommented, hbefore.forall_mem (fun _ => .inl) form.opening, hleft⟩

theorem toList_leadingKeyword {parser : SqlParser} {before after : List Char}
    (h : parser.uncommented form.sql.toList = before ++ (form.word ++ after))
    (hbefore : ∀ c ∈ before, EndsKeyword c) :
    (parser.leadingKeyword form.sql).toList = form.keyword.toList ++ attached after := by
  rw [parser.toList_leadingKeyword h hbefore form.capitals, keyword, String.toList_ofList]

/-- What is attached to a word that does not stand apart begins with a character that stands in no
keyword. -/
theorem attached_of_not_apart (h : ¬form.Apart) {left : List Char}
    (hleft : Respaced form.rest left) :
    ∃ first more, attached left = first :: more ∧ isAsciiWord first = false := by
  cases hrest : form.rest with
  | nil => exact absurd (by simp [Apart, hrest]) h
  | cons c rest =>
    have hword : isWord c = false := stopsAt_cons.mp (hrest ▸ form.ends)
    have hmark : ¬EndsKeyword c := fun hends => h (by simpa [Apart, hrest] using hends)
    rw [hrest] at hleft
    cases hleft with
    | keep _ _ =>
      obtain ⟨first, more, hmore, hfirst⟩ := attached_cons hmark _
      exact ⟨first, more, hmore, hfirst hword⟩
    | drop hgap _ | replace hgap _ _ => exact absurd (.inl hgap) hmark

/-- A word that stands apart stays so, if it does not end the statement. -/
theorem staysApart_of_apart {parser : SqlParser}
    (hfree : CommentFree parser.toCutting form.sql.toList) (hgo : form.keyword ≠ "GO")
    (h : form.Apart) : form.StaysApart parser := by
  have hupper := form.capitals.upper
  have hletters : ∀ c ∈ form.word.flatMap upperChar, c.isAlpha = true := by
    rw [hupper]
    intro c hc
    obtain ⟨letter, hletter, rfl⟩ := List.mem_map.mp hc
    exact isAlpha_toUpper (form.letters.2 letter hletter)
  have hword : form.word.flatMap upperChar ≠ ['G', 'O'] := fun hword =>
    hgo (by rw [keyword, ← hupper, hword])
  obtain ⟨before, left, huncommented, hbefore, hleft⟩ := form.exists_uncommented hfree
  cases hrest : form.rest with
  | nil =>
    rw [hrest] at hleft
    cases hleft
    exact ⟨before, [], huncommented, hbefore, nofun⟩
  | cons c rest =>
    rcases h c (by rw [hrest]; rfl) with hblank | rfl
    · obtain ⟨before, after, hkept, hbefore, hafter⟩ := parser.apart form.lead form.word c rest
        form.opening form.letters.1 hletters hword hblank
      rw [← hrest, ← String.toList_ofList (l := form.lead ++ (form.word ++ form.rest))] at hkept
      exact ⟨before, after, hkept, hbefore, fun c hc => .inl (hafter c hc)⟩
    · rw [hrest] at hleft
      cases hleft with
      | keep _ _ =>
        exact ⟨before, _, huncommented, hbefore, fun c hc => .inr (Option.mem_some.mp hc).symm⟩
      | drop hgap _ | replace hgap _ _ => cases hgap

/-- The word alone is what the statement is told by exactly if it stands apart and stays so. -/
theorem leadingKeyword_eq_iff {parser : SqlParser}
    (hfree : CommentFree parser.toCutting form.sql.toList) :
    parser.leadingKeyword form.sql = form.keyword ↔
      form.Apart ∧ (form.keyword = "GO" → form.StaysApart parser) := by
  rw [← String.toList_inj]
  constructor
  · intro hkeyword
    obtain ⟨before, left, huncommented, hbefore, hleft⟩ := form.exists_uncommented hfree
    rw [form.toList_leadingKeyword huncommented hbefore, List.append_right_eq_self] at hkeyword
    refine ⟨?_, fun _ => ⟨before, left, huncommented, hbefore, attached_eq_nil_iff.mp hkeyword⟩⟩
    refine Classical.byContradiction fun hapart => ?_
    obtain ⟨first, more, hmore, -⟩ := form.attached_of_not_apart hapart hleft
    cases hkeyword.symm.trans hmore
  · rintro ⟨hapart, hgo⟩
    have hstays : form.StaysApart parser :=
      (Classical.em (form.keyword = "GO")).elim hgo fun hword =>
        form.staysApart_of_apart hfree hword hapart
    obtain ⟨before, after, huncommented, hbefore, hafter⟩ := hstays
    rw [form.toList_leadingKeyword huncommented hbefore, attached_eq_nil_iff.mpr hafter,
      List.append_nil]

/-- The statement begins with one of some keywords only if the word is one and stands apart. None of
the keywords begins with what could end a statement. -/
theorem contains_leadingKeyword_iff {parser : SqlParser}
    (hfree : CommentFree parser.toCutting form.sql.toList) {keywords : List String}
    (hkeywords : ∀ keyword ∈ keywords,
      keyword.toList.all isAsciiWord = true ∧ keyword.toList.take 2 ≠ ['G', 'O']) :
    keywords.contains (parser.leadingKeyword form.sql) = true ↔
      form.Apart ∧ form.keyword ∈ keywords := by
  rw [List.contains_iff_mem]
  obtain ⟨before, left, huncommented, hbefore, hleft⟩ := form.exists_uncommented hfree
  have hattached := form.toList_leadingKeyword huncommented hbefore
  by_cases hgo : form.keyword = "GO"
  · rw [hgo] at hattached ⊢
    exact iff_of_false (fun hmem => (hkeywords _ hmem).2 (by rw [hattached]; rfl))
      fun hboth => (hkeywords _ hboth.2).2 rfl
  · by_cases hapart : form.Apart
    · rw [(form.leadingKeyword_eq_iff hfree).mpr ⟨hapart, fun hword => absurd hword hgo⟩]
      exact (and_iff_right hapart).symm
    · refine iff_of_false (fun hmem => ?_) fun hboth => hapart hboth.1
      obtain ⟨first, more, hmore, hfirst⟩ := form.attached_of_not_apart hapart hleft
      have hascii := List.all_eq_true.mp (hkeywords _ hmem).1 first (by
        rw [hattached, hmore]
        simp)
      cases hfirst.symm.trans hascii

theorem isRead_iff {parser : SqlParser} (h : CommentFree parser.toCutting form.sql.toList) :
    parser.isRead form.sql = true ↔ form.Apart ∧ form.keyword ∈ readKeywords :=
  form.contains_leadingKeyword_iff h (by decide)

theorem isInsert_iff {parser : SqlParser} (h : CommentFree parser.toCutting form.sql.toList) :
    parser.isInsert form.sql = true ↔ form.Apart ∧ form.keyword ∈ insertKeywords :=
  form.contains_leadingKeyword_iff h (by decide)

end FirstWord

end Statement

namespace Builder

variable {σ : Type} [Connection σ] {builder : Builder σ}

/-- **The first word of a statement is its keyword exactly if it stands apart.** The text has no
comments, and the word may have blanks and opening parentheses before it. At the end of the text,
before a blank and before an opening parenthesis the statement is told by the word alone, and before
every other mark it is taken neither for a read nor for an insertion. Only what follows `GO`, a word
that ends statements, may be moved up to it by the package that reads SQL. A raw statement is so run
as a read exactly if its first word is one for reads and stands apart, and else as a write. -/
theorem first_word_told_iff_apart (form : Statement.FirstWord)
    (hfree : Statement.CommentFree (Connection.parser σ).toCutting form.sql.toList)
    (hkind : builder.descriptor.kind = .raw)
    (hsql : builder.descriptor.rawSql = .text form.sql) :
    let parser := Connection.parser σ
    (parser.leadingKeyword form.sql = form.keyword ↔
      form.Apart ∧ (form.keyword = "GO" → form.StaysApart parser)) ∧
    (parser.isRead form.sql = true ↔ form.Apart ∧ form.keyword ∈ Statement.readKeywords) ∧
    (parser.isInsert form.sql = true ↔ form.Apart ∧ form.keyword ∈ Statement.insertKeywords) ∧
    (form.Apart ∧ form.keyword ∈ Statement.readKeywords →
      execute builder = executeQuery builder) ∧
    (¬(form.Apart ∧ form.keyword ∈ Statement.readKeywords) →
      execute builder = executeStatement builder) ∧
    ∀ result, execute.outcome builder = .ok result →
      (result.isRead = true ↔ form.Apart ∧ form.keyword ∈ Statement.readKeywords) := by
  have hread : isRead (Connection.parser σ) builder.descriptor = true ↔
      form.Apart ∧ form.keyword ∈ Statement.readKeywords := by
    rw [isRead_raw _ hkind hsql, form.isRead_iff hfree]
  refine ⟨form.leadingKeyword_eq_iff hfree, form.isRead_iff hfree, form.isInsert_iff hfree,
    fun h => execute_of_read (hread.mpr h), fun h => ?_, fun result hresult => ?_⟩
  · exact execute_of_write (Bool.eq_false_iff.mpr fun hpath => h (hread.mp hpath))
  · rw [isRead_of_execute hresult, hread]

def selectAll : Statement.FirstWord where
  lead := []
  word := "SELECT".toList
  rest := "*FROM t".toList
  opening := nofun
  letters := .of_all (by decide) (by decide)
  ends := Text.stopsAt_cons.mpr rfl

theorem commentFree_selectAll :
    Statement.CommentFree (Connection.parser Scripted).toCutting selectAll.sql.toList :=
  Statement.commentFree_of_plain rfl

theorem not_apart_selectAll : ¬selectAll.Apart := by
  intro h
  rcases h '*' rfl with hblank | hparenthesis
  · cases hblank
  · cases hparenthesis

def selectAllGiven : Builder Scripted :=
  (rawQuery (.text selectAll.sql)).after
    { client := { connection := {} }, dialect := .sqlite }

theorem first_word_told_iff_apart_selectAll :
    Statement.CommentFree (Connection.parser Scripted).toCutting selectAll.sql.toList ∧
      selectAllGiven.descriptor.kind = .raw ∧
      selectAllGiven.descriptor.rawSql = .text selectAll.sql ∧
      (Connection.parser Scripted).leadingKeyword selectAll.sql ≠ selectAll.keyword ∧
      execute selectAllGiven = executeStatement selectAllGiven := by
  obtain ⟨hkeyword, -, -, -, hwrite, -⟩ :=
    @first_word_told_iff_apart Scripted _ selectAllGiven selectAll commentFree_selectAll rfl rfl
  exact ⟨commentFree_selectAll, rfl, rfl, fun h => not_apart_selectAll (hkeyword.mp h).1,
    hwrite fun hboth => not_apart_selectAll hboth.1⟩

/-- The selection is told by `SELECT*FROM` and run as a write. -/
theorem select_all_run_as_write :
    selectAll.sql = "SELECT*FROM t" ∧ selectAll.keyword = "SELECT" ∧
      Statement.CommentFree (Connection.parser Scripted).toCutting selectAll.sql.toList ∧
      Statement.leadingKeyword selectAll.sql = "SELECT*FROM" ∧
      Statement.isRead selectAll.sql = false ∧
      ∃ result, execute.outcome selectAllGiven = .ok result ∧ result.isRead = false :=
  ⟨rfl, rfl, commentFree_selectAll, rfl, rfl, _, rfl, rfl⟩

end Builder

end SqlToolkit
