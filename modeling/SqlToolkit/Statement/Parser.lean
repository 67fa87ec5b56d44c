import SqlToolkit.Proofs.Lexer.Origin
import SqlToolkit.Proofs.Text.Blank
import SqlToolkit.Statement.Marker
import SqlToolkit.Text.CaseMap

/-!
# Packages that read SQL

The reading of SQL is left to a package, which cuts a text into tokens and leaves the comments of a
text out. What is relied on is written down with it. The package may change the blanks of a text: it
takes them from the ends of lines and statements, and so the blanks between two statements go as
well. A word ends a statement only if it is `GO`.
-/

namespace SqlToolkit

open SqlToolkit.Text SqlToolkit.Lexer

/-- A text with some of its blanks left out or replaced by others. -/
inductive Respaced : List Char → List Char → Prop where
  | nil : Respaced [] []
  | keep {chars kept : List Char} (c : Char) :
      Respaced chars kept → Respaced (c :: chars) (c :: kept)
  | drop {chars kept : List Char} {blank : Char} :
      isBlank blank = true → Respaced chars kept → Respaced (blank :: chars) kept
  | replace {chars kept : List Char} {blank other : Char} :
      isBlank blank = true → isBlank other = true → Respaced chars kept →
        Respaced (blank :: chars) (other :: kept)

theorem Respaced.refl (chars : List Char) : Respaced chars chars := by
  induction chars with
  | nil => exact .nil
  | cons c rest ih => exact .keep c ih

/-- A character that the first word of a statement cannot hold, a parenthesis standing for a
blank. -/
def Statement.EndsKeyword (c : Char) : Prop := isBlank c = true ∨ c = '('

/-- What a package does with SQL. -/
structure SqlParser extends Marker.Cutting where
  /-- The text without its comments, or the text itself if the package cannot read it. -/
  uncommented : List Char → List Char
  /-- Only blanks change if there are no comments. -/
  respaced : ∀ chars, (∀ token ∈ cut chars, token.kind ≠ .comment) →
    Respaced chars (uncommented chars)
  /-- Only blanks change in front of what could begin a comment. -/
  respaced_front : ∀ front rest, (∀ c ∈ front, opensComment c = false) →
    ∃ kept more, Respaced front kept ∧ uncommented (front ++ rest) = kept ++ more
  /-- A blank keeps the first word of a text apart from what follows, unless the word ends the
  statement. -/
  apart : ∀ front written gap rest, (∀ c ∈ front, Statement.EndsKeyword c) → written ≠ [] →
    (∀ c ∈ written.flatMap upperChar, c.isAlpha = true) → written.flatMap upperChar ≠ ['G', 'O'] →
    isBlank gap = true →
      ∃ before after, uncommented (front ++ (written ++ gap :: rest)) =
          before ++ (written ++ after) ∧
        (∀ c ∈ before, Statement.EndsKeyword c) ∧ ∀ c ∈ after.head?, isBlank c = true

namespace Statement

/-! ## Leaving comments out -/

/-- The depth of nesting up to which comments are left out. -/
def maxNesting : Nat := 100

/-- The number of tokens up to which comments are left out. -/
def maxTokens : Nat := 10000

/-- The greatest number of parentheses that are open at once. -/
def nesting (depth : Nat) : List Token → Nat
  | [] => depth
  | token :: rest =>
    let next := if token.text = ['('] then depth + 1
      else if token.text = [')'] then depth - 1 else depth
    max depth (nesting next rest)

/-- The text with a space in the place of each comment. -/
def withoutComments (tokens : List Token) : List Char :=
  tokens.flatMap fun token => if token.kind = .comment then [' '] else token.text

/-- The text without its comments. They stay in a text that is too long or nests too deep. -/
def uncommented (chars : List Char) : List Char :=
  let tokens := tokens chars
  if nesting 0 tokens ≤ maxNesting ∧ tokens.length ≤ maxTokens then withoutComments tokens
  else chars

theorem uncommented_of_commentFree {chars : List Char}
    (h : ∀ token ∈ tokens chars, token.kind ≠ .comment) : uncommented chars = chars := by
  have hkept : withoutComments (tokens chars) = chars := by
    have hsame : (tokens chars).map
        (fun token => if token.kind = .comment then [' '] else token.text) =
          (tokens chars).map Token.text :=
      List.map_congr_left fun token htoken => if_neg (h token htoken)
    rw [withoutComments, List.flatMap_def, hsame, ← List.flatMap_def, flatMap_tokens]
  unfold uncommented
  dsimp only
  rw [hkept, ite_self]

/-- What stands in front of every comment stays. -/
theorem withoutComments_append {tokens : List Token} {front rest : List Char}
    (hopen : ∀ token ∈ tokens, token.kind = .comment →
      ∃ c more, token.text = c :: more ∧ opensComment c = true)
    (hfront : ∀ c ∈ front, opensComment c = false)
    (htext : tokens.flatMap Token.text = front ++ rest) :
    ∃ more, withoutComments tokens = front ++ more := by
  induction tokens generalizing front with
  | nil =>
    obtain ⟨rfl, -⟩ := List.append_eq_nil_iff.mp htext.symm
    exact ⟨[], rfl⟩
  | cons token tokens ih =>
    obtain ⟨hfirst, hothers⟩ := List.forall_mem_cons.mp hopen
    cases front with
    | nil => exact ⟨withoutComments (token :: tokens), rfl⟩
    | cons c front =>
      rw [List.flatMap_cons] at htext
      unfold withoutComments
      rw [List.flatMap_cons]
      by_cases hkind : token.kind = .comment
      · obtain ⟨d, more, hd, hopens⟩ := hfirst hkind
        rw [hd] at htext
        rw [List.head_eq_of_cons_eq htext] at hopens
        cases (hfront c List.mem_cons_self).symm.trans hopens
      · rw [if_neg hkind]
        rcases List.append_eq_append_iff.mp htext with ⟨between, hbetween, hmore⟩ | ⟨left, hleft, -⟩
        · obtain ⟨more, hkept⟩ := ih hothers
            (fun d hd => hfront d (hbetween ▸ List.mem_append_right _ hd)) hmore
          refine ⟨more, ?_⟩
          rw [hbetween, List.append_assoc, ← hkept]
          rfl
        · exact ⟨left ++ withoutComments tokens, by rw [hleft, List.append_assoc]; rfl⟩

theorem exists_uncommented {chars front rest : List Char} (h : chars = front ++ rest)
    (hfront : ∀ c ∈ front, opensComment c = false) :
    ∃ more, uncommented chars = front ++ more := by
  unfold uncommented
  dsimp only
  split
  · exact withoutComments_append (fun _ => opensComment_of_comment) hfront
      ((flatMap_tokens chars).trans h)
  · exact ⟨rest, h⟩

theorem opensComment_of_isBlank {c : Char} (h : isBlank c = true) : opensComment c = false :=
  of_isBlank (P := fun c => opensComment c = false) (by decide +kernel) h

/-- What begins a comment is its own capital form, and no letter. -/
theorem opensComment_of_upper {c : Char} (h : ∀ d ∈ upperChar c, d.isAlpha = true) :
    opensComment c = false := by
  refine Bool.eq_false_iff.mpr fun hopens => ?_
  have hcase : c = '-' ∨ c = '#' ∨ c = '/' := by simpa [opensComment, or_assoc] using hopens
  rcases hcase with rfl | rfl | rfl
  all_goals exact absurd (h _ (List.mem_singleton_self _)) (by decide)

theorem opensComment_of_endsKeyword {c : Char} (h : EndsKeyword c) : opensComment c = false := by
  rcases h with hblank | rfl
  · exact opensComment_of_isBlank hblank
  · rfl

theorem exists_uncommented_word {before written : List Char} {gap : Char} (rest : List Char)
    (hbefore : ∀ c ∈ before, EndsKeyword c)
    (hletters : ∀ c ∈ written.flatMap upperChar, c.isAlpha = true) (hgap : isBlank gap = true) :
    ∃ more, uncommented (before ++ (written ++ gap :: rest)) =
      before ++ (written ++ gap :: more) := by
  have hfront : ∀ c ∈ before ++ (written ++ [gap]), opensComment c = false := by
    intro c hc
    simp only [List.mem_append, List.mem_singleton] at hc
    rcases hc with hends | hword | rfl
    · exact opensComment_of_endsKeyword (hbefore c hends)
    · exact opensComment_of_upper fun d hd => hletters d (List.mem_flatMap.mpr ⟨c, hword, hd⟩)
    · exact opensComment_of_isBlank hgap
  have hsplit : before ++ (written ++ gap :: rest) = before ++ (written ++ [gap]) ++ rest := by simp
  obtain ⟨more, hmore⟩ := exists_uncommented hsplit hfront
  exact ⟨more, by rw [hmore]; simp⟩

end Statement

/-- The tokens of this library, and each comment replaced by a space. -/
def SqlParser.standard : SqlParser where
  toCutting := .standard
  uncommented := Statement.uncommented
  respaced chars h := by
    rw [Statement.uncommented_of_commentFree h]
    exact .refl chars
  respaced_front front rest h := by
    obtain ⟨more, hmore⟩ := Statement.exists_uncommented rfl h
    exact ⟨front, more, .refl front, hmore⟩
  apart front written gap rest hfront _ hletters _ hgap := by
    obtain ⟨more, hmore⟩ := Statement.exists_uncommented_word rest hfront hletters hgap
    refine ⟨front, gap :: more, hmore, hfront, fun c hc => ?_⟩
    rw [← Option.mem_some.mp hc]
    exact hgap

end SqlToolkit
