import SqlToolkit.Lexer.Token

/-!
# Where tokens come from

Every token was read at some position of the text, by the rule that decided its kind. Only few
rules read placeholders or comments, so these tokens are known by their first characters.
-/

namespace SqlToolkit.Lexer

open SqlToolkit.Text

/-! ## Readings -/

namespace Pattern

variable {accept : Char → Bool} {next : Cursor → Option Cursor} {cursor final : Cursor}

theorem of_read_one (h : (one accept).read next cursor = some final) :
    ∃ c rest, cursor.rest = c :: rest ∧ accept c = true ∧ next ⟨some c, rest⟩ = some final := by
  unfold read at h
  split at h
  · cases h
  · next c rest hrest =>
    split at h
    · next hc => exact ⟨c, rest, hrest, hc, h⟩
    · cases h

theorem of_read_alt {first second : Pattern}
    (h : (alt first second).read next cursor = some final) :
    first.read next cursor = some final ∨ second.read next cursor = some final := by
  unfold read at h
  split at h
  · next found hfirst => exact .inl (hfirst.trans h)
  · exact .inr h

/-- A repetition reads a run of accepted characters. -/
theorem of_repeatMany_one {fuel : Nat}
    (h : repeatMany (one accept).read next fuel cursor = some final) :
    ∃ run last, cursor.rest = run ++ last.rest ∧ (∀ c ∈ run, accept c = true) ∧
      next last = some final := by
  induction fuel generalizing cursor with
  | zero => exact ⟨[], cursor, rfl, nofun, h⟩
  | succ fuel ih =>
    unfold repeatMany at h
    split at h
    · next found hitem =>
      cases h
      obtain ⟨c, rest, hrest, hc, hmore⟩ := of_read_one hitem
      obtain ⟨run, last, hrun, hall, hnext⟩ := ih hmore
      refine ⟨c :: run, last, ?_, List.forall_mem_cons.mpr ⟨hc, hall⟩, hnext⟩
      rw [hrest, List.cons_append, ← hrun]
    · exact ⟨[], cursor, rfl, nofun, h⟩

theorem of_read_many1_one (h : (many1 (one accept)).read next cursor = some final) :
    ∃ run last, run ≠ [] ∧ cursor.rest = run ++ last.rest ∧ (∀ c ∈ run, accept c = true) ∧
      next last = some final := by
  obtain ⟨c, rest, hrest, hc, hmany⟩ := of_read_one h
  obtain ⟨run, last, hrun, hall, hnext⟩ := of_repeatMany_one hmany
  refine ⟨c :: run, last, List.cons_ne_nil c run, ?_, List.forall_mem_cons.mpr ⟨hc, hall⟩, hnext⟩
  rw [hrest, List.cons_append, ← hrun]

/-- What is read up to a position is taken by the length of the match. -/
theorem take_of_matchLength? {pattern : Pattern} {length : Nat}
    (h : pattern.matchLength? cursor = some length) :
    ∃ final, pattern.read some cursor = some final ∧
      ∀ taken, cursor.rest = taken ++ final.rest → cursor.rest.take length = taken := by
  obtain ⟨final, hread, rfl⟩ := Option.map_eq_some_iff.mp h
  refine ⟨final, hread, fun taken hrest => ?_⟩
  rw [hrest, List.length_append, Nat.add_sub_cancel, List.take_left]

end Pattern

/-! ## Tokens -/

/-- A token is what stands at some position of the text. -/
theorem exists_tokenAt_of_mem {before : Option Char} {fuel : Nat} {chars : List Char}
    {token : Token} (h : token ∈ tokensFrom before fuel chars) :
    ∃ before chars, chars ≠ [] ∧ token =
      ⟨(tokenAt before chars).1, chars.take (max (tokenAt before chars).2 1)⟩ := by
  induction fuel generalizing before chars with
  | zero => cases h
  | succ fuel ih =>
    cases chars with
    | nil => cases h
    | cons c rest =>
      rcases List.mem_cons.mp h with rfl | hmore
      · exact ⟨before, c :: rest, List.cons_ne_nil c rest, rfl⟩
      · exact ih hmore

/-- The kind of a token is `other` unless a block comment or a rule decides on it. -/
theorem tokenAt_of_ne_other {before : Option Char} {chars : List Char} {kind : TokenKind}
    {length : Nat} (h : tokenAt before chars = (kind, length)) (hkind : kind ≠ .other) :
    blockComment? chars = some (kind, length) ∨
      ∃ rule ∈ rules, rule.kind = kind ∧
        rule.pattern.matchLength? ⟨before, chars⟩ = some length := by
  unfold tokenAt at h
  split at h
  · next span hspan => exact .inl (hspan.trans (congrArg some h))
  · right
    split at h
    · next span hspan =>
      -- a dollar-quoted literal is no special token
      unfold dollarLiteral? at hspan
      split at hspan
      · cases hspan
      · split at hspan
        · cases hspan
        · obtain ⟨_, -, rfl⟩ := Option.map_eq_some_iff.mp hspan
          cases h
          exact absurd rfl hkind
    · generalize hfound : rules.findSome? _ = found at h
      cases found with
      | none =>
        cases h
        exact absurd rfl hkind
      | some span =>
        obtain ⟨rule, hrule, hmatch⟩ := List.exists_of_findSome?_eq_some hfound
        obtain ⟨reach, hreach, rfl⟩ := Option.map_eq_some_iff.mp hmatch
        cases h
        exact ⟨rule, hrule, rfl, hreach⟩

/-- The token at a position begins with the character that stands there. -/
theorem first_of_token (before : Option Char) {chars : List Char} (hne : chars ≠ []) :
    ∃ c rest more, chars = c :: rest ∧
      chars.take (max (tokenAt before chars).2 1) = c :: more := by
  obtain ⟨c, rest, rfl⟩ := List.exists_cons_of_ne_nil hne
  obtain ⟨covered, hcovered⟩ : ∃ covered, max (tokenAt before (c :: rest)).2 1 = covered + 1 :=
    ⟨max (tokenAt before (c :: rest)).2 1 - 1, by omega⟩
  exact ⟨c, rest, rest.take covered, rfl, by rw [hcovered, List.take_succ_cons]⟩

theorem kind_blockComment? {chars : List Char} {kind : TokenKind} {length : Nat}
    (h : blockComment? chars = some (kind, length)) : kind = .hint ∨ kind = .comment := by
  unfold blockComment? at h
  split at h
  · obtain ⟨_, -, hspan⟩ := Option.map_eq_some_iff.mp h
    cases hspan
    exact .inl rfl
  · obtain ⟨_, -, hspan⟩ := Option.map_eq_some_iff.mp h
    cases hspan
    exact .inr rfl
  · cases h

/-! ## Markers with a name -/

/-- The rule of the markers that consist of a sign and a name. -/
def signedName : Pattern :=
  .all [Rule.notAfterWord, .one (fun c => c == '$' || c == ':' || c == '?'), .many1 Rule.wordChar]

/-- Of the rules for placeholders, only one reads what begins with a colon. -/
theorem read_signedName {rule : Rule} {cursor final : Cursor} {rest : List Char}
    (hrule : rule ∈ rules) (hkind : rule.kind = .placeholder)
    (hread : rule.pattern.read some cursor = some final) (hcolon : cursor.rest = ':' :: rest) :
    signedName.read some cursor = some final := by
  have hmem : rule ∈ rules.filter fun rule => rule.kind = .placeholder :=
    List.mem_filter.mpr ⟨hrule, decide_eq_true hkind⟩
  have hplaceholders : (rules.filter fun rule => rule.kind = .placeholder) =
      [⟨.placeholder, .char '?'⟩,
       ⟨.placeholder, .all [.char '%',
         .optional (.all [.char '(', .many1 Rule.wordChar, .char ')']), .letter 's']⟩,
       ⟨.placeholder, signedName⟩] := rfl
  simp only [hplaceholders, List.mem_cons, List.not_mem_nil, or_false] at hmem
  rcases hmem with rfl | rfl | rfl
  · obtain ⟨c, more, hrest, hc, -⟩ := Pattern.of_read_one hread
    cases hcolon.symm.trans hrest
    exact absurd hc (by decide)
  · obtain ⟨c, more, hrest, hc, -⟩ := Pattern.of_read_one hread
    cases hcolon.symm.trans hrest
    exact absurd hc (by decide)
  · exact hread

theorem of_read_signedName {cursor final : Cursor}
    (h : signedName.read some cursor = some final) :
    ∃ sign run, run ≠ [] ∧ cursor.rest = sign :: run ++ final.rest ∧
      ∀ c ∈ run, isWord c = true := by
  have hbody : (Pattern.seq (.one fun c => c == '$' || c == ':' || c == '?')
      (.many1 Rule.wordChar)).read some cursor = some final := by
    change (if _ then _ else none) = some final at h
    split at h
    · exact h
    · cases h
  obtain ⟨sign, rest, hrest, -, hmany⟩ := Pattern.of_read_one hbody
  obtain ⟨run, last, hne, hrun, hword, hlast⟩ := Pattern.of_read_many1_one hmany
  cases hlast
  exact ⟨sign, run, hne, by rw [hrest, List.cons_append, ← hrun], hword⟩

/-- A placeholder that begins with a colon is the colon and a name of word characters. -/
theorem isWord_of_placeholder {chars name : List Char} {token : Token} (h : token ∈ tokens chars)
    (hkind : token.kind = .placeholder) (htext : token.text = ':' :: name) :
    ∀ c ∈ name, isWord c = true := by
  obtain ⟨before, rest, hne, rfl⟩ := exists_tokenAt_of_mem h
  obtain ⟨first, following, more, rfl, hfirst⟩ := first_of_token before hne
  have hcolon : first = ':' := List.head_eq_of_cons_eq (hfirst.symm.trans htext)
  subst hcolon
  generalize htoken : tokenAt before (':' :: following) = found at hkind htext
  obtain ⟨kind, length⟩ := found
  cases hkind
  rcases tokenAt_of_ne_other htoken nofun with hblock | ⟨rule, hrule, hplace, hmatch⟩
  · exact absurd (kind_blockComment? hblock) (by decide)
  · obtain ⟨final, hread, htake⟩ := Pattern.take_of_matchLength? hmatch
    obtain ⟨sign, run, hrun, hrest, hword⟩ :=
      of_read_signedName (read_signedName hrule hplace hread rfl)
    have hsigned := htake (sign :: run) hrest
    have hlength : 1 < length := by
      have hsize := congrArg List.length hsigned
      have hpos := List.length_pos_iff.mpr hrun
      simp only [List.length_take, List.length_cons] at hsize
      omega
    rw [Nat.max_eq_left (Nat.le_of_lt hlength), hsigned] at htext
    rwa [← List.tail_eq_of_cons_eq htext]

/-! ## Comments -/

def opensComment (c : Char) : Bool := c == '-' || c == '#' || c == '/'

theorem first_blockComment? {chars : List Char} (h : (blockComment? chars).isSome = true) :
    ∃ rest, chars = '/' :: rest := by
  unfold blockComment? at h
  split at h
  · exact ⟨_, rfl⟩
  · exact ⟨_, rfl⟩
  · cases h

theorem first_lineComment {next : Cursor → Option Cursor} {cursor final : Cursor}
    (h : Rule.lineComment.read next cursor = some final) :
    ∃ c rest, cursor.rest = c :: rest ∧ opensComment c = true := by
  rcases Pattern.of_read_alt h with hdashes | hsharp
  · obtain ⟨c, rest, hrest, hc, -⟩ := Pattern.of_read_one hdashes
    cases beq_iff_eq.mp hc
    exact ⟨'-', rest, hrest, rfl⟩
  · obtain ⟨c, rest, hrest, hc, -⟩ := Pattern.of_read_one hsharp
    cases beq_iff_eq.mp hc
    exact ⟨'#', rest, hrest, rfl⟩

/-- A comment begins with one of three characters. -/
theorem opensComment_of_comment {chars : List Char} {token : Token} (h : token ∈ tokens chars)
    (hkind : token.kind = .comment) : ∃ c more, token.text = c :: more ∧ opensComment c = true := by
  obtain ⟨before, rest, hne, rfl⟩ := exists_tokenAt_of_mem h
  obtain ⟨c, following, more, rfl, htext⟩ := first_of_token before hne
  refine ⟨c, more, htext, ?_⟩
  rcases tokenAt_of_ne_other (Prod.ext hkind rfl) nofun with hblock | ⟨rule, hrule, hcomment, hmatch⟩
  · obtain ⟨_, hfirst⟩ := first_blockComment? (Option.isSome_of_eq_some hblock)
    cases hfirst
    rfl
  · have hmem : rule ∈ rules.filter fun rule => rule.kind = .comment :=
      List.mem_filter.mpr ⟨hrule, decide_eq_true hcomment⟩
    have hcomments : (rules.filter fun rule => rule.kind = .comment) =
      [⟨.comment, .seq Rule.lineComment Rule.restOfLine⟩] := rfl
    rw [hcomments, List.mem_singleton] at hmem
    subst hmem
    obtain ⟨final, hread, -⟩ := Pattern.take_of_matchLength? hmatch
    obtain ⟨d, _, hfirst, hopens⟩ := first_lineComment hread
    cases hfirst
    exact hopens

end SqlToolkit.Lexer
