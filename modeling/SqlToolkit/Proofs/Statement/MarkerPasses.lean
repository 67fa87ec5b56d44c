import SqlToolkit.Proofs.Text.Substitution
import SqlToolkit.Proofs.Value.Literal
import SqlToolkit.Statement.Interpolation

/-!
# Passes over a statement

Each name is put in with a pass over the whole statement. A pass does the parts of a statement one
by one: a marker ends where its name does, and a literal has a quote behind each colon, so that
nothing that a pass reads reaches from one part into the next.
-/

namespace SqlToolkit.Interpolation

open SqlToolkit.Text

variable {key literal : String} {name text chars rest more : List Char}

/-! ## What a marker covers -/

theorem dropMarker?_eq_some_iff :
    dropMarker? name chars = some rest ↔
      chars = ':' :: (name ++ rest) ∧ startsWithWord rest = false := by
  unfold dropMarker?
  cases hdrop : dropText? (':' :: name) chars with
  | none =>
    refine iff_of_false (by simp) fun h => ?_
    rw [h.1, ← List.cons_append, dropText?_eq_some_iff.mpr rfl] at hdrop
    cases hdrop
  | some found =>
    obtain rfl := dropText?_eq_some_iff.mp hdrop
    cases hword : startsWithWord found with
    | true =>
      refine iff_of_false (by simp [hword]) fun h => ?_
      simp only [List.cons_append, List.cons.injEq, true_and, List.append_cancel_left_eq] at h
      rw [h.1, h.2] at hword
      cases hword
    | false =>
      simp only [hword, Bool.false_eq_true, if_false, Option.some.injEq, List.cons_append,
        List.cons.injEq, true_and, List.append_cancel_left_eq]
      constructor
      · rintro rfl
        exact ⟨rfl, hword⟩
      · exact fun h => h.1

theorem dropMarker?_of_ne {c : Char} (h : c ≠ ':') (more : List Char) :
    dropMarker? name (c :: more) = none := by
  refine Option.eq_none_iff_forall_ne_some.mpr fun rest hread => ?_
  exact h (List.cons.inj (dropMarker?_eq_some_iff.mp hread).1).1

theorem nowhere_dropMarker? (h : ':' ∉ chars) : Nowhere (dropMarker? name) chars :=
  nowhere_of_forall_cons fun _ hc more => dropMarker?_of_ne (fun heq => h (heq ▸ hc)) more

theorem dropMarker?_consumes : Consumes (dropMarker? name) := by
  intro chars rest hread
  exact ⟨':' :: name, (dropMarker?_eq_some_iff.mp hread).1, List.cons_ne_nil _ _⟩

/-- A marker does not reach over a seam where a word ends. -/
theorem dropMarker?_append (hname : IsRun isWord name)
    (hends : (∃ c ∈ chars, isWord c = false) ∨ startsWithWord more = false) :
    dropMarker? name (':' :: chars ++ more) =
      (dropMarker? name (':' :: chars)).map (· ++ more) := by
  have hmore (hword : ∀ c ∈ chars, isWord c = true) : startsWithWord more = false := by
    rcases hends with ⟨c, hc, hnone⟩ | hends
    · rw [hword c hc] at hnone
      cases hnone
    · exact hends
  ext found
  rw [Option.map_eq_some_iff, dropMarker?_eq_some_iff]
  constructor
  · rintro ⟨heq, hfound⟩
    rcases List.append_eq_append_iff.mp (List.cons.inj heq).2 with
      ⟨front, hsame, hrest⟩ | ⟨back, hsame, hrest⟩
    · -- the name goes on behind the seam only if a word does
      have hends := hmore fun c hc => hname.2 c (hsame ▸ List.mem_append_left front hc)
      cases front with
      | nil =>
        refine ⟨[], dropMarker?_eq_some_iff.mpr ⟨?_, rfl⟩, hrest⟩
        rw [hsame, List.append_nil, List.append_nil]
      | cons c front =>
        have hword : isWord c = true := hname.2 c (by simp [hsame])
        rw [hrest, List.cons_append, startsWithWord, hword] at hends
        cases hends
    · refine ⟨back, dropMarker?_eq_some_iff.mpr ⟨by rw [hsame], ?_⟩, hrest.symm⟩
      cases back with
      | nil => rfl
      | cons c back =>
        rw [hrest] at hfound
        exact hfound
  · rintro ⟨left, hleft, rfl⟩
    obtain ⟨heq, hword⟩ := dropMarker?_eq_some_iff.mp hleft
    have hchars := (List.cons.inj heq).2
    refine ⟨by rw [hchars]; simp, ?_⟩
    cases left with
    | nil =>
      rw [List.append_nil] at hchars
      exact hmore fun c hc => hname.2 c (hchars ▸ hc)
    | cons c left => exact hword

theorem dropMarker?_word {word : List Char}
    (hword : ∀ c ∈ word, isWord c = true) :
    dropMarker? name (':' :: word) = if name = word then some [] else none := by
  ext found
  rw [dropMarker?_eq_some_iff]
  constructor
  · rintro ⟨heq, hfound⟩
    have hsame := (List.cons.inj heq).2
    cases found with
    | nil =>
      rw [List.append_nil] at hsame
      simp [hsame]
    | cons c found =>
      rw [startsWithWord, hword c (by simp [hsame])] at hfound
      cases hfound
  · intro h
    split at h
    · next heq =>
      cases h
      exact ⟨by rw [heq, List.append_nil], rfl⟩
    · cases h

/-! ## One pass -/

theorem replaceNamed_of_none {c : Char} (h : dropMarker? (bareName key) (c :: more) = none) :
    replaceNamed key literal (c :: more) = c :: replaceNamed key literal more :=
  substitute_of_none h

theorem replaceNamed_of_reads (h : dropMarker? (bareName key) chars = some rest) :
    replaceNamed key literal chars = literal.toList ++ replaceNamed key literal rest :=
  substitute_of_consumes dropMarker?_consumes h

/-- A pass does two parts one by one if no marker reaches from the one into the other. -/
theorem replaceNamed_append (hname : IsRun isWord (bareName key))
    (h : (∀ tail, (':' :: tail) <:+ chars → ∃ c ∈ tail, isWord c = false) ∨
      startsWithWord rest = false) :
    replaceNamed key literal (chars ++ rest) =
      replaceNamed key literal chars ++ replaceNamed key literal rest := by
  refine substitute_seam dropMarker?_consumes fun front hne hsuffix => ?_
  obtain ⟨c, tail, rfl⟩ := List.exists_cons_of_ne_nil hne
  by_cases hc : c = ':'
  · subst hc
    exact dropMarker?_append hname (h.imp_left fun hall => hall tail hsuffix)
  · rw [List.cons_append, dropMarker?_of_ne hc, dropMarker?_of_ne hc]
    rfl

theorem replaceNamed_append_of_enclosed (hname : IsRun isWord (bareName key))
    (h : Enclosed ':' chars) (rest : List Char) :
    replaceNamed key literal (chars ++ rest) =
      replaceNamed key literal chars ++ replaceNamed key literal rest :=
  replaceNamed_append hname (.inl fun tail hsuffix => ⟨'\'', h tail hsuffix, by decide⟩)

theorem replaceNamed_of_not_mem (h : ':' ∉ chars) : replaceNamed key literal chars = chars :=
  substitute_of_nowhere (nowhere_dropMarker? h)

/-- In the place of a marker there is the literal, and another marker is kept. -/
theorem replaceNamed_marker (hname : IsRun isWord name) :
    replaceNamed key literal (':' :: name) =
      if bareName key = name then literal.toList else ':' :: name := by
  have hplain : ':' ∉ name := by
    intro hmem
    exact absurd (hname.2 ':' hmem) (by decide)
  have hread : dropMarker? (bareName key) (':' :: name) =
      if bareName key = name then some [] else none := dropMarker?_word hname.2
  split
  · next heq =>
    rw [if_pos heq] at hread
    rw [replaceNamed_of_reads hread, replaceNamed_of_not_mem List.not_mem_nil, List.append_nil]
  · next hne =>
    rw [if_neg hne] at hread
    rw [replaceNamed_of_none hread, replaceNamed_of_not_mem hplain]

/-! ## What a pass keeps -/

/-- What holds of a text and of a literal in the place of a marker holds of what a pass leaves. -/
theorem replaceNamed_induction (key : String) {P : List Char → Prop} (nil : P [])
    (keep : ∀ c more, dropMarker? (bareName key) (c :: more) = none → P more → P (c :: more))
    (read : ∀ rest, startsWithWord rest = false → P rest → P (':' :: bareName key ++ rest))
    (chars : List Char) : P chars := by
  refine substitute_induction dropMarker?_consumes nil keep (fun passed rest _ hread ih => ?_) chars
  obtain ⟨heq, hword⟩ := dropMarker?_eq_some_iff.mp hread
  rw [heq]
  exact read rest hword ih

theorem replaceNamed_read (hword : startsWithWord rest = false) :
    replaceNamed key literal (':' :: bareName key ++ rest) =
      literal.toList ++ replaceNamed key literal rest :=
  replaceNamed_of_reads (dropMarker?_eq_some_iff.mpr ⟨rfl, hword⟩)

theorem quote_mem_replaceNamed (hname : IsRun isWord (bareName key)) (h : '\'' ∈ chars) :
    '\'' ∈ replaceNamed key literal chars := by
  induction chars using replaceNamed_induction key with
  | nil => cases h
  | keep c more hread ih =>
    rw [replaceNamed_of_none hread]
    rcases List.mem_cons.mp h with rfl | h
    · exact List.mem_cons_self
    · exact List.mem_cons_of_mem c (ih h)
  | read rest hword ih =>
    rw [replaceNamed_read hword]
    rcases List.mem_append.mp h with h | h
    · rcases List.mem_cons.mp h with heq | h
      · exact absurd heq (by decide)
      · exact absurd (hname.2 _ h) (by decide)
    · exact List.mem_append_right _ (ih h)

theorem enclosed_replaceNamed (hname : IsRun isWord (bareName key))
    (hliteral : Enclosed ':' literal.toList) (h : Enclosed ':' chars) :
    Enclosed ':' (replaceNamed key literal chars) := by
  induction chars using replaceNamed_induction key with
  | nil => exact h
  | keep c more hread ih =>
    rw [replaceNamed_of_none hread]
    intro tail hsuffix
    rcases List.suffix_cons_iff.mp hsuffix with heq | hsuffix
    · obtain ⟨rfl, rfl⟩ := List.cons.inj heq
      exact quote_mem_replaceNamed hname (h more List.suffix_rfl)
    · exact ih (h.of_suffix (List.suffix_cons c more)) tail hsuffix
  | read rest hword ih =>
    rw [replaceNamed_read hword]
    exact hliteral.append (ih (h.of_suffix (List.suffix_append _ rest)))

theorem head?_replaceNamed (h : ':' ∉ chars.head?) :
    (replaceNamed key literal chars).head? = chars.head? := by
  cases chars with
  | nil => rfl
  | cons c more =>
    have hc : c ≠ ':' := fun heq => h (by simp [heq])
    rw [replaceNamed_of_none (dropMarker?_of_ne hc more)]
    rfl

/-! ## All passes -/

def names (entries : List (String × Value)) : List (List Char) :=
  entries.map fun entry => bareName entry.1

/-- Each name is one, and each value has a literal that encloses what a marker begins with. -/
structure AreProper (entries : List (String × Value)) : Prop where
  name : ∀ entry ∈ entries, IsRun isWord (bareName entry.1)
  literal : ∀ entry ∈ entries, IsLiteral entry.2.literal.toList

variable {entries : List (String × Value)} {entry : String × Value}

theorem AreProper.of_subset (h : AreProper entries) {others : List (String × Value)}
    (hsubset : others ⊆ entries) : AreProper others :=
  ⟨fun entry hentry => h.name entry (hsubset hentry),
    fun entry hentry => h.literal entry (hsubset hentry)⟩

theorem fillNamed_cons (chars : List Char) (entry : String × Value)
    (entries : List (String × Value)) :
    fillNamed chars (entry :: entries) =
      fillNamed (replaceNamed entry.1 entry.2.literal chars) entries := rfl

theorem fillNamed_concat (chars : List Char) (entries : List (String × Value))
    (entry : String × Value) :
    fillNamed chars (entries ++ [entry]) =
      replaceNamed entry.1 entry.2.literal (fillNamed chars entries) := by
  rw [fillNamed, List.foldl_append]
  rfl

theorem fillNamed_of_not_mem (h : ':' ∉ chars) (entries : List (String × Value)) :
    fillNamed chars entries = chars := by
  induction entries with
  | nil => rfl
  | cons entry entries ih => rw [fillNamed_cons, replaceNamed_of_not_mem h, ih]

/-- A marker is kept until its own pass. -/
theorem fillNamed_marker_of_not_mem (hname : IsRun isWord name) (h : name ∉ names entries) :
    fillNamed (':' :: name) entries = ':' :: name := by
  induction entries with
  | nil => rfl
  | cons entry entries ih =>
    obtain ⟨hne, hrest⟩ := not_or.mp fun hmem => h (List.mem_cons.mpr hmem)
    rw [fillNamed_cons, replaceNamed_marker hname, if_neg (Ne.symm hne), ih hrest]

/-- The passes behind its own one go over the literal of a marker. -/
theorem fillNamed_marker (before : List (String × Value)) (after : List (String × Value))
    (hname : IsRun isWord (bareName entry.1)) (h : bareName entry.1 ∉ names before) :
    fillNamed (':' :: bareName entry.1) (before ++ entry :: after) =
      fillNamed entry.2.literal.toList after := by
  have hbefore : fillNamed (':' :: bareName entry.1) before = ':' :: bareName entry.1 :=
    fillNamed_marker_of_not_mem hname h
  rw [fillNamed, List.foldl_append]
  show fillNamed (fillNamed (':' :: bareName entry.1) before) (entry :: after) = _
  rw [hbefore, fillNamed_cons, replaceNamed_marker hname, if_pos rfl]

theorem isEnclosed_fillNamed (hentries : AreProper entries) (h : Enclosed ':' chars) :
    Enclosed ':' (fillNamed chars entries) := by
  induction entries generalizing chars with
  | nil => exact h
  | cons entry entries ih =>
    have hpass := enclosed_replaceNamed (hentries.name entry List.mem_cons_self)
      (hentries.literal entry List.mem_cons_self).colon h
    exact ih (hentries.of_subset (List.subset_cons_self _ _)) hpass

theorem head?_fillNamed (h : ':' ∉ chars.head?) (entries : List (String × Value)) :
    (fillNamed chars entries).head? = chars.head? := by
  induction entries generalizing chars with
  | nil => rfl
  | cons entry entries ih =>
    have hpass : (replaceNamed entry.1 entry.2.literal chars).head? = chars.head? :=
      head?_replaceNamed h
    rw [fillNamed_cons, ih (hpass ▸ h), hpass]

end SqlToolkit.Interpolation
