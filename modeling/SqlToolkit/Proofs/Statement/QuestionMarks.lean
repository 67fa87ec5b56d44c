import SqlToolkit.Proofs.Statement.Template

/-!
# The values for question marks

Each value takes the place of the first question mark that is left. That is the one it is for as
long as no literal in front of it has one. Where a literal has one and another value comes, the
literal loses it: from there on the text begins with fewer question marks than it should, whatever
the values are. So each value is in its place if and only if no literal has a question mark when
another value comes.
-/

namespace SqlToolkit.Interpolation

open SqlToolkit.Text

variable {old : Char} {new front rest literal text : List Char} {literals : List (List Char)}

/-! ## The first question mark -/

theorem replaceFirst_append_of_not_mem (h : old ∉ front) (rest : List Char) :
    replaceFirst old new (front ++ rest) = front ++ replaceFirst old new rest := by
  induction front with
  | nil => rfl
  | cons c front ih =>
    obtain ⟨hne, hfront⟩ := not_or.mp fun hmem => h (List.mem_cons.mpr hmem)
    rw [List.cons_append, replaceFirst, if_neg (Ne.symm hne), ih hfront, List.cons_append]

theorem replaceFirst_of_not_mem (h : old ∉ text) : replaceFirst old new text = text := by
  have hall : replaceFirst old new (text ++ []) = text ++ replaceFirst old new [] :=
    replaceFirst_append_of_not_mem h []
  rwa [List.append_nil, replaceFirst, List.append_nil] at hall

theorem replaceFirst_cons_self (old : Char) (new rest : List Char) :
    replaceFirst old new (old :: rest) = new ++ rest := if_pos rfl

theorem replaceFirst_split (new : List Char) (h : old ∈ text) :
    ∃ front rest, text = front ++ old :: rest ∧
      replaceFirst old new text = front ++ (new ++ rest) := by
  obtain ⟨front, rest, rfl, hfront⟩ := List.eq_append_cons_of_mem h
  refine ⟨front, rest, rfl, ?_⟩
  rw [replaceFirst_append_of_not_mem hfront, replaceFirst_cons_self]

/-- Puts each literal in the place of the first question mark that is left. -/
def fillTexts (text : List Char) (literals : List (List Char)) : List Char :=
  literals.foldl (fun text literal => replaceFirst '?' literal text) text

theorem fillPositional_eq_fillTexts (text : List Char) (values : List Value) :
    fillPositional text values = fillTexts text (values.map (·.literal.toList)) := by
  rw [fillTexts, List.foldl_map, fillPositional]

theorem fillTexts_cons (text literal : List Char) (literals : List (List Char)) :
    fillTexts text (literal :: literals) = fillTexts (replaceFirst '?' literal text) literals := rfl

theorem fillTexts_of_not_mem (h : '?' ∉ text) (literals : List (List Char)) :
    fillTexts text literals = text := by
  induction literals with
  | nil => rfl
  | cons literal literals ih => rw [fillTexts_cons, replaceFirst_of_not_mem h, ih]

theorem fillTexts_append_of_not_mem (h : '?' ∉ front) (rest : List Char)
    (literals : List (List Char)) :
    fillTexts (front ++ rest) literals = front ++ fillTexts rest literals := by
  induction literals generalizing rest with
  | nil => rfl
  | cons literal literals ih =>
    rw [fillTexts_cons, replaceFirst_append_of_not_mem h, ih, fillTexts_cons]

/-- As long as there are question marks, each literal adds its weight. -/
theorem weight_fillTexts (of : Char → Int) (hquestion : of '?' = 0)
    (hliterals : ∀ literal ∈ literals, 0 ≤ weight of literal) {count : Nat}
    (hcount : count ≤ text.count '?') :
    weight of text + weight of (literals.take count).flatten ≤
      weight of (fillTexts text literals) := by
  induction literals generalizing text count with
  | nil => simp [fillTexts, weight]
  | cons literal literals ih =>
    obtain ⟨hliteral, hrest⟩ := List.forall_mem_cons.mp hliterals
    rw [fillTexts_cons]
    by_cases hmem : '?' ∈ text
    · obtain ⟨front, rest, rfl, hreplaced⟩ := replaceFirst_split literal hmem
      rw [List.count_append, List.count_cons_self] at hcount
      have hfewer : count - 1 ≤ (front ++ (literal ++ rest)).count '?' := by
        rw [List.count_append, List.count_append]
        omega
      have hmore := ih hrest hfewer
      rw [hreplaced]
      simp only [weight_append, weight_cons, hquestion] at hmore ⊢
      cases count with
      | zero =>
        simp only [List.take_zero, List.flatten_nil, weight, Nat.zero_sub] at hmore ⊢
        omega
      | succ count =>
        simp only [List.take_succ_cons, List.flatten_cons, weight_append,
          Nat.add_sub_cancel] at hmore ⊢
        omega
    · rw [List.count_eq_zero.mpr hmem, Nat.le_zero] at hcount
      subst hcount
      rw [replaceFirst_of_not_mem hmem]
      exact ih hrest (Nat.zero_le _)

/-! ## A literal that has a question mark -/

/-- A text begins with few question marks, and then with something else. -/
def Opens (most : Nat) (text : List Char) : Prop :=
  ∃ few c rest, few ≤ most ∧ c ≠ '?' ∧ text = List.replicate few '?' ++ c :: rest

theorem opens_replaceFirst {few : Nat} {c : Char} (hliteral : '?' ∉ literal.head?) (hc : c ≠ '?')
    (rest : List Char) :
    Opens few (replaceFirst '?' literal (List.replicate (few + 1) '?' ++ c :: rest)) := by
  rw [List.replicate_succ, List.cons_append, replaceFirst_cons_self]
  cases literal with
  | nil => exact ⟨few, c, rest, Nat.le_refl _, hc, rfl⟩
  | cons d literal =>
    exact ⟨0, d, _, Nat.zero_le _, fun heq => hliteral (by simp [heq]), rfl⟩

theorem Opens.replaceFirst {most : Nat} (h : Opens most text) (hliteral : '?' ∉ literal.head?) :
    Opens most (replaceFirst '?' literal text) := by
  obtain ⟨few, c, rest, hfew, hc, rfl⟩ := h
  cases few with
  | zero => exact ⟨0, c, _, Nat.zero_le _, hc, if_neg hc⟩
  | succ few =>
    obtain ⟨fewer, d, more, hfewer, hd, heq⟩ := opens_replaceFirst hliteral hc rest
    exact ⟨fewer, d, more, by omega, hd, heq⟩

theorem Opens.fillTexts {most : Nat} (h : Opens most text)
    (hliterals : ∀ literal ∈ literals, '?' ∉ literal.head?) :
    Opens most (fillTexts text literals) := by
  induction literals generalizing text with
  | nil => exact h
  | cons literal literals ih =>
    obtain ⟨hliteral, hrest⟩ := List.forall_mem_cons.mp hliterals
    exact ih (h.replaceFirst hliteral) hrest

/-- What begins with fewer question marks is another text. -/
theorem Opens.ne {most : Nat} (h : Opens most text) (rest : List Char) :
    text ≠ List.replicate (most + 1) '?' ++ rest := by
  obtain ⟨few, c, more, hfew, hc, rfl⟩ := h
  intro heq
  have hat := congrArg (·[few]?) heq
  rw [List.getElem?_append_right (by simp), List.length_replicate, Nat.sub_self,
    List.getElem?_append_left (by simp; omega)] at hat
  rw [List.getElem?_cons_zero, List.getElem?_replicate, if_pos (by omega)] at hat
  exact hc (Option.some.inj hat)

theorem exists_opening (h : '\'' ∈ text) :
    ∃ few c rest, c ≠ '?' ∧ text = List.replicate few '?' ++ c :: rest := by
  induction text with
  | nil => cases h
  | cons c text ih =>
    by_cases hc : c = '?'
    · subst hc
      obtain ⟨few, d, rest, hd, rfl⟩ := ih ((List.mem_cons.mp h).resolve_left (by decide))
      exact ⟨few + 1, d, rest, hd, rfl⟩
    · exact ⟨0, c, text, hc, rfl⟩

/-- A literal in front stays as it is if and only if it has no question mark when a value comes. -/
theorem fillTexts_append_iff {expected : List Char} (henclosed : Enclosed '?' front)
    (hliterals : ∀ literal ∈ literals, '?' ∉ literal.head?) :
    fillTexts (front ++ rest) literals = front ++ expected ↔
      (literals ≠ [] → '?' ∉ front) ∧ fillTexts rest literals = expected := by
  by_cases hmem : '?' ∈ front
  · cases literals with
    | nil => simp [fillTexts]
    | cons literal literals =>
      obtain ⟨hliteral, hrest⟩ := List.forall_mem_cons.mp hliterals
      refine iff_of_false (fun heq => ?_) fun h => h.1 (List.cons_ne_nil _ _) hmem
      obtain ⟨before, behind, rfl, hbefore⟩ := List.eq_append_cons_of_mem hmem
      obtain ⟨few, c, more, hc, rfl⟩ := exists_opening (henclosed behind (List.suffix_append _ _))
      -- the first value takes one question mark of the literal, and no later one brings it back
      have hopens : Opens few (fillTexts (replaceFirst '?' literal
          (List.replicate (few + 1) '?' ++ c :: (more ++ rest))) literals) :=
        (opens_replaceFirst hliteral hc _).fillTexts hrest
      refine hopens.ne (c :: (more ++ expected)) ?_
      have hshape (tail : List Char) :
          before ++ '?' :: (List.replicate few '?' ++ c :: more) ++ tail =
            before ++ (List.replicate (few + 1) '?' ++ c :: (more ++ tail)) := by
        simp [List.replicate_succ]
      rw [hshape, hshape, fillTexts_append_of_not_mem hbefore, fillTexts_cons] at heq
      exact List.append_cancel_left heq
  · rw [fillTexts_append_of_not_mem hmem, List.append_cancel_left_eq]
    simp [hmem]

namespace Segments

variable {entries : List (String × Value)} {segments : Segments} {next : Nat → List Char}
  {used : Nat}

def nextCount : Segments → Nat
  | [] => 0
  | (.named _, _) :: segments => nextCount segments
  | (.next, _) :: segments => nextCount segments + 1

/-- No literal has a question mark when another of so many values comes. -/
def ClearOf (count : Nat) (named : List Char → List Char) (next : Nat → List Char) :
    Nat → Segments → Prop
  | _, [] => True
  | used, (.named name, _) :: segments =>
    (used < count → '?' ∉ named name) ∧ ClearOf count named next used segments
  | used, (.next, _) :: segments =>
    (used + 1 < count → '?' ∉ next (used + 1)) ∧ ClearOf count named next (used + 1) segments

/-- The values for the question marks, after some others. -/
def Continues (next : Nat → List Char) (used : Nat) (literals : List (List Char))
    (segments : Segments) : Prop :=
  ∀ index < segments.nextCount, literals[index]? = some (next (used + index + 1))

theorem Continues.cons {text : List Char}
    (h : Continues next used literals ((.next, text) :: segments)) :
    ∃ others, literals = next (used + 1) :: others ∧ Continues next (used + 1) others segments := by
  cases literals with
  | nil => exact absurd (h 0 (Nat.succ_pos _)) (by simp)
  | cons literal others =>
    have hfirst := h 0 (Nat.succ_pos _)
    rw [List.getElem?_cons_zero, Nat.add_zero] at hfirst
    refine ⟨others, by rw [Option.some.inj hfirst], fun index hindex => ?_⟩
    have hrest := h (index + 1) (Nat.succ_lt_succ hindex)
    rw [List.getElem?_cons_succ] at hrest
    rw [hrest, Nat.add_right_comm used 1 index]
    rfl

/-- Where the names are put in, each value takes its place if and only if no literal has a question
mark when another value comes. -/
theorem fillTexts_settled_iff (hproper : IsProper segments)
    (hnamed : ∀ name ∈ segments.markerNames, IsLiteral (literalOf entries name))
    (hliterals : ∀ literal ∈ literals, IsLiteral literal)
    (hcontinues : Continues next used literals segments) :
    fillTexts (settled entries used segments) literals =
        filled (literalOf entries) next used segments ↔
      ClearOf (used + literals.length) (literalOf entries) next used segments := by
  induction segments generalizing used literals with
  | nil => exact iff_of_true (fillTexts_of_not_mem List.not_mem_nil literals) trivial
  | cons segment rest ih =>
    have hheads : ∀ literal ∈ literals, '?' ∉ literal.head? :=
      fun literal hmem hhead => ((hliterals literal hmem).head '?' hhead).2 rfl
    have hrest := hproper.of_suffix (List.suffix_cons segment rest)
    have htext : '?' ∉ segment.2 := (hproper.text segment List.mem_cons_self).question
    match segment with
    | (.named name, text) =>
      obtain ⟨hname, hnamed⟩ := List.forall_mem_cons.mp hnamed
      rw [settled_named, filled, fillTexts_append_iff hname.question hheads,
        fillTexts_append_of_not_mem htext, List.append_cancel_left_eq,
        ih hrest hnamed hliterals hcontinues, ClearOf, ← List.length_pos_iff]
      exact and_congr_left' (imp_congr_left (by omega))
    | (.next, text) =>
      obtain ⟨others, rfl, hothers⟩ := hcontinues.cons
      obtain ⟨hliteral, hliterals⟩ := List.forall_mem_cons.mp hliterals
      rw [settled_next, filled, fillTexts_cons, List.singleton_append, replaceFirst_cons_self,
        fillTexts_append_iff hliteral.question (List.forall_mem_cons.mp hheads).2,
        fillTexts_append_of_not_mem htext, List.append_cancel_left_eq,
        ih hrest hnamed hliterals hothers, ClearOf, ← List.length_pos_iff, List.length_cons]
      rw [show used + 1 + others.length = used + (others.length + 1) by omega]
      exact and_congr_left' (imp_congr_left (by omega))

theorem nextCount_le_count (entries : List (String × Value)) (segments : Segments) :
    segments.nextCount ≤ (passed entries segments).count '?' := by
  induction segments with
  | nil => exact Nat.le_refl _
  | cons segment rest ih =>
    match segment with
    | (.named name, text) =>
      rw [passed_cons, nextCount, List.count_append, List.count_append]
      omega
    | (.next, text) =>
      rw [passed_cons, nextCount, Mark.source, fillNamed_of_not_mem (by decide), List.count_append,
        List.count_append, List.count_singleton_self]
      omega

theorem weight_filled (of : Char → Int) (entries : List (String × Value)) (hquestion : of '?' = 0)
    (hcontinues : Continues next used literals segments) :
    weight of (filled (literalOf entries) next used segments) =
      weight of (settled entries used segments) +
        weight of (literals.take segments.nextCount).flatten := by
  induction segments generalizing used literals with
  | nil => rfl
  | cons segment rest ih =>
    match segment with
    | (.named name, text) =>
      rw [settled_named, filled, nextCount]
      simp only [weight_append, ih hcontinues]
      omega
    | (.next, text) =>
      obtain ⟨others, rfl, hothers⟩ := hcontinues.cons
      rw [settled_next, filled, nextCount, List.take_succ_cons, List.flatten_cons]
      simp only [weight_append, weight, hquestion, ih hothers]
      omega

/-- Passes and values leave the statement with its literals if and only if no pass finds a marker
in a literal, and no literal has a question mark when another value comes. -/
theorem fillTexts_fillNamed_iff (hentries : AreProper entries) (hproper : IsProper segments)
    (hapart : Apart entries segments)
    (hnamed : ∀ name ∈ segments.markerNames, name ∈ names entries)
    (hliterals : ∀ literal ∈ literals, IsLiteral literal)
    (hcontinues : Continues next 0 literals segments) :
    fillTexts (fillNamed segments.source entries) literals =
        filled (literalOf entries) next 0 segments ↔
      (∀ name ∈ segments.markerNames, Untouched entries name) ∧
        ClearOf literals.length (literalOf entries) next 0 segments := by
  rw [fillNamed_source hentries hproper hapart]
  by_cases huntouched : ∀ name ∈ segments.markerNames, Untouched entries name
  · rw [passed_of_untouched hentries hnamed huntouched 0, and_iff_right huntouched]
    have hall := fillTexts_settled_iff hproper
      (fun name hname => isLiteral_literalOf hentries (hnamed name hname)) hliterals hcontinues
    rwa [Nat.zero_add] at hall
  · refine iff_of_false (fun heq => ?_) fun h => huntouched h.1
    have hbound (literal) (hmem : literal ∈ entries.map (·.2.literal.toList) ++ literals) :
        literal.count ':' ≤ (entries.map (·.2.literal.toList) ++ literals).flatten.count ':' :=
      (List.sublist_flatten_of_mem hmem).count_le ':'
    generalize (entries.map (·.2.literal.toList) ++ literals).flatten.count ':' = bound at hbound
    have hentryBound : Bounds bound entries := fun entry hentry =>
      hbound _ (List.mem_append_left _ (List.mem_map_of_mem hentry))
    have hless := (weight_passed hentries hentryBound hnamed 0).resolve_left huntouched
    have hpassed := weight_fillTexts (noise bound) rfl
      (fun literal hmem => weight_noise_nonneg (hliterals literal hmem).colon
        (hbound literal (List.mem_append_right _ hmem))) (nextCount_le_count entries segments)
    have hfilled := weight_filled (noise bound) entries rfl hcontinues
    rw [heq] at hpassed
    omega

end Segments

end SqlToolkit.Interpolation
