import SqlToolkit.Proofs.Text.Scan

/-!
# Texts cut at a separator

A text is cut into pieces at every occurrence of a separator, or into two parts at the first or the
last one. What is put together with separators is cut where they were put, as long as no part has a
separator of its own. The separator is a character, or two different ones.
-/

namespace SqlToolkit.Text

variable {separator : Char} {chars front back : List Char}

/-! ## Cutting everywhere -/

theorem splitAtChar_of_not_mem (h : separator ∉ chars) : splitAtChar separator chars = [chars] := by
  induction chars with
  | nil => rfl
  | cons c rest ih =>
    obtain ⟨hc, hrest⟩ := not_or.mp fun hmem => h (List.mem_cons.mpr hmem)
    rw [splitAtChar, if_neg (Ne.symm hc), ih hrest]

/-- A text is cut at a separator before and behind it by itself. -/
theorem splitAtChar_concat (front back : List Char) :
    splitAtChar separator (front ++ separator :: back) =
      splitAtChar separator front ++ splitAtChar separator back := by
  induction front with
  | nil => simp [splitAtChar]
  | cons c rest ih =>
    by_cases hc : c = separator
    · simp [splitAtChar, hc, ih]
    · obtain ⟨piece, more, hpieces⟩ :=
        List.exists_cons_of_ne_nil (splitAtChar_ne_nil separator rest)
      simp [splitAtChar, hc, ih, hpieces]

theorem splitAtChar_append (h : separator ∉ front) (back : List Char) :
    splitAtChar separator (front ++ separator :: back) = front :: splitAtChar separator back := by
  rw [splitAtChar_concat, splitAtChar_of_not_mem h]
  rfl

/-- A piece is a part of the text without separators. -/
theorem of_mem_splitAtChar {piece : List Char} (h : piece ∈ splitAtChar separator chars) :
    separator ∉ piece ∧ piece ⊆ chars := by
  induction chars generalizing piece with
  | nil =>
    obtain rfl := List.mem_singleton.mp h
    simp
  | cons c rest ih =>
    unfold splitAtChar at h
    split at h
    · rcases List.mem_cons.mp h with rfl | h
      · simp
      · exact ⟨(ih h).1, fun d hd => List.mem_cons_of_mem c ((ih h).2 hd)⟩
    · next hc =>
      obtain ⟨first, more, hpieces⟩ :=
        List.exists_cons_of_ne_nil (splitAtChar_ne_nil separator rest)
      rw [hpieces] at h ih
      rcases List.mem_cons.mp h with rfl | h
      · obtain ⟨hfirst, hsubset⟩ := ih List.mem_cons_self
        exact ⟨by simp [Ne.symm hc, hfirst], List.cons_subset_cons c hsubset⟩
      · obtain ⟨hpiece, hsubset⟩ := ih (List.mem_cons_of_mem _ h)
        exact ⟨hpiece, fun d hd => List.mem_cons_of_mem c (hsubset hd)⟩

/-- Pieces that are put together are the pieces again. -/
theorem splitAtChar_intercalate {pieces : List (List Char)} (hne : pieces ≠ [])
    (h : ∀ piece ∈ pieces, separator ∉ piece) :
    splitAtChar separator ([separator].intercalate pieces) = pieces := by
  induction pieces with
  | nil => exact absurd rfl hne
  | cons piece more ih =>
    have hpiece := h piece List.mem_cons_self
    cases more with
    | nil => rw [List.intercalate_singleton, splitAtChar_of_not_mem hpiece]
    | cons next more =>
      have hmore := ih (List.cons_ne_nil _ _) fun other ho => h other (List.mem_cons_of_mem piece ho)
      rw [List.intercalate_cons_cons, List.append_assoc, List.singleton_append,
        splitAtChar_append hpiece, hmore]

/-! ## Cutting once -/

theorem cutAtChar?_append (h : separator ∉ front) (back : List Char) :
    cutAtChar? separator (front ++ separator :: back) = some (front, back) := by
  refine search_append (fun c hc more => ?_) (by simp [dropText?])
  have hne : separator ≠ c := fun heq => h (heq ▸ hc)
  rw [dropText?, if_neg hne]

theorem cutAtChar?_of_not_mem (h : separator ∉ chars) : cutAtChar? separator chars = none := by
  have hpast : ∀ c ∈ chars, ∀ more, dropText? [separator] (c :: more) = none := by
    intro c hc more
    have hne : separator ≠ c := fun heq => h (heq ▸ hc)
    rw [dropText?, if_neg hne]
  have hsearch := search_past hpast []
  rw [List.append_nil] at hsearch
  rw [cutAtChar?, cutAt?, hsearch]
  rfl

theorem cutAtLastChar?_append (h : separator ∉ back) (front : List Char) :
    cutAtLastChar? separator (front ++ separator :: back) = some (front, back) := by
  have hreverse : (front ++ separator :: back).reverse =
      back.reverse ++ separator :: front.reverse := by simp
  rw [cutAtLastChar?, hreverse, cutAtChar?_append (by simpa using h)]
  simp

theorem cutAtLastChar?_of_not_mem (h : separator ∉ chars) :
    cutAtLastChar? separator chars = none := by
  rw [cutAtLastChar?, cutAtChar?_of_not_mem (by simpa using h)]
  rfl

/-- A text is cut at the latest where the reader succeeds. -/
theorem exists_cutAt? {reader : List Char → Option (List Char)} {rest : List Char}
    (h : (reader rest).isSome = true) (passed : List Char) :
    ∃ before more answer, passed = before ++ more ∧
      cutAt? reader (passed ++ rest) = some (before, answer) := by
  unfold cutAt?
  induction passed with
  | nil =>
    obtain ⟨answer, hanswer⟩ := Option.isSome_iff_exists.mp h
    exact ⟨[], [], answer, rfl, search_of_reads hanswer⟩
  | cons c passed ih =>
    rw [List.cons_append, search]
    cases hread : reader (c :: (passed ++ rest)) with
    | some answer => exact ⟨[], c :: passed, answer, rfl, rfl⟩
    | none =>
      obtain ⟨before, more, answer, rfl, hcut⟩ := ih
      exact ⟨c :: before, more, answer, rfl, by rw [hcut]; rfl⟩

/-! ## Cutting at a text -/

section Stops

variable {first : Char} {more : List Char}

/-- A separator whose first character it has once does not begin in a text without it, even if a
separator follows. -/
theorem dropText?_of_absent (hfirst : first ∉ more) (h : ¬ (first :: more) <:+: front)
    {part : List Char} (hpart : part ≠ []) (hsuffix : part <:+ front) (back : List Char) :
    dropText? (first :: more) (part ++ (first :: more ++ back)) = none := by
  rw [Option.eq_none_iff_forall_ne_some]
  intro rest hread
  rcases List.append_eq_append_iff.mp (dropText?_eq_some_iff.mp hread) with
    ⟨left, hseparator, hback⟩ | ⟨left, hpast, -⟩
  · -- the separator begins in the part and ends behind it, where another one begins
    obtain ⟨c, part, rfl⟩ := List.exists_cons_of_ne_nil hpart
    obtain ⟨rfl, hmore⟩ : first = c ∧ more = part ++ left := List.cons.inj hseparator
    cases left with
    | nil =>
      rw [List.append_nil] at hmore
      exact h (hmore ▸ hsuffix.isInfix)
    | cons d left =>
      obtain ⟨rfl, -⟩ := List.cons.inj hback
      exact hfirst (hmore ▸ by simp)
  · subst hpast
    exact h ((List.prefix_append _ left).isInfix.trans hsuffix.isInfix)

/-- A text is cut at the first separator. -/
theorem cutAt?_append (hfirst : first ∉ more) (h : ¬ (first :: more) <:+: front)
    (back : List Char) :
    cutAt? (dropText? (first :: more)) (front ++ (first :: more ++ back)) = some (front, back) :=
  search_behind (fun _ hpart hsuffix => dropText?_of_absent hfirst h hpart hsuffix back)
    (dropText?_eq_some_iff.mpr rfl)

end Stops

/-! ## Cutting at a text of two characters -/

section Pairs

variable {first second : Char}

theorem cutAt?_pair_append (hne : first ≠ second) (h : ¬ [first, second] <:+: front)
    (back : List Char) :
    cutAt? (dropText? [first, second]) (front ++ first :: second :: back) = some (front, back) :=
  cutAt?_append (by simpa using hne) h back

theorem cutAt?_pair_of_absent (h : ¬ [first, second] <:+: chars) :
    cutAt? (dropText? [first, second]) chars = none := by
  rw [Option.eq_none_iff_forall_ne_some]
  rintro ⟨before, answer⟩ hcut
  obtain ⟨rest, rfl, hread⟩ := of_search hcut
  rw [dropText?_eq_some_iff.mp hread] at h
  exact h ⟨before, answer, by simp⟩

theorem splitAtText_of_none {separator : List Char}
    (h : cutAt? (dropText? separator) chars = none) (fuel : Nat) :
    splitAtText separator fuel chars = [chars] := by
  cases fuel with
  | zero => rfl
  | succ fuel => rw [splitAtText, h]

/-- The length of the text is fuel enough. -/
theorem splitAtText_pair (first second : Char) {fuel : Nat} (h : chars.length ≤ fuel) :
    splitAtText [first, second] fuel chars = splitAtText [first, second] chars.length chars := by
  induction hn : chars.length using Nat.strongRecOn generalizing chars fuel with
  | _ n ih =>
    subst hn
    cases hcut : cutAt? (dropText? [first, second]) chars with
    | none => rw [splitAtText_of_none hcut, splitAtText_of_none hcut]
    | some cut =>
      obtain ⟨piece, rest⟩ := cut
      obtain ⟨behind, hchars, hread⟩ := of_search hcut
      rw [dropText?_eq_some_iff.mp hread] at hchars
      obtain ⟨length, hlength, hrest⟩ : ∃ length, chars.length = length + 1 ∧
          rest.length ≤ length :=
        ⟨piece.length + rest.length + 1, by simp [hchars]; omega, by omega⟩
      obtain ⟨fuel, rfl⟩ := Nat.exists_eq_add_of_le' (Nat.le_trans (by omega : 1 ≤ _) h)
      rw [hlength, splitAtText, splitAtText, hcut]
      dsimp only
      rw [ih rest.length (by omega) (by omega : rest.length ≤ fuel) rfl,
        ih rest.length (by omega) hrest rfl]

theorem splitAtText_pair_append (hne : first ≠ second) (h : ¬ [first, second] <:+: front)
    (back : List Char) :
    let chars := front ++ first :: second :: back
    splitAtText [first, second] chars.length chars =
      front :: splitAtText [first, second] back.length back := by
  intro chars
  have hlength : chars.length = front.length + back.length + 1 + 1 := by simp [chars]; omega
  rw [hlength, splitAtText, cutAt?_pair_append hne h]
  dsimp only
  rw [splitAtText_pair first second (by omega)]

theorem splitAtText_pair_of_absent (h : ¬ [first, second] <:+: chars) :
    splitAtText [first, second] chars.length chars = [chars] :=
  splitAtText_of_none (cutAt?_pair_of_absent h) _

theorem exists_first_pair (h : [first, second] <:+: chars) :
    ∃ front back, chars = front ++ first :: second :: back ∧ ¬ [first, second] <:+: front := by
  induction hn : chars.length using Nat.strongRecOn generalizing chars with
  | _ n ih =>
    subst hn
    obtain ⟨front, back, rfl⟩ := h
    by_cases hfront : [first, second] <:+: front
    · obtain ⟨before, between, rfl, hbefore⟩ := ih front.length (by simp) hfront rfl
      exact ⟨before, between ++ first :: second :: back, by simp, hbefore⟩
    · exact ⟨front, back, by simp, hfront⟩

/-- A text is cut at a separator before and behind it by itself. -/
theorem splitAtText_pair_concat (hne : first ≠ second) (front back : List Char) :
    let chars := front ++ first :: second :: back
    splitAtText [first, second] chars.length chars =
      splitAtText [first, second] front.length front ++
        splitAtText [first, second] back.length back := by
  induction hn : front.length using Nat.strongRecOn generalizing front with
  | _ n ih =>
    subst hn
    by_cases h : [first, second] <:+: front
    · obtain ⟨before, between, rfl, hbefore⟩ := exists_first_pair h
      have hbetween := ih between.length (by simp; omega) between rfl
      have hfront := splitAtText_pair_append hne hbefore between
      have hchars := splitAtText_pair_append hne hbefore (between ++ first :: second :: back)
      dsimp only at hbetween hfront hchars ⊢
      rw [hfront, List.cons_append, ← hbetween, ← hchars, List.append_assoc, List.cons_append,
        List.cons_append]
    · rw [splitAtText_pair_of_absent h]
      exact splitAtText_pair_append hne h back

end Pairs

end SqlToolkit.Text
