import SqlToolkit.Proofs.Text.Scan

/-!
# What a substitution replaces

A substitution goes through a text from the left. Where its reader fails it keeps a character, and
where the reader succeeds it writes the new text and goes on behind what was read. When the new text
weighs more than what it stands for, by any weight of characters, a text is left as it is just if
the reader succeeds nowhere. A shorter text weighs more if every character counts for minus one.
-/

namespace SqlToolkit.Text

variable {reader : List Char → Option (List Char)} {new chars rest : List Char}

/-- The reader succeeds at no character of the text. -/
def Nowhere {α : Type} (reader : List Char → Option α) (chars : List Char) : Prop :=
  ∀ rest, rest ≠ [] → rest <:+ chars → reader rest = none

/-- What the reader passes over is longer than the new text. -/
def Shortens (new : List Char) (reader : List Char → Option (List Char)) : Prop :=
  ∀ chars rest, reader chars = some rest →
    ∃ read, chars = read ++ rest ∧ new.length < read.length

/-- The reader passes over some character where it succeeds. -/
def Consumes (reader : List Char → Option (List Char)) : Prop :=
  ∀ chars rest, reader chars = some rest → ∃ read, chars = read ++ rest ∧ read ≠ []

theorem Shortens.consumes (h : Shortens new reader) : Consumes reader := by
  intro chars rest hread
  obtain ⟨read, hchars, hlength⟩ := h chars rest hread
  exact ⟨read, hchars, fun hnil => by simp [hnil] at hlength⟩

theorem nowhere_nil {α : Type} {reader : List Char → Option α} : Nowhere reader [] :=
  fun _ hne hsuffix => absurd (List.suffix_nil.mp hsuffix) hne

theorem nowhere_cons {α : Type} {reader : List Char → Option α} {c : Char} :
    Nowhere reader (c :: chars) ↔ reader (c :: chars) = none ∧ Nowhere reader chars := by
  constructor
  · intro h
    exact ⟨h _ (List.cons_ne_nil _ _) List.suffix_rfl,
      fun rest hne hsuffix => h rest hne (hsuffix.trans (List.suffix_cons c chars))⟩
  · rintro ⟨hhead, htail⟩ rest hne hsuffix
    obtain rfl | hsuffix := List.suffix_cons_iff.mp hsuffix
    · exact hhead
    · exact htail rest hne hsuffix

/-- A reader that begins with one of some characters succeeds nowhere in a text without them. -/
theorem nowhere_of_forall_cons {α : Type} {reader : List Char → Option α}
    (h : ∀ c ∈ chars, ∀ more, reader (c :: more) = none) : Nowhere reader chars := by
  intro rest hne hsuffix
  obtain ⟨c, more, rfl⟩ := List.exists_cons_of_ne_nil hne
  exact h c (hsuffix.mem List.mem_cons_self) more

theorem Nowhere.of_suffix {α : Type} {reader : List Char → Option α} (h : Nowhere reader chars)
    (hsuffix : rest <:+ chars) : Nowhere reader rest :=
  fun more hne hmore => h more hne (hmore.trans hsuffix)

theorem nowhere_append {α : Type} {reader : List Char → Option α}
    (h : ∀ front, front ≠ [] → front <:+ chars → reader (front ++ rest) = none)
    (hrest : Nowhere reader rest) : Nowhere reader (chars ++ rest) := by
  induction chars with
  | nil => exact hrest
  | cons c more ih =>
    rw [List.cons_append, nowhere_cons]
    exact ⟨h (c :: more) (List.cons_ne_nil _ _) List.suffix_rfl,
      ih fun front hne hsuffix => h front hne (hsuffix.trans (List.suffix_cons c more))⟩

/-! ## Steps -/

theorem substitute_covered (matcher : List Char → Option (List Char × Nat)) (covered : Nat)
    (chars : List Char) :
    substitute matcher covered chars = substitute matcher 0 (chars.drop covered) := by
  induction covered generalizing chars with
  | zero => rw [List.drop_zero]
  | succ covered ih =>
    cases chars with
    | nil => rfl
    | cons c more => exact ih more

theorem substitute_of_none {c : Char} {more : List Char} (h : reader (c :: more) = none) :
    substitute (replacing new reader) 0 (c :: more) =
      c :: substitute (replacing new reader) 0 more := by
  rw [substitute, replacing, h]
  rfl

theorem substitute_of_consumes (hconsumes : Consumes reader) (h : reader chars = some rest) :
    substitute (replacing new reader) 0 chars =
      new ++ substitute (replacing new reader) 0 rest := by
  obtain ⟨read, rfl, hne⟩ := hconsumes _ _ h
  cases read with
  | nil => exact absurd rfl hne
  | cons c more =>
    have hcovered : (c :: more ++ rest).length - rest.length = more.length + 1 := by
      rw [List.length_append, Nat.add_sub_cancel, List.length_cons]
    have hmatch : replacing new reader (c :: more ++ rest) = some (new, more.length + 1) := by
      rw [replacing, h, Option.map_some, hcovered]
    rw [List.cons_append] at hmatch ⊢
    rw [substitute, hmatch]
    dsimp only
    rw [substitute_covered, List.drop_left]

theorem substitute_of_reads (hshort : Shortens new reader) (h : reader chars = some rest) :
    substitute (replacing new reader) 0 chars =
      new ++ substitute (replacing new reader) 0 rest :=
  substitute_of_consumes hshort.consumes h

/-- A substitution is done from the left: nothing at the end of a text, a character where the reader
fails, and what the reader passes over where it succeeds. -/
theorem substitute_induction (hconsumes : Consumes reader) {P : List Char → Prop} (nil : P [])
    (keep : ∀ c more, reader (c :: more) = none → P more → P (c :: more))
    (read : ∀ read rest, read ≠ [] → reader (read ++ rest) = some rest → P rest → P (read ++ rest))
    (chars : List Char) : P chars := by
  induction hn : chars.length using Nat.strongRecOn generalizing chars with
  | _ n ih =>
    subst hn
    cases chars with
    | nil => exact nil
    | cons c more =>
      cases hread : reader (c :: more) with
      | none => exact keep c more hread (ih more.length (Nat.lt_succ_self _) more rfl)
      | some rest =>
        obtain ⟨passed, hchars, hne⟩ := hconsumes _ _ hread
        have hlength : rest.length < (c :: more).length := by
          rw [hchars, List.length_append]
          have hpos := List.length_pos_iff.mpr hne
          omega
        rw [hchars] at hread ⊢
        exact read passed rest hne hread (ih rest.length hlength rest rfl)

/-- What stands before the first place where the reader succeeds is kept. -/
theorem substitute_append
    (h : ∀ front, front ≠ [] → front <:+ chars → reader (front ++ rest) = none) :
    substitute (replacing new reader) 0 (chars ++ rest) =
      chars ++ substitute (replacing new reader) 0 rest := by
  induction chars with
  | nil => rfl
  | cons c more ih =>
    have hmore := ih fun front hne hsuffix => h front hne (hsuffix.trans (List.suffix_cons c more))
    have hhead := h (c :: more) (List.cons_ne_nil _ _) List.suffix_rfl
    rw [List.cons_append] at hhead ⊢
    rw [substitute_of_none hhead, hmore]
    rfl

/-- Characters with which the reader cannot begin are kept. -/
theorem substitute_past (h : ∀ c ∈ chars, ∀ more, reader (c :: more) = none) (rest : List Char) :
    substitute (replacing new reader) 0 (chars ++ rest) =
      chars ++ substitute (replacing new reader) 0 rest := by
  refine substitute_append fun front hne hsuffix => ?_
  obtain ⟨c, more, rfl⟩ := List.exists_cons_of_ne_nil hne
  exact h c (hsuffix.mem List.mem_cons_self) (more ++ rest)

/-- A text is done piece by piece where the reader reads nothing that reaches over the seam. -/
theorem substitute_seam (hconsumes : Consumes reader)
    (h : ∀ front, front ≠ [] → front <:+ chars →
      reader (front ++ rest) = (reader front).map (· ++ rest)) :
    substitute (replacing new reader) 0 (chars ++ rest) =
      substitute (replacing new reader) 0 chars ++ substitute (replacing new reader) 0 rest := by
  induction chars using substitute_induction hconsumes with
  | nil => rfl
  | keep c more hread ih =>
    have hseam := h (c :: more) (List.cons_ne_nil _ _) List.suffix_rfl
    have hmore := ih fun front hne hsuffix => h front hne (hsuffix.trans (List.suffix_cons c more))
    rw [hread, Option.map_none] at hseam
    rw [List.cons_append] at hseam ⊢
    rw [substitute_of_none hseam, substitute_of_none hread, hmore]
    rfl
  | read passed left hne hread ih =>
    have hseam := h (passed ++ left) (by simp [hne]) List.suffix_rfl
    have hmore := ih fun front hfront hsuffix =>
      h front hfront (hsuffix.trans (List.suffix_append passed left))
    rw [hread, Option.map_some] at hseam
    rw [substitute_of_consumes hconsumes hseam, substitute_of_consumes hconsumes hread, hmore,
      List.append_assoc]

theorem substitute_split (hshort : Shortens new reader)
    (h : ∀ front, front ≠ [] → reader (front ++ rest) = (reader front).map (· ++ rest))
    (chars : List Char) :
    substitute (replacing new reader) 0 (chars ++ rest) =
      substitute (replacing new reader) 0 chars ++ substitute (replacing new reader) 0 rest :=
  substitute_seam hshort.consumes fun front hne _ => h front hne

theorem substitute_of_nowhere (h : Nowhere reader chars) :
    substitute (replacing new reader) 0 chars = chars := by
  have hall : substitute (replacing new reader) 0 (chars ++ []) =
      chars ++ substitute (replacing new reader) 0 [] :=
    substitute_append fun front hne hsuffix => (List.append_nil front).symm ▸ h front hne hsuffix
  rwa [List.append_nil, substitute, List.append_nil] at hall

/-! ## Weights -/

def weight (of : Char → Int) : List Char → Int
  | [] => 0
  | c :: rest => of c + weight of rest

theorem weight_cons (of : Char → Int) (c : Char) (rest : List Char) :
    weight of (c :: rest) = of c + weight of rest := rfl

theorem weight_append (of : Char → Int) (chars rest : List Char) :
    weight of (chars ++ rest) = weight of chars + weight of rest := by
  induction chars with
  | nil => rw [List.nil_append, weight, Int.zero_add]
  | cons c more ih => rw [List.cons_append, weight_cons, weight_cons, ih, Int.add_assoc]

theorem weight_eq_zero {of : Char → Int} (h : ∀ c ∈ chars, of c = 0) : weight of chars = 0 := by
  induction chars with
  | nil => rfl
  | cons c more ih =>
    rw [weight_cons, h c List.mem_cons_self, ih fun d hd => h d (List.mem_cons_of_mem c hd),
      Int.add_zero]

/-- The new text weighs more than what the reader passes over. -/
def Raises (of : Char → Int) (new : List Char) (reader : List Char → Option (List Char)) : Prop :=
  ∀ read rest, reader (read ++ rest) = some rest → weight of read < weight of new

variable {of : Char → Int}

/-- A substitution by a text of more weight raises the weight, unless it replaces nothing. -/
theorem weight_substitute (hconsumes : Consumes reader) (hraises : Raises of new reader)
    (chars : List Char) :
    Nowhere reader chars ∨
      weight of chars < weight of (substitute (replacing new reader) 0 chars) := by
  induction chars using substitute_induction hconsumes with
  | nil => exact .inl nowhere_nil
  | keep c more hread ih =>
    rw [substitute_of_none hread, nowhere_cons, weight_cons, weight_cons]
    rcases ih with hnowhere | hlt
    · exact .inl ⟨hread, hnowhere⟩
    · exact .inr (by omega)
  | read passed left hne hread ih =>
    have hpassed := hraises passed left hread
    rw [substitute_of_consumes hconsumes hread, weight_append, weight_append]
    rcases ih with hnowhere | hlt
    · rw [substitute_of_nowhere hnowhere]
      exact .inr (by omega)
    · exact .inr (by omega)

theorem weight_substitute_le (hconsumes : Consumes reader) (hraises : Raises of new reader)
    (chars : List Char) :
    weight of chars ≤ weight of (substitute (replacing new reader) 0 chars) := by
  rcases weight_substitute hconsumes hraises chars with hnowhere | hlt
  · exact Int.le_of_eq (by rw [substitute_of_nowhere hnowhere])
  · exact Int.le_of_lt hlt

/-! ## Lengths -/

theorem weight_neg_one (chars : List Char) : weight (fun _ => -1) chars = -chars.length := by
  induction chars with
  | nil => rfl
  | cons c more ih =>
    rw [weight_cons, ih, List.length_cons]
    omega

theorem Shortens.raises (hshort : Shortens new reader) : Raises (fun _ => -1) new reader := by
  intro read rest hread
  obtain ⟨passed, hpassed, hlength⟩ := hshort _ _ hread
  rw [weight_neg_one, weight_neg_one, List.append_cancel_right hpassed]
  omega

/-- A substitution by a shorter text makes a text shorter, unless it replaces nothing. -/
theorem length_substitute (hshort : Shortens new reader) (chars : List Char) :
    Nowhere reader chars ∨
      (substitute (replacing new reader) 0 chars).length < chars.length := by
  have hweight := weight_substitute hshort.consumes hshort.raises chars
  rw [weight_neg_one, weight_neg_one] at hweight
  exact hweight.imp_right fun hlt => by omega

theorem length_substitute_le (hshort : Shortens new reader) (chars : List Char) :
    (substitute (replacing new reader) 0 chars).length ≤ chars.length := by
  have hweight := weight_substitute_le hshort.consumes hshort.raises chars
  rw [weight_neg_one, weight_neg_one] at hweight
  omega

/-- A substitution that keeps the length replaced nothing. -/
theorem nowhere_of_length_le (hshort : Shortens new reader)
    (h : chars.length ≤ (substitute (replacing new reader) 0 chars).length) :
    Nowhere reader chars :=
  (length_substitute hshort chars).resolve_right (Nat.not_lt.mpr h)

end SqlToolkit.Text
