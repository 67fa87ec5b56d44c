import SqlToolkit.Pages.Links
import SqlToolkit.Proofs.Text.Boundary
import SqlToolkit.Proofs.Text.Substitution

/-!
# The page parameter in a query

The parameter that names a page is the name of the parameter, an equals sign and digits. Three
readers look for it: at the front of a query with another parameter behind it, at the front of a
query, and behind a separator. What each of them reads is said here once, for names that are made of
letters.
-/

namespace SqlToolkit.PageLinks

open SqlToolkit.Text

variable {name chars rest : List Char}

/-- The text is the page parameter. -/
def IsPage (name text : List Char) : Prop :=
  ∃ digits, text = name ++ '=' :: digits ∧ IsRun Char.isDigit digits

/-- The text is longer than the page parameter that it begins with. -/
def BeginsLikePage (name text : List Char) : Prop :=
  ∃ digits more, text = name ++ '=' :: (digits ++ more) ∧ IsRun Char.isDigit digits ∧
    more ≠ [] ∧ StopsAt Char.isDigit more

def IsLetters (name : List Char) : Prop := ∀ c ∈ name, c.isAlpha = true

theorem IsLetters.not_mem (h : IsLetters name) {c : Char} (hc : c.isAlpha = false) : c ∉ name := by
  intro hmem
  rw [h c hmem] at hc
  cases hc

/-! ## Reading the parameter -/

theorem dropDigits?_eq_some_iff :
    dropDigits? chars = some rest ↔
      ∃ digits, chars = digits ++ rest ∧ IsRun Char.isDigit digits ∧
        StopsAt Char.isDigit rest := by
  simp only [dropDigits?, Option.map_eq_some_iff, Prod.exists, takeRun?_eq_some_iff]
  constructor
  · rintro ⟨digits, _, h, rfl⟩
    exact ⟨digits, h⟩
  · rintro ⟨digits, h⟩
    exact ⟨digits, rest, h, rfl⟩

theorem dropPage?_eq_some_iff :
    dropPage? name chars = some rest ↔
      ∃ digits, chars = name ++ '=' :: (digits ++ rest) ∧ IsRun Char.isDigit digits ∧
        StopsAt Char.isDigit rest := by
  simp only [dropPage?, Option.bind_eq_some_iff, dropText?_eq_some_iff, dropDigits?_eq_some_iff]
  constructor
  · rintro ⟨_, ⟨_, rfl, rfl⟩, digits, rfl, h⟩
    exact ⟨digits, rfl, h⟩
  · rintro ⟨digits, rfl, h⟩
    exact ⟨_, ⟨_, rfl, rfl⟩, digits, rfl, h⟩

theorem isPage_iff {text : List Char} : IsPage name text ↔ dropPage? name text = some [] := by
  simp [IsPage, dropPage?_eq_some_iff, stopsAt_nil]

theorem beginsLikePage_iff {text : List Char} :
    BeginsLikePage name text ↔ ∃ more, more ≠ [] ∧ dropPage? name text = some more := by
  simp only [BeginsLikePage, dropPage?_eq_some_iff]
  constructor
  · rintro ⟨digits, more, htext, hdigits, hne, hstop⟩
    exact ⟨more, hne, digits, htext, hdigits, hstop⟩
  · rintro ⟨more, hne, digits, htext, hdigits, hstop⟩
    exact ⟨digits, more, htext, hdigits, hne, hstop⟩

instance (name text : List Char) : Decidable (IsPage name text) :=
  decidable_of_iff _ isPage_iff.symm

theorem beginsLikePage_iff_any {text : List Char} :
    BeginsLikePage name text ↔ (dropPage? name text).any (· ≠ []) = true := by
  rw [beginsLikePage_iff]
  cases dropPage? name text <;> simp

instance (name text : List Char) : Decidable (BeginsLikePage name text) :=
  decidable_of_iff _ beginsLikePage_iff_any.symm

instance (name : List Char) : Decidable (IsLetters name) :=
  decidable_of_iff (name.all Char.isAlpha = true) List.all_eq_true

/-- The parameter is not read past a character that it cannot have. -/
theorem dropPage?_haltsAt {stop : Char} (hname : stop ∉ name) (hequals : stop ≠ '=')
    (hdigit : stop.isDigit = false) : HaltsAt stop (dropPage? name) := by
  have hdigits : HaltsAt stop dropDigits? := by
    intro chars more
    rw [dropDigits?, takeRun?_append hdigit, dropDigits?]
    cases takeRun? Char.isDigit chars <;> rfl
  exact ((dropText?_haltsAt hname).bind (dropText?_haltsAt (by simpa using hequals))).bind hdigits

theorem dropPage?_ampersand (h : IsLetters name) : HaltsAt '&' (dropPage? name) :=
  dropPage?_haltsAt (h.not_mem (by decide)) (by decide) (by decide)

/-! ## At the front of a query -/

theorem dropText?_question_of_ne {c : Char} (h : c ≠ '?') (more : List Char) :
    dropText? ['?'] (c :: more) = none := by
  simp [dropText?, Ne.symm h]

theorem dropFirst?_of_ne {c : Char} (h : c ≠ '?') (more : List Char) :
    dropFirst? name (c :: more) = none := by
  rw [dropFirst?, dropText?_question_of_ne h]
  rfl

theorem dropFirst?_question (more : List Char) :
    dropFirst? name ('?' :: more) = dropPage? name more := rfl

theorem dropFirst?_ampersand (h : IsLetters name) : HaltsAt '&' (dropFirst? name) :=
  (dropText?_haltsAt (by decide)).bind (dropPage?_ampersand h)

theorem dropFirstOfMany?_eq (chars : List Char) :
    dropFirstOfMany? name chars =
      ((dropFirst? name chars).bind (dropText? ['&'])).map dropAmp := rfl

theorem dropFirstOfMany?_of_ne {c : Char} (h : c ≠ '?') (more : List Char) :
    dropFirstOfMany? name (c :: more) = none := by
  rw [dropFirstOfMany?_eq, dropFirst?_of_ne h]
  rfl

/-! ## Behind a separator -/

theorem dropLater?_of_ne {c : Char} (h : c ≠ '&') (more : List Char) :
    dropLater? name (c :: more) = none := by
  simp [dropLater?, dropText?, Ne.symm h]

theorem dropLater?_plain (h : dropText? "amp;".toList chars = none) :
    dropLater? name ('&' :: chars) = dropPage? name chars := by
  have hamp : dropText? ['&'] ('&' :: chars) = some chars := rfl
  rw [dropLater?, hamp]
  dsimp only
  rw [h]
  rfl

/-- A parameter that stands behind a separator is read alone. -/
theorem dropLater?_append (h : IsLetters name) (hne : chars ≠ []) (more : List Char) :
    dropLater? name (chars ++ '&' :: more) = (dropLater? name chars).map (· ++ '&' :: more) := by
  obtain ⟨c, behind, rfl⟩ := List.exists_cons_of_ne_nil hne
  by_cases hc : c = '&'
  · subst hc
    have hamp : ∀ left, dropText? ['&'] ('&' :: left) = some left := fun _ => rfl
    have hescaped := ((dropText?_haltsAt (by decide : '&' ∉ "amp;".toList)).bind
      (dropPage?_ampersand h)) behind more
    unfold dropLater?
    rw [List.cons_append, hamp, hamp]
    dsimp only at hescaped ⊢
    rw [hescaped, dropPage?_ampersand h]
    cases (dropText? "amp;".toList behind).bind (dropPage? name) <;> rfl
  · rw [List.cons_append, dropLater?_of_ne hc, dropLater?_of_ne hc]
    rfl

/-- The name of a parameter does not begin within a written-out separator. -/
theorem dropLater?_escaped (h : IsLetters name) (chars : List Char) :
    dropLater? name ("&amp;".toList ++ chars) = dropPage? name chars := by
  have hfallback : dropPage? name ("amp;".toList ++ chars) = none := by
    have hhalts : HaltsAt ';' (dropPage? name) :=
      dropPage?_haltsAt (h.not_mem (by decide)) (by decide) (by decide)
    have hamp : dropPage? name "amp".toList = none := by
      rw [Option.eq_none_iff_forall_ne_some]
      intro rest hrest
      obtain ⟨digits, hchars, -⟩ := dropPage?_eq_some_iff.mp hrest
      have hequals : '=' ∈ "amp".toList := hchars ▸ by simp
      exact absurd hequals (by decide)
    have hcut := hhalts "amp".toList chars
    rwa [hamp] at hcut
  have htext : dropText? ['&'] ("&amp;".toList ++ chars) = some ("amp;".toList ++ chars) := rfl
  have hamp : dropText? "amp;".toList ("amp;".toList ++ chars) = some chars :=
    dropText?_eq_some_iff.mpr rfl
  rw [dropLater?, htext]
  dsimp only
  rw [hamp, Option.bind_some, hfallback]
  cases dropPage? name chars <;> rfl

/-! ## What is taken out is not empty -/

theorem dropPage?_shortens : Shortens [] (dropPage? name) := by
  intro chars rest h
  obtain ⟨digits, hchars, -, -⟩ := dropPage?_eq_some_iff.mp h
  refine ⟨name ++ '=' :: digits, by rw [hchars, List.append_assoc, List.cons_append], ?_⟩
  rw [List.length_append, List.length_cons]
  exact Nat.lt_of_lt_of_le (Nat.succ_pos _) (Nat.le_add_left _ _)

theorem dropFirst?_shortens : Shortens [] (dropFirst? name) := by
  intro chars rest h
  obtain ⟨more, hmore, hpage⟩ := Option.bind_eq_some_iff.mp h
  obtain ⟨read, rfl, -⟩ := dropPage?_shortens _ _ hpage
  obtain rfl := dropText?_eq_some_iff.mp hmore
  exact ⟨'?' :: read, rfl, Nat.succ_pos _⟩

theorem dropFirstOfMany?_shortens : Shortens ['?'] (dropFirstOfMany? name) := by
  intro chars rest h
  rw [dropFirstOfMany?_eq, Option.map_eq_some_iff] at h
  obtain ⟨behind, hbehind, hamp⟩ := h
  obtain ⟨more, hfirst, hmore⟩ := Option.bind_eq_some_iff.mp hbehind
  obtain ⟨read, rfl, hread⟩ := dropFirst?_shortens _ _ hfirst
  obtain rfl : more = '&' :: behind := dropText?_eq_some_iff.mp hmore
  have hrest : ∃ amp, behind = amp ++ rest := by
    rw [dropAmp] at hamp
    cases htext : dropText? "amp;".toList behind with
    | none =>
      rw [htext] at hamp
      exact ⟨[], hamp⟩
    | some left =>
      rw [htext] at hamp
      obtain rfl : left = rest := hamp
      exact ⟨_, dropText?_eq_some_iff.mp htext⟩
  obtain ⟨amp, rfl⟩ := hrest
  refine ⟨read ++ '&' :: amp, by simp, ?_⟩
  rw [List.length_append, List.length_cons]
  exact Nat.add_lt_add_of_lt_of_le hread (Nat.succ_pos _)

theorem dropLater?_shortens : Shortens [] (dropLater? name) := by
  intro chars rest h
  unfold dropLater? at h
  split at h
  · cases h
  · next more hmore =>
    obtain rfl := dropText?_eq_some_iff.mp hmore
    split at h
    · next after hafter =>
      cases h
      obtain ⟨left, hleft, hpage⟩ := Option.bind_eq_some_iff.mp hafter
      obtain ⟨read, rfl, -⟩ := dropPage?_shortens _ _ hpage
      obtain rfl := dropText?_eq_some_iff.mp hleft
      exact ⟨"&amp;".toList ++ read, by simp, by simp⟩
    · obtain ⟨read, rfl, -⟩ := dropPage?_shortens _ _ h
      exact ⟨'&' :: read, by simp, by simp⟩

end SqlToolkit.PageLinks
