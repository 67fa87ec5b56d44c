import SqlToolkit.Proofs.Text.Blank
import SqlToolkit.Text.CaseMap

/-!
# Capital forms

Letters of ASCII become single letters of ASCII. A mark, which is no word character, no blank and no
opening parenthesis, has a capital form that begins with such a character again, as far as ASCII
goes: outside ASCII it is checked for all that the table holds.
-/

namespace SqlToolkit.Text

variable {c : Char}

theorem isAsciiWord_of_wide (h : 128 ≤ c.toNat) : isAsciiWord c = false := by
  refine Bool.eq_false_iff.mpr fun hword => ?_
  have hbelow : c.toNat < 128 := of_isAsciiWord (P := fun c => c.toNat < 128) (by decide) hword
  omega

theorem isAsciiWord_of_isAlpha (h : c.isAlpha = true) : isAsciiWord c = true := by
  simp [isAsciiWord, Char.isAlphanum, h]

theorem upperChar_of_isAsciiWord (h : isAsciiWord c = true) : upperChar c = [c.toUpper] :=
  of_isAsciiWord (P := fun c => upperChar c = [c.toUpper]) (by decide) h

theorem isAsciiWord_toUpper (h : isAsciiWord c = true) : isAsciiWord c.toUpper = true :=
  of_isAsciiWord (P := fun c => isAsciiWord c.toUpper = true) (by decide) h

theorem isAlpha_toUpper (h : c.isAlpha = true) : c.toUpper.isAlpha = true :=
  of_isAsciiWord (P := fun c => c.isAlpha = true → c.toUpper.isAlpha = true) (by decide)
    (isAsciiWord_of_isAlpha h) h

theorem caseKey_toUpper (h : isAsciiWord c = true) : caseKey c.toUpper = caseKey c :=
  of_isAsciiWord (P := fun c => caseKey c.toUpper = caseKey c) (by decide) h

/-- Outside ASCII there is nothing that has a capital in it. -/
theorem isAsciiWord_of_toUpper (h : isAsciiWord c.toUpper = true) : isAsciiWord c = true := by
  by_cases hascii : c.toNat < 128
  · have htable : ∀ code < 128, isAsciiWord (Char.ofNat code).toUpper = true →
        isAsciiWord (Char.ofNat code) = true := by decide
    have hc := htable c.toNat hascii
    rw [Char.ofNat_toNat] at hc
    exact hc h
  · have hsame : c.toUpper = c :=
      dif_neg fun hsmall => hascii (Nat.lt_of_le_of_lt hsmall.2 (by decide))
    rwa [hsame] at h

/-- Every character that becomes several is a word character, and none of them is blank. -/
theorem spelling_of_lookup {codes : List Nat}
    (h : upperSpellings.lookup c.toNat = some codes) :
    isWord c = true ∧ ∃ first more, codes.map Char.ofNat = first :: more ∧
      isBlank first = false ∧ first ≠ '(' := by
  have htable : ∀ entry ∈ upperSpellings, isWord (Char.ofNat entry.1) = true ∧
      (entry.2.map Char.ofNat).head?.any (fun first => !isBlank first && first != '(') = true := by
    decide +kernel
  obtain ⟨before, after, hentries, -⟩ := List.lookup_eq_some_iff.mp h
  obtain ⟨hword, hfirst⟩ := htable (c.toNat, codes) (hentries ▸ by simp)
  rw [Char.ofNat_toNat] at hword
  refine ⟨hword, ?_⟩
  cases hcodes : codes.map Char.ofNat with
  | nil =>
    rw [hcodes] at hfirst
    cases hfirst
  | cons first more =>
    rw [hcodes] at hfirst
    exact ⟨first, more, rfl, by simpa using hfirst⟩

/-- The image of each character on a run is neither blank nor, unless the character is a word
character, in ASCII. -/
theorem image_of_mem_upperRuns {run : CaseRun} (hrun : run ∈ upperRuns) {image : Char}
    (h : run.image? c.toNat = some image) :
    isBlank image = false ∧ image ≠ '(' ∧ (128 ≤ image.toNat ∨ isWord c = true) := by
  have htable : ∀ run ∈ upperRuns, ∀ index < run.last + 1 - run.first,
      let code := run.first + index
      let image := Char.ofNat (Int.toNat (code + run.offset))
      isBlank image = false ∧ image ≠ '(' ∧
        (128 ≤ image.toNat ∨ isWord (Char.ofNat code) = true) := by
    decide +kernel
  unfold CaseRun.image? at h
  split at h
  · next hon =>
    simp only [Bool.and_eq_true, decide_eq_true_eq] at hon
    obtain ⟨⟨hfirst, hlast⟩, -⟩ := hon
    have hcode : run.first + (c.toNat - run.first) = c.toNat := by omega
    have hentry := htable run hrun (c.toNat - run.first) (by omega)
    simp only [hcode, Char.ofNat_toNat] at hentry
    obtain rfl := Option.some.inj h
    exact hentry
  · cases h

/-- What is no blank and no opening parenthesis has a capital form that begins with no such
character, and that of a mark begins with a mark. -/
theorem exists_upperChar (hblank : isBlank c = false) (hparenthesis : c ≠ '(') :
    ∃ first more, upperChar c = first :: more ∧ isBlank first = false ∧ first ≠ '(' ∧
      (isWord c = false → isAsciiWord first = false) := by
  unfold upperChar
  split
  · next hascii =>
    have htable : ∀ code < 128, isBlank (Char.ofNat code) = false → Char.ofNat code ≠ '(' →
        isBlank (Char.ofNat code).toUpper = false ∧ (Char.ofNat code).toUpper ≠ '(' ∧
          (isWord (Char.ofNat code) = false → isAsciiWord (Char.ofNat code).toUpper = false) := by
      decide
    have hupper := htable c.toNat hascii
    rw [Char.ofNat_toNat] at hupper
    exact ⟨c.toUpper, [], rfl, hupper hblank hparenthesis⟩
  · next hwide =>
    cases hspelling : upperSpellings.lookup c.toNat with
    | some codes =>
      obtain ⟨hword, first, more, hcodes, hfirst, hopen⟩ := spelling_of_lookup hspelling
      exact ⟨first, more, hcodes, hfirst, hopen, fun hmark => nomatch hword.symm.trans hmark⟩
    | none =>
      cases himage : upperRuns.findSome? (·.image? c.toNat) with
      | none =>
        exact ⟨c, [], rfl, hblank, hparenthesis,
          fun _ => isAsciiWord_of_wide (Nat.le_of_not_lt hwide)⟩
      | some image =>
        obtain ⟨run, hrun, hon⟩ := List.exists_of_findSome?_eq_some himage
        obtain ⟨himageblank, hopen, hword⟩ := image_of_mem_upperRuns hrun hon
        refine ⟨image, [], rfl, himageblank, hopen, fun hmark => isAsciiWord_of_wide ?_⟩
        exact hword.resolve_right (Bool.eq_false_iff.mp hmark)

end SqlToolkit.Text
