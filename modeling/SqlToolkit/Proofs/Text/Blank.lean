import SqlToolkit.Text.Blank
import SqlToolkit.Text.CaseFold
import SqlToolkit.Text.Word

/-!
# Blanks and letters

A blank is no word character, and ignoring case does not turn it into another character. There are
few blanks, so both are checked for each of them.
-/

namespace SqlToolkit.Text

def blankCodes : List Nat := [9, 10, 11, 12, 13, 28, 29, 30, 31, 32] ++ wideBlanks

theorem mem_blankCodes {c : Char} (h : isBlank c = true) : c.toNat ∈ blankCodes := by
  unfold isBlank at h
  split at h
  · simp only [isSeparatorControl, Bool.or_eq_true, Bool.and_eq_true, beq_iff_eq,
      decide_eq_true_eq] at h
    simp only [blankCodes, List.mem_append, List.mem_cons]
    omega
  · exact List.mem_append_right _ (List.contains_iff_mem.mp h)

/-- What holds of every code point of a blank holds of every blank. -/
theorem of_isBlank {P : Char → Prop} (hP : ∀ code ∈ blankCodes, P (Char.ofNat code)) {c : Char}
    (h : isBlank c = true) : P c := by
  have hc := hP c.toNat (mem_blankCodes h)
  rwa [Char.ofNat_toNat] at hc

theorem isWord_of_isBlank {c : Char} (h : isBlank c = true) : isWord c = false :=
  of_isBlank (P := fun c => isWord c = false) (by decide +kernel) h

theorem isBlank_of_isWord {c : Char} (h : isWord c = true) : isBlank c = false := by
  cases hc : isBlank c with
  | false => rfl
  | true => cases h.symm.trans (isWord_of_isBlank hc)

theorem caseKey_of_isBlank {c : Char} (h : isBlank c = true) : caseKey c = c :=
  of_isBlank (P := fun c => caseKey c = c) (by decide +kernel) h

/-- A word whose first letter is no blank does not begin with one, whatever its case. -/
theorem isBlank_of_caseKey_eq {want c : Char} (h : caseKey c = caseKey want)
    (hw : isBlank (caseKey want) = false) : isBlank c = false := by
  cases hc : isBlank c with
  | false => rfl
  | true =>
    rw [← h, caseKey_of_isBlank hc, hc] at hw
    cases hw

/-- What holds of the ASCII word characters, one by one, holds of every one. -/
theorem of_isAsciiWord {P : Char → Prop}
    (hP : ∀ code < 128, isAsciiWord (Char.ofNat code) = true → P (Char.ofNat code)) {c : Char}
    (h : isAsciiWord c = true) : P c := by
  have hbelow {last : Char} (hle : c.val ≤ last.val) (hlast : last.toNat < 128) : c.toNat < 128 :=
    Nat.lt_of_le_of_lt hle hlast
  have hc : c.toNat < 128 := by
    rcases Bool.or_eq_true_iff.mp h with halnum | hunderscore
    · rcases Bool.or_eq_true_iff.mp halnum with halpha | hdigit
      · rcases Bool.or_eq_true_iff.mp halpha with hupper | hlower
        · exact hbelow (of_decide_eq_true hupper).2 (by decide)
        · exact hbelow (of_decide_eq_true (Bool.and_eq_true_iff.mp hlower).2) (by decide)
      · exact hbelow (of_decide_eq_true (Bool.and_eq_true_iff.mp hdigit).2) (by decide)
    · rw [beq_iff_eq.mp hunderscore]
      decide
  have hchar := hP c.toNat hc
  rw [Char.ofNat_toNat] at hchar
  exact hchar h

theorem isWord_of_isAsciiWord {c : Char} (h : isAsciiWord c = true) : isWord c = true :=
  of_isAsciiWord (P := fun c => isWord c = true) (by decide +kernel) h

theorem isBlank_of_isAsciiWord {c : Char} (h : isAsciiWord c = true) : isBlank c = false :=
  of_isAsciiWord (P := fun c => isBlank c = false) (by decide +kernel) h

theorem isBlank_of_isDigit {c : Char} (h : c.isDigit = true) : isBlank c = false := by
  simp only [Char.isDigit, Bool.and_eq_true, decide_eq_true_eq] at h
  have hlow : 48 ≤ c.toNat := h.1
  have hhigh : c.toNat ≤ 57 := h.2
  have hascii : c.toNat < 128 := by omega
  simp only [isBlank, hascii, if_true, isSeparatorControl, Bool.or_eq_false_iff,
    Bool.and_eq_false_iff, beq_eq_false_iff_ne, decide_eq_false_iff_not]
  omega

end SqlToolkit.Text
