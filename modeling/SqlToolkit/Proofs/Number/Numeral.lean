import SqlToolkit.Fault
import SqlToolkit.Proofs.Text.Blank

/-!
# Numerals are read back

The decimal digits of a number are read as that number, unless there are more of them than a numeral
may have.
-/

namespace SqlToolkit.Numeral

open SqlToolkit.Text

/-- ASCII digits have the value that they have in base ten. -/
theorem readDigits_of_isDigit {chars : List Char} (hne : chars ≠ [])
    (h : ∀ c ∈ chars, c.isDigit = true) (value count : Nat) :
    readDigits value count chars =
      some (Nat.ofDigitChars 10 chars value, count + chars.length) := by
  induction chars generalizing value count with
  | nil => exact absurd rfl hne
  | cons c rest ih =>
    have hc := h c List.mem_cons_self
    have hrest : ∀ other ∈ rest, other.isDigit = true :=
      fun other ho => h other (List.mem_cons_of_mem _ ho)
    have hdigit : value * 10 + (c.toNat - 48) = 10 * value + (c.toNat - 48) := by omega
    unfold readDigits
    rw [decimalValue?_of_isDigit hc, Nat.ofDigitChars_cons]
    simp only [Option.bind_eq_bind, Option.bind_some]
    split
    · rw [hdigit]
      rfl
    · next more =>
      exact absurd (hrest '_' List.mem_cons_self) (by decide)
    · next hnil _ =>
      rw [ih hnil hrest, hdigit, List.length_cons, Nat.add_right_comm, Nat.add_assoc]
      rfl

/-- The number that digits of any script spell behind the digits of a number. -/
def spelled (value : Nat) (digits : List Char) : Nat :=
  digits.foldl (fun value c => value * 10 + (decimalValue? c).getD 0) value

/-- Digits are read as the number that they spell, if each of them has a place value. -/
theorem readDigits_of_isDigitLike {chars : List Char} (hne : chars ≠ [])
    (h : ∀ c ∈ chars, isDigitLike c = true) (value count : Nat) :
    readDigits value count chars =
      if chars.all isDecimal = true then some (spelled value chars, count + chars.length)
      else none := by
  induction chars generalizing value count with
  | nil => exact absurd rfl hne
  | cons c rest ih =>
    have hrest : ∀ other ∈ rest, isDigitLike other = true :=
      fun other ho => h other (List.mem_cons_of_mem _ ho)
    unfold readDigits
    cases hc : decimalValue? c with
    | none =>
      have hnot : isDecimal c = false := by rw [isDecimal, hc]; rfl
      simp [hnot]
    | some digit =>
      have hdecimal : isDecimal c = true := by rw [isDecimal, hc]; rfl
      have hspelled : spelled value (c :: rest) = spelled (value * 10 + digit) rest := by
        rw [spelled, List.foldl_cons, hc]
        rfl
      simp only [Option.bind_eq_bind, Option.bind_some, List.all_cons, hdecimal, Bool.true_and,
        hspelled]
      split
      · simp [spelled]
      · next more => exact absurd (hrest '_' List.mem_cons_self) (by decide)
      · next hnil _ =>
        rw [ih hnil hrest, List.length_cons, Nat.add_right_comm, Nat.add_assoc]

/-- Each digit has a place value, and there are not too many of them. -/
def IsReadable (digits : List Char) : Prop :=
  digits.all isDecimal = true ∧ digits.length ≤ maxDigits

instance (digits : List Char) : Decidable (IsReadable digits) :=
  inferInstanceAs (Decidable (_ ∧ _))

theorem natOfDigits?_of_isDigitLike {chars : List Char} (hne : chars ≠ [])
    (h : ∀ c ∈ chars, isDigitLike c = true) :
    natOfDigits? chars = if IsReadable chars then some (spelled 0 chars) else none := by
  unfold natOfDigits?
  rw [readDigits_of_isDigitLike hne h]
  by_cases hdecimal : chars.all isDecimal = true
  · have hreadable : IsReadable chars ↔ chars.length ≤ maxDigits := and_iff_right hdecimal
    simp only [if_pos hdecimal, hreadable, Option.bind_eq_bind, Option.bind_some, Nat.zero_add]
  · rw [if_neg hdecimal, if_neg fun hreadable => hdecimal hreadable.1]
    rfl

theorem isDigit_of_mem_toString {n : Nat} {c : Char} (h : c ∈ (toString n).toList) :
    c.isDigit = true := by
  rw [Nat.toString_eq_ofList_toDigits, String.toList_ofList] at h
  exact Nat.isDigit_of_mem_toDigits (by decide) (by decide) h

/-- The least number whose numeral is too long. -/
def tooLong : Nat := Nat.pow 10 maxDigits

/-- A number of so few digits that it is written. -/
theorem lt_tooLong {n digits : Nat} (hdigits : digits ≤ maxDigits) (h : n < Nat.pow 10 digits) :
    n < tooLong := by
  have hmono {few many : Nat} (hle : few ≤ many) : Nat.pow 10 few ≤ Nat.pow 10 many :=
    Nat.pow_le_pow_right (by decide) hle
  unfold tooLong
  exact Nat.lt_of_lt_of_le h (hmono hdigits)

theorem isWritable_natCast (n : Nat) : isWritable (n : Int) = decide (n < tooLong) := by
  unfold isWritable tooLong
  rw [Int.natAbs_natCast]

theorem isWritable_of_lt {value : Int} (hlow : 0 ≤ value) (hhigh : value < tooLong) :
    isWritable value = true := by
  obtain ⟨n, rfl⟩ := Int.eq_ofNat_of_zero_le hlow
  rw [isWritable_natCast]
  exact decide_eq_true (Int.ofNat_lt.mp hhigh)

/-- A number whose numeral is not too long is read back. -/
theorem natOfDigits?_toString (n : Nat) :
    natOfDigits? (toString n).toList = if n < tooLong then some n else none := by
  have hdigits : ∀ c ∈ Nat.toDigits 10 n, c.isDigit = true :=
    fun c hc => Nat.isDigit_of_mem_toDigits (by decide) (by decide) hc
  have hlength {digits : Nat} (hd : 0 < digits) :
      (Nat.toDigits 10 n).length ≤ digits ↔ n < Nat.pow 10 digits :=
    Nat.length_toDigits_le_iff (by decide) hd
  unfold natOfDigits? tooLong
  rw [Nat.toString_eq_ofList_toDigits, String.toList_ofList,
    readDigits_of_isDigit Nat.toDigits_ne_nil hdigits,
    Nat.ofDigitChars_toDigits (by decide) (by decide)]
  simp only [Option.bind_eq_bind, Option.bind_some, Nat.zero_add,
    hlength (by decide : 0 < maxDigits)]

/-- A number that is not negative is written unless its numeral is too long. -/
theorem write_natCast (n : Nat) :
    write (n : Int) = if n < tooLong then .ok (toString n) else .error .badValue := by
  unfold write
  rw [isWritable_natCast]
  by_cases h : n < tooLong
  · rw [decide_eq_true h, if_pos h, if_pos rfl]
    rfl
  · rw [decide_eq_false h, if_neg h, if_neg Bool.false_ne_true]

/-- Without margins nothing is dropped. -/
theorem dropWhile_isMargin_of_isDigit {chars : List Char} (h : ∀ c ∈ chars, c.isDigit = true) :
    chars.dropWhile isMargin = chars := by
  cases chars with
  | nil => rfl
  | cons c rest =>
    have hmargin : isMargin c = false := by
      rw [isMargin, isBlank_of_isDigit (h c List.mem_cons_self)]
      rfl
    rw [List.dropWhile_cons, hmargin]
    rfl

/-- A number whose numeral is not too long is read back from its text. -/
theorem parse?_toString (n : Nat) :
    parse? (toString n) = if n < tooLong then some (n : Int) else none := by
  have hdigits : ∀ c ∈ (toString n).toList, c.isDigit = true := fun c => isDigit_of_mem_toString
  have hreverse : ∀ c ∈ (toString n).toList.reverse, c.isDigit = true :=
    fun c hc => hdigits c (List.mem_reverse.mp hc)
  have hsign {c : Char} {rest : List Char} (h : (toString n).toList = c :: rest) : c.isDigit = true :=
    hdigits c (h ▸ List.mem_cons_self)
  have hunsigned : ofSigned? (toString n).toList =
      (natOfDigits? (toString n).toList).map Int.ofNat := by
    unfold ofSigned?
    split
    · next h => exact absurd (hsign h) (by decide)
    · next h => exact absurd (hsign h) (by decide)
    · rfl
  rw [parse?, dropWhile_isMargin_of_isDigit hdigits, dropWhile_isMargin_of_isDigit hreverse,
    List.reverse_reverse, hunsigned, natOfDigits?_toString]
  split <;> rfl

end SqlToolkit.Numeral
