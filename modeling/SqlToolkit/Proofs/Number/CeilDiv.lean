import Mathlib.Algebra.Order.Floor.Div
import SqlToolkit.Number.Binary64

/-!
# Rounding a quotient and then rounding it up

A quotient of whole numbers up to `2 ^ 53` is rounded to 53 binary digits before it is rounded up.
Rounding may take it up to the next whole number, but never down to a whole number that it exceeds:
it exceeds that by one part in the divisor at least, and half a unit of the last place is less. So
the result is the exact ceiling.
-/

namespace SqlToolkit.Binary64

/-! ## Ceilings -/

/-- The ceiling of a quotient is the bound that the quotient does not exceed, but by one less. -/
theorem ceilDiv_eq {num den bound : Nat} (hden : 0 < den) (hupper : num ≤ den * bound)
    (hlower : ∀ below, below < bound → den * below < num) : num ⌈/⌉ den = bound := by
  refine Nat.le_antisymm ((ceilDiv_le_iff_le_mul hden).mpr hupper) (Nat.le_of_not_lt fun hlt => ?_)
  have hmissed := hlower _ hlt
  have hreached := (ceilDiv_le_iff_le_mul hden).mp (Nat.le_refl (num ⌈/⌉ den))
  omega

theorem lt_of_lt_ceilDiv {num den below : Nat} (hden : 0 < den) (h : below < num ⌈/⌉ den) :
    den * below < num :=
  Nat.lt_of_not_le fun hle =>
    Nat.not_le_of_lt h ((ceilDiv_le_iff_le_mul hden).mpr hle)

theorem ceilDiv_double (num : Nat) {den : Nat} (hden : 0 < den) :
    (2 * num) ⌈/⌉ (2 * den) = num ⌈/⌉ den := by
  refine eq_of_forall_ge_iff fun bound => ?_
  rw [ceilDiv_le_iff_le_mul hden, ceilDiv_le_iff_le_mul (by omega : 0 < 2 * den), Nat.mul_assoc]
  omega

theorem ceiling_eq (mantissa places : Nat) :
    ceiling mantissa (-(places : Int)) = mantissa ⌈/⌉ 2 ^ places := by
  unfold ceiling
  split
  · next h =>
    have hplaces : places = 0 := by omega
    rw [hplaces, Nat.pow_zero, Nat.ceilDiv_eq_add_pred_div, Nat.div_one]
    exact Nat.mul_one mantissa
  · rw [Nat.ceilDiv_eq_add_pred_div]
    have hpos : 0 < 2 ^ places := Nat.two_pow_pos places
    simp only [Int.neg_neg, Int.toNat_natCast]
    show (mantissa + (2 ^ places - 1)) / 2 ^ places = _
    rw [Nat.add_sub_assoc hpos]

theorem ceiling_zero (places : Nat) : ceiling 0 (-(places : Int)) = 0 := by
  rw [ceiling_eq, zero_ceilDiv]

/-! ## Rounding -/

/-- A quotient is rounded down by half at most, and rounded up only if something is left. -/
theorem roundDiv_cases (num : Nat) {den : Nat} (hden : 0 < den) :
    (roundDiv num den = num / den ∧ 2 * (num % den) ≤ den) ∨
      (roundDiv num den = num / den + 1 ∧ 0 < num % den) := by
  unfold roundDiv
  dsimp only
  split
  · exact .inl ⟨rfl, by omega⟩
  · split
    · exact .inr ⟨rfl, by omega⟩
    · split
      · exact .inl ⟨rfl, by omega⟩
      · exact .inr ⟨rfl, by omega⟩

/-- With at least 52 digits before the point, a quotient counted in a binary unit has the same
ceiling after it is rounded to that unit. -/
theorem ceilDiv_roundDiv {num den unit : Nat} (hden : 0 < den) (hunit : 0 < unit)
    (hnum : num ≤ 2 ^ 53) (hdigits : 2 ^ 52 * den ≤ num * unit) :
    roundDiv (num * unit) den ⌈/⌉ unit = num ⌈/⌉ den := by
  have hsplit : den * (num * unit / den) + num * unit % den = num * unit := Nat.div_add_mod _ _
  have hrest : num * unit % den < den := Nat.mod_lt _ hden
  have hcases := roundDiv_cases (num * unit) hden
  generalize num * unit / den = quotient at hsplit hcases
  generalize num * unit % den = rest at hsplit hrest hcases
  generalize roundDiv (num * unit) den = rounded at hcases
  refine ceilDiv_eq hunit ?_ fun below hbelow => ?_
  · have hceiling : num ≤ den * (num ⌈/⌉ den) :=
      (ceilDiv_le_iff_le_mul hden).mp (Nat.le_refl _)
    have hscaled : num * unit ≤ den * (unit * (num ⌈/⌉ den)) := by
      calc num * unit ≤ den * (num ⌈/⌉ den) * unit := Nat.mul_le_mul_right unit hceiling
        _ = den * (unit * (num ⌈/⌉ den)) := by rw [Nat.mul_assoc, Nat.mul_comm _ unit]
    rcases hcases with ⟨rfl, -⟩ | ⟨rfl, hleft⟩
    · exact Nat.le_of_mul_le_mul_left (by omega) hden
    · exact Nat.lt_of_mul_lt_mul_left (a := den) (by omega)
  · have hbelow := lt_of_lt_ceilDiv hden hbelow
    have hscaled : den * (unit * below) + unit ≤ num * unit := by
      calc den * (unit * below) + unit = (den * below + 1) * unit := by
            rw [Nat.add_mul, Nat.one_mul, Nat.mul_assoc, Nat.mul_comm unit below]
        _ ≤ num * unit := Nat.mul_le_mul_right unit hbelow
    rcases hcases with ⟨rfl, hhalf⟩ | ⟨rfl, -⟩
    · by_contra hle
      have hquotient : den * rounded ≤ den * (unit * below) :=
        Nat.mul_le_mul_left den (Nat.le_of_not_lt hle)
      have hbounded : num * unit ≤ 2 ^ 53 * unit := Nat.mul_le_mul_right unit hnum
      -- what is left is a unit at least and half the divisor at most, so the quotient is `2 ^ 52`
      have hexact : num * unit = den * 2 ^ 52 := by omega
      rcases Nat.lt_or_ge rounded (2 ^ 52) with hlow | hhigh
      · have hnext := Nat.mul_le_mul_left den hlow
        rw [Nat.mul_succ] at hnext
        omega
      · have hreached := Nat.mul_le_mul_left den hhigh
        omega
    · refine Nat.lt_of_mul_lt_mul_left (a := den) ?_
      rw [Nat.mul_succ]
      omega

/-! ## The exponent -/

theorem scale_eq (num den places : Nat) :
    scale num den (-(places : Int)) = (num * 2 ^ places, den) := by
  unfold scale
  split
  · next h =>
    have hplaces : places = 0 := by omega
    rw [hplaces]
    simp
  · simp

/-- The exponent is not positive, but for the greatest quotient, and leaves 52 digits before the
point at least. -/
theorem exponentFor_eq {num den : Nat} (hnum : 0 < num) (hden : 0 < den) (hmax : num ≤ 2 ^ 53)
    (hdenMax : den ≤ 2 ^ 53) (hproper : num < 2 ^ 53 ∨ 1 < den) :
    ∃ places : Nat, exponentFor num den = -(places : Int) ∧ 2 ^ 52 * den ≤ num * 2 ^ places := by
  have hnumLow : 2 ^ num.log2 ≤ num := Nat.log2_self_le (by omega)
  have hdenLow : 2 ^ den.log2 ≤ den := Nat.log2_self_le (by omega)
  have hdenHigh : den < 2 ^ (den.log2 + 1) := Nat.lt_log2_self
  have hnumLog : num.log2 ≤ 53 :=
    (Nat.pow_le_pow_iff_right (by omega : 1 < 2)).mp (Nat.le_trans hnumLow hmax)
  have hdenLog : den.log2 ≤ 53 :=
    (Nat.pow_le_pow_iff_right (by omega : 1 < 2)).mp (Nat.le_trans hdenLow hdenMax)
  have hless : num.log2 < 53 + den.log2 := by
    by_contra hge
    have hnumTop : num.log2 = 53 := by omega
    have hdenOne : den.log2 = 0 := by omega
    rw [hnumTop] at hnumLow
    rw [hdenOne] at hdenHigh
    omega
  obtain ⟨places, hplaces⟩ : ∃ places, places + 1 + num.log2 = 53 + den.log2 :=
    ⟨53 + den.log2 - num.log2 - 1, by omega⟩
  have hguess : (num.log2 : Int) - den.log2 - 53 = -((places + 1 : Nat) : Int) := by omega
  unfold exponentFor minExponent
  dsimp only
  rw [hguess, scale_eq]
  dsimp only
  split
  · next hdigits =>
    refine ⟨places, by omega, ?_⟩
    have hscaled : 2 ^ 53 * den ≤ num * 2 ^ (places + 1) :=
      (Nat.le_div_iff_mul_le hden).mp hdigits
    have hdouble : num * 2 ^ (places + 1) = num * 2 ^ places * 2 := by
      rw [Nat.pow_succ, Nat.mul_assoc]
    omega
  · refine ⟨places + 1, by omega, ?_⟩
    calc 2 ^ 52 * den ≤ 2 ^ 52 * 2 ^ (den.log2 + 1) := Nat.mul_le_mul_left _ (by omega)
      _ = 2 ^ num.log2 * 2 ^ (places + 1) := by
        rw [← Nat.pow_add, ← Nat.pow_add]
        congr 1
        omega
      _ ≤ num * 2 ^ (places + 1) := Nat.mul_le_mul_right _ hnumLow

/-! ## The ceiling -/

/-- A mantissa with one digit too many is halved, which changes nothing of its number. -/
theorem ceiling_carry (places : Nat) :
    ceiling (2 ^ 52) (-(places : Int) + 1) = ceiling (2 ^ 53) (-(places : Int)) := by
  cases places with
  | zero => rfl
  | succ places =>
    have hexponent : -((places + 1 : Nat) : Int) + 1 = -(places : Int) := by omega
    have hdouble := ceilDiv_double (2 ^ 52) (Nat.two_pow_pos places)
    rw [← Nat.pow_succ', ← Nat.pow_succ'] at hdouble
    rw [hexponent, ceiling_eq, ceiling_eq, hdouble]

theorem ofRatio?_eq {num den : Nat} (hnum : 0 < num) (hden : 0 < den) (hmax : num ≤ 2 ^ 53)
    (hdenMax : den ≤ 2 ^ 53) :
    ∃ mantissa exponent, ofRatio? num den = some (mantissa, exponent) ∧
      ceiling mantissa exponent = num ⌈/⌉ den := by
  by_cases hproper : num < 2 ^ 53 ∨ 1 < den
  · obtain ⟨places, hexponent, hdigits⟩ := exponentFor_eq hnum hden hmax hdenMax hproper
    have hrounded := ceilDiv_roundDiv hden (Nat.two_pow_pos places) hmax hdigits
    unfold ofRatio? maxExponent
    rw [if_neg (by omega), hexponent]
    dsimp only
    rw [scale_eq]
    dsimp only
    generalize roundDiv (num * 2 ^ places) den = mantissa at hrounded
    by_cases hcarry : mantissa = Nat.pow 2 53
    · refine ⟨2 ^ 52, -(places : Int) + 1, ?_, ?_⟩
      · rw [if_pos hcarry]
        exact if_pos (by omega)
      · rw [ceiling_carry, ceiling_eq, ← hrounded, hcarry]
        rfl
    · refine ⟨mantissa, -(places : Int), ?_, ?_⟩
      · rw [if_neg hcarry]
        exact if_pos (by omega)
      · rw [ceiling_eq, hrounded]
  · obtain ⟨rfl, rfl⟩ : num = 2 ^ 53 ∧ den = 1 := by omega
    exact ⟨2 ^ 52, 1, by decide +kernel, by decide +kernel⟩

/-- Up to `2 ^ 53` the ceiling of the rounded quotient is the exact ceiling. -/
theorem ceilDiv?_eq {num den : Nat} (hden : 0 < den) (hmax : num ≤ 2 ^ 53)
    (hdenMax : den ≤ 2 ^ 53) : ceilDiv? num den = some ((num ⌈/⌉ den : Nat) : Int) := by
  unfold ceilDiv?
  rw [Int.natAbs_natCast]
  have hsign : ¬ (num : Int) < 0 := by omega
  rcases Nat.eq_zero_or_pos num with rfl | hnum
  · have hzero : ceiling 0 minExponent = 0 := ceiling_zero 1074
    unfold ofRatio?
    rw [if_pos rfl]
    dsimp only
    rw [if_neg hsign, hzero, zero_ceilDiv]
  · obtain ⟨mantissa, exponent, hratio, hceiling⟩ := ofRatio?_eq hnum hden hmax hdenMax
    rw [hratio]
    dsimp only
    rw [if_neg hsign, hceiling]

end SqlToolkit.Binary64
