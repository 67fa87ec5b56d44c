import SqlToolkit.Proofs.Text.Boundary
import SqlToolkit.Proofs.Text.Substitution

/-!
# Ampersands written out

In a document an ampersand is written `&amp;`, and a reader of the document sees the ampersand
alone. A text that has no ampersand in it can be looked for before or after they are read.
-/

namespace SqlToolkit.Text

variable {chars rest : List Char}

/-- The text as a reader of a document sees it. -/
def readAmpersands (chars : List Char) : List Char := replaceText "&amp;".toList ['&'] chars

theorem dropText?_shortens {old new : List Char} (h : new.length < old.length) :
    Shortens new (dropText? old) :=
  fun _ _ hread => ⟨old, dropText?_eq_some_iff.mp hread, h⟩

theorem readAmpersands_amp (left : List Char) :
    readAmpersands ("&amp;".toList ++ left) = '&' :: readAmpersands left :=
  substitute_of_reads (dropText?_shortens (by decide)) (dropText?_eq_some_iff.mpr rfl)

/-- A text begins with a character that is seen as it is, or with an ampersand written out. -/
theorem readAmpersands_induction {P : List Char → Prop} (nil : P [])
    (cons : ∀ c more, readAmpersands (c :: more) = c :: readAmpersands more → P more →
      P (c :: more))
    (amp : ∀ left, P left → P ("&amp;".toList ++ left)) (chars : List Char) : P chars := by
  induction hn : chars.length using Nat.strongRecOn generalizing chars with
  | _ n ih =>
    subst hn
    cases chars with
    | nil => exact nil
    | cons c more =>
      cases hread : dropText? "&amp;".toList (c :: more) with
      | none =>
        exact cons c more (substitute_of_none hread) (ih more.length (Nat.lt_succ_self _) more rfl)
      | some left =>
        have hchars := dropText?_eq_some_iff.mp hread
        have hleft : left.length < (c :: more).length := by
          rw [hchars, List.length_append]
          exact Nat.lt_add_of_pos_left (by decide)
        rw [hchars]
        exact amp left (ih left.length hleft left rfl)

/-- A character that has no part in a written-out ampersand is seen where it stands. -/
theorem mem_readAmpersands_iff {c : Char} (h : c ∉ "&amp;".toList) (chars : List Char) :
    c ∈ readAmpersands chars ↔ c ∈ chars := by
  have hamp : c ≠ '&' := fun hc => h (hc ▸ List.mem_cons_self)
  induction chars using readAmpersands_induction with
  | nil => rfl
  | cons c more heq ih => simp [heq, ih]
  | amp left ih =>
    rw [readAmpersands_amp, List.mem_append, List.mem_cons, or_iff_right hamp, or_iff_right h]
    exact ih

/-- A text without ampersands is read in a text before or after its ampersands are. -/
theorem dropText?_readAmpersands {want : List Char} (h : '&' ∉ want) (chars : List Char) :
    dropText? want (readAmpersands chars) = (dropText? want chars).map readAmpersands := by
  induction want generalizing chars with
  | nil => rfl
  | cons w want ih =>
    obtain ⟨hw, hwant⟩ := not_or.mp fun hmem => h (List.mem_cons.mpr hmem)
    cases chars using readAmpersands_induction with
    | nil => rfl
    | cons c more heq =>
      by_cases hc : w = c
      · simpa [heq, dropText?, hc] using ih hwant more
      · simp [heq, dropText?, hc]
    | amp left =>
      rw [readAmpersands_amp]
      simp [dropText?, Ne.symm hw]

theorem takeRun?_readAmpersands {accept : Char → Bool} (h : accept '&' = false)
    (chars : List Char) :
    takeRun? accept (readAmpersands chars) =
      (takeRun? accept chars).map fun cut => (cut.1, readAmpersands cut.2) := by
  have hcut : (readAmpersands chars).takeWhile accept = chars.takeWhile accept ∧
      (readAmpersands chars).dropWhile accept = readAmpersands (chars.dropWhile accept) := by
    induction chars using readAmpersands_induction with
    | nil => exact ⟨rfl, rfl⟩
    | cons c more heq ih => by_cases hc : accept c = true <;> simp [heq, hc, ih]
    | amp left =>
      have heq := readAmpersands_amp left
      have htext : "&amp;".toList ++ left = '&' :: ("amp;".toList ++ left) := rfl
      rw [htext] at heq ⊢
      simp only [heq, List.takeWhile_cons, List.dropWhile_cons, h, Bool.false_eq_true, if_false,
        and_self]
  unfold takeRun?
  rw [hcut.1, hcut.2]
  cases chars.takeWhile accept <;> rfl

/-- What stands before a character that has no part in `amp;` is read by itself. -/
theorem readAmpersands_append {stop : Char} (h : stop ∉ "amp;".toList) (chars more : List Char) :
    readAmpersands (chars ++ stop :: more) =
      readAmpersands chars ++ readAmpersands (stop :: more) := by
  refine substitute_split (dropText?_shortens (by decide)) (fun front hne => ?_) chars
  obtain ⟨c, behind, rfl⟩ := List.exists_cons_of_ne_nil hne
  have hbehind := dropText?_haltsAt h behind more
  by_cases hc : '&' = c
  · subst hc
    exact hbehind
  · simp [dropText?, hc]

theorem nowhere_of_not_mem (h : '&' ∉ chars) : Nowhere (dropText? "&amp;".toList) chars :=
  nowhere_of_forall_cons fun c hc more => by
    simp [dropText?, show '&' ≠ c from fun heq => h (heq ▸ hc)]

/-- A text without ampersands is seen as it is written. -/
theorem readAmpersands_of_not_mem (h : '&' ∉ chars) : readAmpersands chars = chars :=
  substitute_of_nowhere (nowhere_of_not_mem h)

end SqlToolkit.Text
