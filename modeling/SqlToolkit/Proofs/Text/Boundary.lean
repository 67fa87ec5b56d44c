import SqlToolkit.Proofs.Text.Scan

/-!
# Characters that a reader does not pass

A reader that cannot read some character reads, from a text that goes on with this character, what
it reads from the text alone. So texts between such characters can be read one by one.
-/

namespace SqlToolkit.Text

variable {reader next : List Char → Option (List Char)} {stop : Char} {chars rest : List Char}

/-- The reader reads the same before the character as before the end of the text. -/
def HaltsAt (stop : Char) (reader : List Char → Option (List Char)) : Prop :=
  ∀ chars more, reader (chars ++ stop :: more) = (reader chars).map (· ++ stop :: more)

/-- The text is empty or begins with the character. -/
def OpensWith (stop : Char) (rest : List Char) : Prop := ∀ c ∈ rest.head?, c = stop

theorem opensWith_cons {more : List Char} : OpensWith stop (stop :: more) := by simp [OpensWith]

theorem opensWith_nil : OpensWith stop [] := by simp [OpensWith]

namespace HaltsAt

theorem append (h : HaltsAt stop reader) (hrest : OpensWith stop rest) (chars : List Char) :
    reader (chars ++ rest) = (reader chars).map (· ++ rest) := by
  cases rest with
  | nil => simp
  | cons c more =>
    obtain rfl : c = stop := hrest c rfl
    exact h chars more

theorem bind (h : HaltsAt stop reader) (hnext : HaltsAt stop next) :
    HaltsAt stop fun chars => (reader chars).bind next := by
  intro chars more
  dsimp only
  rw [h chars more]
  cases reader chars with
  | none => rfl
  | some left => exact hnext left more

end HaltsAt

theorem dropText?_haltsAt {want : List Char} (h : stop ∉ want) : HaltsAt stop (dropText? want) := by
  induction want with
  | nil => exact fun _ _ => rfl
  | cons w want ih =>
    obtain ⟨hw, hwant⟩ := not_or.mp fun hmem => h (List.mem_cons.mpr hmem)
    intro chars more
    cases chars with
    | nil => simp [dropText?, Ne.symm hw]
    | cons c cs =>
      by_cases hc : w = c
      · simpa [dropText?, hc] using ih hwant cs more
      · simp [dropText?, hc]

theorem takeWhile_append_stop {accept : Char → Bool} (h : accept stop = false)
    (chars more : List Char) :
    (chars ++ stop :: more).takeWhile accept = chars.takeWhile accept := by
  induction chars with
  | nil => simp [h]
  | cons c cs ih => by_cases hc : accept c = true <;> simp [hc, ih]

theorem dropWhile_append_stop {accept : Char → Bool} (h : accept stop = false)
    (chars more : List Char) :
    (chars ++ stop :: more).dropWhile accept = chars.dropWhile accept ++ stop :: more := by
  induction chars with
  | nil => simp [h]
  | cons c cs ih => by_cases hc : accept c = true <;> simp [hc, ih]

theorem takeRun?_append {accept : Char → Bool} (h : accept stop = false) (chars more : List Char) :
    takeRun? accept (chars ++ stop :: more) =
      (takeRun? accept chars).map fun cut => (cut.1, cut.2 ++ stop :: more) := by
  unfold takeRun?
  rw [takeWhile_append_stop h, dropWhile_append_stop h]
  split <;> rfl

end SqlToolkit.Text
