import SqlToolkit.Text.Blank
import SqlToolkit.Text.CaseFold
import SqlToolkit.Text.Word

/-!
# Reading text from the left

Small readers over lists of characters. A reader answers with the text that follows what it read,
or with `none`. `search` tries a reader at every position, and `substitute` replaces every part that
a matcher covers, from left to right and without overlaps.
-/

namespace SqlToolkit.Text

/-! ## Readers -/

def dropText? : List Char → List Char → Option (List Char)
  | [], rest => some rest
  | _ :: _, [] => none
  | want :: more, c :: rest => if want = c then dropText? more rest else none

/-- Reads the given characters in any case. -/
def dropWord? : List Char → List Char → Option (List Char)
  | [], rest => some rest
  | _ :: _, [] => none
  | want :: more, c :: rest => if sameLetter want c then dropWord? more rest else none

def dropGap? : List Char → Option (List Char)
  | [] => none
  | c :: rest => if isBlank c then some (dropBlanks rest) else none

/-- Reads a run of one character or more, as long as it goes, and returns it with the rest. -/
def takeRun? (accept : Char → Bool) (chars : List Char) : Option (List Char × List Char) :=
  match chars.takeWhile accept with
  | [] => none
  | run => some (run, chars.dropWhile accept)

/-- Reads the words in any case, with a gap between neighbours. -/
def dropPhrase? : List String → List Char → Option (List Char)
  | [], rest => some rest
  | [word], rest => dropWord? word.toList rest
  | word :: more, rest => do
    let afterWord ← dropWord? word.toList rest
    let afterGap ← dropGap? afterWord
    dropPhrase? more afterGap

/-- Reads the first of the words, in any case, after which no word character follows. -/
def dropWholeWord? (words : List String) (chars : List Char) : Option (List Char) :=
  words.findSome? fun word =>
    match dropWord? word.toList chars with
    | some rest => if startsWithWord rest then none else some rest
    | none => none

theorem dropText?_eq_some_iff {want chars rest : List Char} :
    dropText? want chars = some rest ↔ chars = want ++ rest := by
  induction want generalizing chars with
  | nil => simp [dropText?, eq_comm]
  | cons w more ih =>
    cases chars with
    | nil => simp [dropText?]
    | cons c cs =>
      by_cases h : w = c
      · simp [dropText?, h, ih]
      · simp [dropText?, h, eq_comm]

/-- A run and its rest are the text; the run is not empty, and its characters are all accepted. -/
theorem of_takeRun? {accept : Char → Bool} {chars run rest : List Char}
    (h : takeRun? accept chars = some (run, rest)) :
    chars = run ++ rest ∧ run ≠ [] ∧ ∀ c ∈ run, accept c = true := by
  unfold takeRun? at h
  split at h
  · contradiction
  · next hrun =>
    obtain ⟨rfl, rfl⟩ := by simpa using h
    refine ⟨List.takeWhile_append_dropWhile.symm, hrun, ?_⟩
    intro c member
    exact List.all_eq_true.mp List.all_takeWhile c member

/-! ## Search and substitution -/

/-- The first position where the reader succeeds: the text before it, and the answer. -/
def search {α : Type} (reader : List Char → Option α) : List Char → Option (List Char × α)
  | [] => (reader []).map fun answer => ([], answer)
  | c :: rest =>
    match reader (c :: rest) with
    | some answer => some ([], answer)
    | none => (search reader rest).map fun found => (c :: found.1, found.2)

/-- Whether the reader succeeds at some position. -/
def occurs {α : Type} (reader : List Char → Option α) (chars : List Char) : Bool :=
  (search reader chars).isSome

/-- Like `occurs`, for a reader that also looks at the character before its position. -/
def occursAfter (accept : Option Char → List Char → Bool) : Option Char → List Char → Bool
  | before, [] => accept before []
  | before, c :: rest => accept before (c :: rest) || occursAfter accept (some c) rest

/-- Replaces every part that the matcher covers. The matcher answers with the new text and the
number of characters that it stands for; a match of no characters is no match. -/
def substitute (matcher : List Char → Option (List Char × Nat)) : Nat → List Char → List Char
  | _, [] => []
  | covered + 1, _ :: rest => substitute matcher covered rest
  | 0, c :: rest =>
    match matcher (c :: rest) with
    | some (new, covered + 1) => new ++ substitute matcher covered rest
    | _ => c :: substitute matcher 0 rest

/-- A matcher from a reader: what the reader passes over becomes the given text. -/
def replacing (new : List Char) (reader : List Char → Option (List Char)) :
    List Char → Option (List Char × Nat) := fun chars =>
  (reader chars).map fun rest => (new, chars.length - rest.length)

def replaceText (old new : List Char) (chars : List Char) : List Char :=
  substitute (replacing new (dropText? old)) 0 chars

def replaceFirst (old : Char) (new : List Char) : List Char → List Char
  | [] => []
  | c :: rest => if c = old then new ++ rest else c :: replaceFirst old new rest

/-! ## Pieces -/

/-- The pieces between the separators; there is one piece more than separators. -/
def splitAtChar (separator : Char) : List Char → List (List Char)
  | [] => [[]]
  | c :: rest =>
    if c = separator then [] :: splitAtChar separator rest
    else
      match splitAtChar separator rest with
      | [] => [[c]]
      | piece :: more => (c :: piece) :: more

/-- The text before and after the first place where the reader succeeds. -/
def cutAt? (reader : List Char → Option (List Char)) (chars : List Char) :
    Option (List Char × List Char) := search reader chars

/-- The text before and after the first occurrence of a character. -/
def cutAtChar? (separator : Char) (chars : List Char) : Option (List Char × List Char) :=
  cutAt? (dropText? [separator]) chars

/-- The text before and after the last occurrence of a character. -/
def cutAtLastChar? (separator : Char) (chars : List Char) : Option (List Char × List Char) :=
  (cutAtChar? separator chars.reverse).map fun cut => (cut.2.reverse, cut.1.reverse)

/-- The pieces between the occurrences of a non-empty separator text. -/
def splitAtText (separator : List Char) : Nat → List Char → List (List Char)
  | 0, chars => [chars]
  | fuel + 1, chars =>
    match cutAt? (dropText? separator) chars with
    | some (piece, rest) => piece :: splitAtText separator fuel rest
    | none => [chars]

def firstWord (chars : List Char) : List Char :=
  (dropBlanks chars).takeWhile fun c => !isBlank c

def firstLine (text : String) : String :=
  String.ofList (text.toList.takeWhile (· != '\n'))

theorem splitAtChar_ne_nil (separator : Char) (chars : List Char) :
    splitAtChar separator chars ≠ [] := by
  cases chars with
  | nil => simp [splitAtChar]
  | cons c rest =>
    unfold splitAtChar
    split
    · simp
    · split <;> simp

/-- The pieces with the separator between them are the text. -/
theorem intercalate_splitAtChar (separator : Char) (chars : List Char) :
    [separator].intercalate (splitAtChar separator chars) = chars := by
  induction chars with
  | nil => rfl
  | cons c rest ih =>
    obtain ⟨piece, more, pieces⟩ := List.exists_cons_of_ne_nil (splitAtChar_ne_nil separator rest)
    rw [pieces] at ih
    unfold splitAtChar
    rw [pieces]
    split
    · next h =>
      subst h
      rw [List.intercalate_cons_cons, ih]
      rfl
    · cases more with
      | nil => simpa using ih
      | cons next more =>
        rw [List.intercalate_cons_cons] at ih ⊢
        simpa using ih

end SqlToolkit.Text
