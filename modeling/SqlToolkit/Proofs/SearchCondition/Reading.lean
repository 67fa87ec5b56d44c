import SqlToolkit.Proofs.SearchCondition.Splice
import SqlToolkit.Proofs.Text.Scan

/-!
# Reading search conditions

A text is cut into words, parentheses and atoms. Where an atom ends depends on the database, so the
reader of atoms is left open; all that is asked of it is that an atom ends in the same place when
`AND` or a closing parenthesis comes after the text.
-/

namespace SqlToolkit.SearchCondition

open SqlToolkit.Text

/-- What may come after a condition: a closing parenthesis, or `AND` between blanks. -/
def Follows (tail : List Char) : Prop :=
  (∃ rest, tail = ')' :: rest) ∨ ∃ rest, tail = ' ' :: 'A' :: 'N' :: 'D' :: ' ' :: rest

/-- A reader of atoms: how many characters the atom at the front of a text has. -/
structure Atoms where
  length? : List Char → Option Nat
  within : ∀ {chars n}, length? chars = some n → 0 < n ∧ n ≤ chars.length
  stops : ∀ {chars tail n}, length? chars = some n → Follows tail →
    length? (chars ++ tail) = some n

/-! ## Lexemes -/

def endsWord : List Char → Bool
  | [] => true
  | c :: _ => isBlank c || c == '(' || c == ')'

def keywords : List (List Char × Lexeme) :=
  [(['N', 'O', 'T'], .not), (['A', 'N', 'D'], .and), (['O', 'R'], .or)]

def readKeyword? (chars : List Char) (keyword : List Char × Lexeme) : Option (Lexeme × Nat) :=
  (dropWord? keyword.1 chars).bind fun rest =>
    if endsWord rest then some (keyword.2, keyword.1.length) else none

def readWord? (chars : List Char) : Option (Lexeme × Nat) := keywords.findSome? (readKeyword? chars)

def Atoms.read? (atoms : Atoms) (chars : List Char) : Option (Lexeme × Nat) :=
  (atoms.length? chars).map fun n => (.atom (chars.take n), n)

def next? (atoms : Atoms) (c : Char) (rest : List Char) : Option (Lexeme × Nat) :=
  if c = '(' then some (.opening, 1)
  else if c = ')' then some (.closing, 1)
  else
    match readWord? (c :: rest) with
    | some found => some found
    | none => atoms.read? (c :: rest)

/-- The lexemes of a text after the characters that are covered already. -/
def lexemesFrom? (atoms : Atoms) : Nat → List Char → Option (List Lexeme)
  | _, [] => some []
  | covered + 1, _ :: rest => lexemesFrom? atoms covered rest
  | 0, c :: rest =>
    if isBlank c then lexemesFrom? atoms 0 rest
    else
      match next? atoms c rest with
      | some (lexeme, covered + 1) => (lexemesFrom? atoms covered rest).map (lexeme :: ·)
      | _ => none

def lexemes? (atoms : Atoms) (chars : List Char) : Option (List Lexeme) :=
  lexemesFrom? atoms 0 chars

/-- The text is a condition that is grouped as the tree says. -/
def Reads (atoms : Atoms) (chars : List Char) (tree : Tree) : Prop :=
  lexemes? atoms chars = some tree.spelled

variable {atoms : Atoms} {chars tail : List Char}

/-- A text is grouped in one way. -/
theorem Reads.unique {x y : Tree} (hx : Reads atoms chars x) (hy : Reads atoms chars y) : x = y :=
  Tree.spelled_inj (Option.some.inj (hx.symm.trans hy))

/-! ## Text that follows a condition -/

/-- What follows a condition begins with a character that is in no word and ends every word. -/
theorem Follows.exists_cons (h : Follows tail) :
    ∃ stop more, tail = stop :: more ∧ endsWord [stop] = true ∧
      ∀ keyword ∈ keywords, Outside stop keyword.1 := by
  obtain ⟨rest, rfl⟩ | ⟨rest, rfl⟩ := h
  · have apart : keywords.all (fun k => k.1.all fun want => caseKey want != caseKey ')') = true := by
      decide
    exact ⟨')', rest, rfl, by decide, fun k hk => .of_all (List.all_eq_true.mp apart k hk)⟩
  · have apart : keywords.all (fun k => k.1.all fun want => caseKey want != caseKey ' ') = true := by
      decide
    exact ⟨' ', _, rfl, by decide, fun k hk => .of_all (List.all_eq_true.mp apart k hk)⟩

theorem readKeyword?_append (h : Follows tail) {keyword : List Char × Lexeme}
    (hk : keyword ∈ keywords) (chars : List Char) :
    readKeyword? (chars ++ tail) keyword = readKeyword? chars keyword := by
  obtain ⟨stop, more, rfl, hend, apart⟩ := h.exists_cons
  have hends (rest : List Char) : endsWord (rest ++ stop :: more) = endsWord rest := by
    cases rest with
    | nil => exact hend
    | cons c rest => rfl
  unfold readKeyword?
  rw [dropWord?_append (apart keyword hk)]
  cases dropWord? keyword.1 chars with
  | none => rfl
  | some rest => simp only [Option.map_some, Option.bind_some, hends]

/-- The words of a condition are not empty, and not longer than the text. -/
theorem readKeyword?_within {keyword : List Char × Lexeme} (hk : keyword ∈ keywords)
    {lexeme : Lexeme} {n : Nat} (h : readKeyword? chars keyword = some (lexeme, n)) :
    0 < n ∧ n ≤ chars.length := by
  obtain ⟨rest, hrest, hif⟩ := Option.bind_eq_some_iff.mp h
  split at hif
  · cases hif
    obtain ⟨written, rfl, hw⟩ := dropWord?_eq_some_iff.mp hrest
    have hlength : written.length = keyword.1.length := by simpa using congrArg List.length hw
    have hpos : ∀ keyword ∈ keywords, 0 < keyword.1.length := by decide
    exact ⟨hpos keyword hk, by simp [hlength]⟩
  · cases hif

theorem readWord?_append (h : Follows tail) (chars : List Char) :
    readWord? (chars ++ tail) = readWord? chars := by
  have hsame : ∀ keyword ∈ keywords,
      readKeyword? (chars ++ tail) keyword = readKeyword? chars keyword :=
    fun keyword hk => readKeyword?_append h hk chars
  unfold readWord?
  cases hr : keywords.findSome? (readKeyword? chars) with
  | none =>
    rw [List.findSome?_eq_none_iff] at hr ⊢
    intro keyword hk
    rw [hsame keyword hk, hr keyword hk]
  | some found =>
    rw [List.findSome?_eq_some_iff] at hr ⊢
    obtain ⟨before, keyword, after, hsplit, hfound, hbefore⟩ := hr
    refine ⟨before, keyword, after, hsplit, ?_, ?_⟩
    · rw [hsame keyword (hsplit ▸ List.mem_append_right _ List.mem_cons_self), hfound]
    · intro other ho
      rw [hsame other (hsplit ▸ List.mem_append_left _ ho), hbefore other ho]

theorem readWord?_within {found : Lexeme × Nat} (h : readWord? chars = some found) :
    0 < found.2 ∧ found.2 ≤ chars.length := by
  obtain ⟨keyword, hk, hfound⟩ := List.exists_of_findSome?_eq_some h
  exact readKeyword?_within hk hfound

theorem Atoms.read?_append (h : Follows tail) {found : Lexeme × Nat}
    (hr : atoms.read? chars = some found) : atoms.read? (chars ++ tail) = some found := by
  obtain ⟨n, hn, rfl⟩ := Option.map_eq_some_iff.mp hr
  rw [Atoms.read?, atoms.stops hn h, Option.map_some,
    List.take_append_of_le_length (atoms.within hn).2]

/-- What follows does not change the lexeme at the front. -/
theorem next?_append (h : Follows tail) {c : Char} {rest : List Char} {found : Lexeme × Nat}
    (hn : next? atoms c rest = some found) : next? atoms c (rest ++ tail) = some found := by
  unfold next? at hn ⊢
  rw [← List.cons_append, readWord?_append h]
  split at hn
  · next hc => rw [if_pos hc, hn]
  · next hc =>
    rw [if_neg hc]
    split at hn
    · next hd => rw [if_pos hd, hn]
    · next hd =>
      rw [if_neg hd]
      split at hn
      · exact hn
      · exact Atoms.read?_append h hn

theorem next?_within {c : Char} {rest : List Char} {found : Lexeme × Nat}
    (h : next? atoms c rest = some found) : 0 < found.2 ∧ found.2 ≤ rest.length + 1 := by
  unfold next? at h
  split at h
  · cases h
    exact ⟨Nat.one_pos, Nat.le_add_left 1 _⟩
  · split at h
    · cases h
      exact ⟨Nat.one_pos, Nat.le_add_left 1 _⟩
    · split at h
      · next hword => exact readWord?_within (h ▸ hword)
      · obtain ⟨n, hn, rfl⟩ := Option.map_eq_some_iff.mp h
        exact atoms.within hn

/-- The lexemes of a text come before those of what follows it. -/
theorem lexemesFrom?_append (h : Follows tail) {covered : Nat} {lexemes : List Lexeme}
    (hc : covered ≤ chars.length) (hl : lexemesFrom? atoms covered chars = some lexemes) :
    lexemesFrom? atoms covered (chars ++ tail) = (lexemes? atoms tail).map (lexemes ++ ·) := by
  induction chars generalizing covered lexemes with
  | nil =>
    obtain rfl : covered = 0 := Nat.le_zero.mp hc
    cases hl
    simp [lexemes?]
  | cons c rest ih =>
    cases covered with
    | succ covered => exact ih (Nat.le_of_succ_le_succ hc) hl
    | zero =>
      rw [lexemesFrom?] at hl
      rw [List.cons_append, lexemesFrom?]
      split at hl
      · next hblank =>
        rw [if_pos hblank]
        exact ih (Nat.zero_le _) hl
      · next hblank =>
        rw [if_neg hblank]
        split at hl
        · next lexeme covered hn =>
          obtain ⟨more, hmore, rfl⟩ := Option.map_eq_some_iff.mp hl
          have hle := (next?_within hn).2
          rw [next?_append h hn]
          dsimp only
          rw [ih (Nat.le_of_succ_le_succ hle) hmore, Option.map_map]
          rfl
        · cases hl

/-- `AND` between blanks is a lexeme. -/
theorem lexemes?_and (rest : List Char) :
    lexemes? atoms (' ' :: 'A' :: 'N' :: 'D' :: ' ' :: rest) =
      (lexemes? atoms rest).map (.and :: ·) := rfl

theorem lexemes?_opening (rest : List Char) :
    lexemes? atoms ('(' :: rest) = (lexemes? atoms rest).map (.opening :: ·) := rfl

/-- `AND` between two conditions splices them. -/
theorem Reads.splice {first second : List Char} {x y : Tree} (hx : Reads atoms first x)
    (hy : Reads atoms second y) :
    Reads atoms (first ++ (' ' :: 'A' :: 'N' :: 'D' :: ' ' :: second)) (x.splice y) := by
  have happend := lexemesFrom?_append (.inr ⟨second, rfl⟩) (Nat.zero_le _) hx
  rw [lexemes?_and, show lexemes? atoms second = some y.spelled from hy] at happend
  rw [Reads, Tree.spelled_splice]
  exact happend

/-- A condition in parentheses is a single factor. -/
theorem Reads.group {tree : Tree} (h : Reads atoms chars tree) :
    Reads atoms ('(' :: (chars ++ [')'])) (.one (.one (.group tree))) := by
  have happend := lexemesFrom?_append (.inl ⟨[], rfl⟩) (Nat.zero_le _) h
  rw [Reads, lexemes?_opening, show lexemes? atoms (chars ++ [')']) = _ from happend]
  rfl

/-! ## Plain atoms -/

/-- How far an atom goes that ends before a parenthesis, and before a blank that is followed by a
word of a condition. -/
def plainLength : List Char → Nat
  | [] => 0
  | c :: rest =>
    if c = '(' ∨ c = ')' ∨ isBlank c = true ∧ (readWord? rest).isSome = true then 0
    else plainLength rest + 1

theorem plainLength_le (chars : List Char) : plainLength chars ≤ chars.length := by
  induction chars with
  | nil => exact Nat.le_refl 0
  | cons c rest ih =>
    rw [plainLength]
    split
    · exact Nat.zero_le _
    · exact Nat.succ_le_succ ih

theorem plainLength_append (h : Follows tail) (chars : List Char) :
    plainLength (chars ++ tail) = plainLength chars := by
  induction chars with
  | nil => obtain ⟨rest, rfl⟩ | ⟨rest, rfl⟩ := h <;> rfl
  | cons c rest ih => rw [List.cons_append, plainLength, plainLength, readWord?_append h, ih]

/-- A reader of atoms for texts without strings in quotes. -/
def Atoms.plain : Atoms where
  length? chars := if plainLength chars = 0 then none else some (plainLength chars)
  within h := by
    split at h
    · cases h
    · next hne =>
      cases h
      exact ⟨Nat.pos_of_ne_zero hne, plainLength_le _⟩
  stops h hf := by
    rw [plainLength_append hf]
    exact h

end SqlToolkit.SearchCondition
