import SqlToolkit.Join
import SqlToolkit.Proofs.Text.Blank
import SqlToolkit.Proofs.Text.Scan

/-!
# What reads as a join

The texts that read as a join are described by a grammar of their own: names, words in any case, and
blanks between them. A join is read at the front of a text exactly if the text begins with such a
piece that ends where the second column does; the piece is then the only one.
-/

namespace SqlToolkit.Join

open SqlToolkit.Text

variable {chars rest : List Char}

/-! ## The grammar -/

def GapWord (word : String) (written : List Char) : Prop :=
  ∃ gap spelled, written = gap ++ spelled ∧ IsGap gap ∧ SameWord word.toList spelled

inductive JoinWords : List Char → Prop
  | plain {word : List Char} (h : GapWord "JOIN" word) : JoinWords word
  | outer {outer word : List Char} (ho : GapWord "OUTER" outer) (h : GapWord "JOIN" word) :
      JoinWords (outer ++ word)

/-- `left KIND [OUTER] JOIN right ON first = second`, with blanks between the words and around the
equality sign as one likes. -/
inductive Spelled : Join → List Char → Prop
  | intro {left gap₁ keyword words gap₂ right gap₃ on gap₄ first blanks₁ blanks₂ second : List Char}
      {kind : JoinKind} (hleft : IsRun isTableChar left) (hgap₁ : IsGap gap₁)
      (hkeyword : SameWord kind.keyword.toList keyword) (hwords : JoinWords words)
      (hgap₂ : IsGap gap₂) (hright : IsRun isTableChar right) (hgap₃ : IsGap gap₃)
      (hon : SameWord "ON".toList on) (hgap₄ : IsGap gap₄) (hfirst : IsRun isColumnChar first)
      (hblanks₁ : ∀ c ∈ blanks₁, isBlank c = true) (hblanks₂ : ∀ c ∈ blanks₂, isBlank c = true)
      (hsecond : IsRun isColumnChar second) :
      Spelled ⟨.ofList left, kind, upper (.ofList keyword), .ofList right, .ofList first,
          .ofList second⟩
        (left ++ (gap₁ ++ (keyword ++ (words ++ (gap₂ ++ (right ++ (gap₃ ++ (on ++ (gap₄ ++
          (first ++ (blanks₁ ++ '=' :: (blanks₂ ++ second))))))))))))

/-! ## Characters of names -/

theorem isTableChar_of_isBlank {c : Char} (h : isBlank c = true) : isTableChar c = false := by
  have hword := isWord_of_isBlank h
  have hdollar : c ≠ '$' := fun hc => absurd (hc ▸ h) (by decide)
  have hdash : c ≠ '-' := fun hc => absurd (hc ▸ h) (by decide)
  simp [isTableChar, hword, hdollar, hdash]

theorem isColumnChar_of_isBlank {c : Char} (h : isBlank c = true) : isColumnChar c = false := by
  have hword := isWord_of_isBlank h
  have hdollar : c ≠ '$' := fun hc => absurd (hc ▸ h) (by decide)
  have hdot : c ≠ '.' := fun hc => absurd (hc ▸ h) (by decide)
  have hdash : c ≠ '-' := fun hc => absurd (hc ▸ h) (by decide)
  simp [isColumnChar, hword, hdollar, hdot, hdash]

theorem isBlank_of_isTableChar {c : Char} (h : isTableChar c = true) : isBlank c = false := by
  cases hb : isBlank c with
  | false => rfl
  | true => exact absurd h (by simp [isTableChar_of_isBlank hb])

theorem isBlank_of_isColumnChar {c : Char} (h : isColumnChar c = true) : isBlank c = false := by
  cases hb : isBlank c with
  | false => rfl
  | true => exact absurd h (by simp [isColumnChar_of_isBlank hb])

/-! ## Words of a join -/

theorem readKeyword?_eq_some_iff {kind other : JoinKind} {keyword : List Char} :
    readKeyword? kind chars = some (other, keyword, rest) ↔
      other = kind ∧ chars = keyword ++ rest ∧ SameWord kind.keyword.toList keyword := by
  unfold readKeyword?
  rw [Option.map_eq_some_iff]
  constructor
  · rintro ⟨left, hr, heq⟩
    obtain ⟨written, rfl, hw⟩ := dropWord?_eq_some_iff.mp hr
    cases heq
    simpa using hw
  · rintro ⟨rfl, rfl, hw⟩
    exact ⟨rest, dropWord?_eq_some_iff.mpr ⟨keyword, rfl, hw⟩, by simp⟩

/-- The keywords begin with different letters. -/
theorem readKeyword?_of_ne (other : JoinKind) {kind : JoinKind} (hne : other ≠ kind)
    {keyword : List Char} (hw : SameWord kind.keyword.toList keyword) :
    readKeyword? other (keyword ++ rest) = none := by
  unfold readKeyword?
  rw [Option.map_eq_none_iff]
  cases kind with
  | inner =>
    cases other with
    | inner => exact absurd rfl hne
    | left | right => exact dropWord?_of_sameWord hw (by decide)
  | left =>
    cases other with
    | left => exact absurd rfl hne
    | inner | right => exact dropWord?_of_sameWord hw (by decide)
  | right =>
    cases other with
    | right => exact absurd rfl hne
    | inner | left => exact dropWord?_of_sameWord hw (by decide)

theorem readKind?_eq_some_iff {kind : JoinKind} {keyword : List Char} :
    readKind? chars = some (kind, keyword, rest) ↔
      chars = keyword ++ rest ∧ SameWord kind.keyword.toList keyword := by
  constructor
  · intro h
    obtain ⟨other, -, hr⟩ := List.exists_of_findSome?_eq_some h
    obtain ⟨rfl, hc⟩ := readKeyword?_eq_some_iff.mp hr
    exact hc
  · rintro ⟨rfl, hw⟩
    have hr : readKeyword? kind (keyword ++ rest) = some (kind, keyword, rest) :=
      readKeyword?_eq_some_iff.mpr ⟨rfl, rfl, hw⟩
    cases kind with
    | inner => simp [readKind?, hr]
    | left => simp [readKind?, hr, readKeyword?_of_ne .inner (by decide) hw]
    | right =>
      simp [readKind?, hr, readKeyword?_of_ne .inner (by decide) hw,
        readKeyword?_of_ne .left (by decide) hw]

theorem gapWord_of_dropGap? {word : String}
    (h : (dropGap? chars).bind (dropWord? word.toList) = some rest) :
    ∃ written, chars = written ++ rest ∧ GapWord word written := by
  obtain ⟨afterGap, hg, hw⟩ := Option.bind_eq_some_iff.mp h
  obtain ⟨gap, rfl, hgap, -⟩ := dropGap?_eq_some_iff.mp hg
  obtain ⟨spelled, rfl, hs⟩ := dropWord?_eq_some_iff.mp hw
  exact ⟨gap ++ spelled, (List.append_assoc _ _ _).symm, gap, spelled, rfl, hgap, hs⟩

theorem dropGap?_gapWord {word : String} (first : Char) {letters written : List Char}
    (hword : word.toList = first :: letters) (hf : isBlank (caseKey first) = false)
    (h : GapWord word written) :
    (dropGap? (written ++ rest)).bind (dropWord? word.toList) = some rest := by
  obtain ⟨gap, spelled, rfl, hgap, hs⟩ := h
  have hstop := (hword ▸ hs).stopsAt_isBlank hf rest
  rw [List.append_assoc, dropGap?_eq_some_iff.mpr ⟨gap, rfl, hgap, hstop⟩, Option.bind_some]
  exact dropWord?_eq_some_iff.mpr ⟨spelled, rfl, hs⟩

theorem dropGap?_join {word : List Char} (h : GapWord "JOIN" word) :
    (dropGap? (word ++ rest)).bind (dropWord? "JOIN".toList) = some rest :=
  dropGap?_gapWord 'J' rfl (by decide) h

theorem readJoinWord?_eq_some_iff :
    readJoinWord? chars = some rest ↔ ∃ words, chars = words ++ rest ∧ JoinWords words := by
  unfold readJoinWord?
  dsimp only
  constructor
  · intro h
    split at h
    · next _ hboth =>
      cases h
      obtain ⟨afterOuter, ho, hj⟩ := Option.bind_eq_some_iff.mp hboth
      obtain ⟨outer, rfl, houter⟩ := gapWord_of_dropGap? ho
      obtain ⟨word, rfl, hword⟩ := gapWord_of_dropGap? hj
      exact ⟨outer ++ word, (List.append_assoc _ _ _).symm, .outer houter hword⟩
    · obtain ⟨word, rfl, hword⟩ := gapWord_of_dropGap? h
      exact ⟨word, rfl, .plain hword⟩
  · rintro ⟨words, rfl, hwords⟩
    cases hwords with
    | plain h =>
      -- the word after the gap begins with another letter than `OUTER`
      obtain ⟨gap, spelled, rfl, hgap, hs⟩ := id h
      have hj : SameWord ['J', 'O', 'I', 'N'] spelled := hs
      have hstop := hj.stopsAt_isBlank (by decide) rest
      have houter : (dropGap? (gap ++ spelled ++ rest)).bind (dropWord? "OUTER".toList) = none := by
        rw [List.append_assoc, dropGap?_eq_some_iff.mpr ⟨gap, rfl, hgap, hstop⟩, Option.bind_some]
        exact dropWord?_of_sameWord hj (by decide)
      rw [houter]
      exact dropGap?_join h
    | outer ho h =>
      rw [List.append_assoc, dropGap?_gapWord 'O' rfl (by decide) ho, Option.bind_some,
        dropGap?_join h]

/-! ## Whole joins -/

/-- Reads a join at the front of the text and keeps what follows it. -/
def readRest? (chars : List Char) : Option (Join × List Char) := do
  let (leftTable, rest) ← takeRun? isTableChar chars
  let (kind, keyword, rest) ← readKind? (← dropGap? rest)
  let rest ← dropGap? (← readJoinWord? rest)
  let (rightTable, rest) ← takeRun? isTableChar rest
  let rest ← dropGap? (← dropWord? "ON".toList (← dropGap? rest))
  let (leftColumn, rest) ← takeRun? isColumnChar rest
  let rest ← dropText? ['='] (dropBlanks rest)
  let (rightColumn, rest) ← takeRun? isColumnChar (dropBlanks rest)
  return (⟨.ofList leftTable, kind, upper (.ofList keyword), .ofList rightTable, .ofList leftColumn,
    .ofList rightColumn⟩, rest)

theorem read?_eq (chars : List Char) : read? chars = (readRest? chars).map (·.1) := by
  simp only [read?, readRest?, Option.bind_eq_bind, Option.pure_def, Option.map_bind,
    Function.comp_def, Option.map_some]

theorem read?_eq_some_iff {join : Join} :
    read? chars = some join ↔ ∃ rest, readRest? chars = some (join, rest) := by
  rw [read?_eq, Option.map_eq_some_iff]
  constructor
  · rintro ⟨⟨_, rest⟩, h, rfl⟩
    exact ⟨rest, h⟩
  · rintro ⟨rest, h⟩
    exact ⟨(join, rest), h, rfl⟩

theorem stopsAt_keyword {kind : JoinKind} {keyword : List Char}
    (h : SameWord kind.keyword.toList keyword) (rest : List Char) :
    StopsAt isBlank (keyword ++ rest) := by
  cases kind with
  | inner =>
    have hi : SameWord ['I', 'N', 'N', 'E', 'R'] keyword := h
    exact hi.stopsAt_isBlank (by decide) rest
  | left =>
    have hl : SameWord ['L', 'E', 'F', 'T'] keyword := h
    exact hl.stopsAt_isBlank (by decide) rest
  | right =>
    have hr : SameWord ['R', 'I', 'G', 'H', 'T'] keyword := h
    exact hr.stopsAt_isBlank (by decide) rest

/-- A column ends at the equality sign, blanks or not. -/
theorem signEnds {blanks : List Char} (h : ∀ c ∈ blanks, isBlank c = true) (rest : List Char) :
    StopsAt isColumnChar (blanks ++ '=' :: rest) := by
  cases blanks with
  | nil => exact stopsAt_cons.mpr (by decide)
  | cons c more => exact stopsAt_cons.mpr (isColumnChar_of_isBlank (h c List.mem_cons_self))

theorem spelled_of_readRest? {join : Join} (h : readRest? chars = some (join, rest)) :
    ∃ written, chars = written ++ rest ∧ Spelled join written ∧ StopsAt isColumnChar rest := by
  unfold readRest? at h
  obtain ⟨⟨left, afterLeft⟩, hleft, h⟩ := Option.bind_eq_some_iff.mp h
  obtain ⟨fromKind, hgap₁, h⟩ := Option.bind_eq_some_iff.mp h
  obtain ⟨⟨kind, keyword, afterKind⟩, hkind, h⟩ := Option.bind_eq_some_iff.mp h
  obtain ⟨afterWords, hwords, h⟩ := Option.bind_eq_some_iff.mp h
  obtain ⟨fromRight, hgap₂, h⟩ := Option.bind_eq_some_iff.mp h
  obtain ⟨⟨right, afterRight⟩, hright, h⟩ := Option.bind_eq_some_iff.mp h
  obtain ⟨fromOn, hgap₃, h⟩ := Option.bind_eq_some_iff.mp h
  obtain ⟨afterOn, hon, h⟩ := Option.bind_eq_some_iff.mp h
  obtain ⟨fromFirst, hgap₄, h⟩ := Option.bind_eq_some_iff.mp h
  obtain ⟨⟨first, afterFirst⟩, hfirst, h⟩ := Option.bind_eq_some_iff.mp h
  obtain ⟨afterSign, hsign, h⟩ := Option.bind_eq_some_iff.mp h
  obtain ⟨⟨second, afterSecond⟩, hsecond, h⟩ := Option.bind_eq_some_iff.mp h
  cases h
  -- each step took its piece off the front of what the step before left
  obtain ⟨rfl, isLeft, -⟩ := takeRun?_eq_some_iff.mp hleft
  obtain ⟨gap₁, rfl, isGap₁, -⟩ := dropGap?_eq_some_iff.mp hgap₁
  obtain ⟨rfl, isKeyword⟩ := readKind?_eq_some_iff.mp hkind
  obtain ⟨words, rfl, areWords⟩ := readJoinWord?_eq_some_iff.mp hwords
  obtain ⟨gap₂, rfl, isGap₂, -⟩ := dropGap?_eq_some_iff.mp hgap₂
  obtain ⟨rfl, isRight, -⟩ := takeRun?_eq_some_iff.mp hright
  obtain ⟨gap₃, rfl, isGap₃, -⟩ := dropGap?_eq_some_iff.mp hgap₃
  obtain ⟨on, rfl, isOn⟩ := dropWord?_eq_some_iff.mp hon
  obtain ⟨gap₄, rfl, isGap₄, -⟩ := dropGap?_eq_some_iff.mp hgap₄
  obtain ⟨rfl, isFirst, -⟩ := takeRun?_eq_some_iff.mp hfirst
  obtain ⟨blanks₁, hb₁, areBlanks₁, -⟩ := exists_blanks_dropBlanks afterFirst
  obtain ⟨blanks₂, hb₂, areBlanks₂, -⟩ := exists_blanks_dropBlanks afterSign
  obtain ⟨hs, isSecond, hstop⟩ := takeRun?_eq_some_iff.mp hsecond
  rw [dropText?_eq_some_iff.mp hsign, hb₂, hs] at hb₁
  refine ⟨_, ?_, .intro isLeft isGap₁ isKeyword areWords isGap₂ isRight isGap₃ isOn isGap₄ isFirst
    areBlanks₁ areBlanks₂ isSecond, hstop⟩
  rw [hb₁]
  simp only [List.append_assoc, List.cons_append, List.nil_append]

theorem readRest?_of_spelled {join : Join} {written : List Char} (h : Spelled join written)
    (hstop : StopsAt isColumnChar rest) : readRest? (written ++ rest) = some (join, rest) := by
  obtain @⟨left, gap₁, keyword, words, gap₂, right, gap₃, on, gap₄, first, blanks₁, blanks₂, second,
    kind, isLeft, isGap₁, isKeyword, areWords, isGap₂, isRight, isGap₃, isOn, isGap₄, isFirst,
    areBlanks₁, areBlanks₂, isSecond⟩ := h
  have tableEnds {gap : List Char} (h : IsGap gap) (rest : List Char) :
      StopsAt isTableChar (gap ++ rest) := h.stopsAt (fun _ => isTableChar_of_isBlank) rest
  have namesBegin {run : List Char} (h : IsRun isTableChar run) (rest : List Char) :
      StopsAt isBlank (run ++ rest) := h.stopsAt (fun _ => isBlank_of_isTableChar) rest
  have columnsBegin {run : List Char} (h : IsRun isColumnChar run) (rest : List Char) :
      StopsAt isBlank (run ++ rest) := h.stopsAt (fun _ => isBlank_of_isColumnChar) rest
  have isWordOn : SameWord ['O', 'N'] on := isOn
  unfold readRest?
  simp only [List.append_assoc, List.cons_append]
  refine Option.bind_eq_some_iff.mpr
    ⟨_, takeRun?_eq_some_iff.mpr ⟨rfl, isLeft, tableEnds isGap₁ _⟩, ?_⟩
  refine Option.bind_eq_some_iff.mpr
    ⟨_, dropGap?_eq_some_iff.mpr ⟨gap₁, rfl, isGap₁, stopsAt_keyword isKeyword _⟩, ?_⟩
  refine Option.bind_eq_some_iff.mpr ⟨_, readKind?_eq_some_iff.mpr ⟨rfl, isKeyword⟩, ?_⟩
  refine Option.bind_eq_some_iff.mpr ⟨_, readJoinWord?_eq_some_iff.mpr ⟨words, rfl, areWords⟩, ?_⟩
  refine Option.bind_eq_some_iff.mpr
    ⟨_, dropGap?_eq_some_iff.mpr ⟨gap₂, rfl, isGap₂, namesBegin isRight _⟩, ?_⟩
  refine Option.bind_eq_some_iff.mpr
    ⟨_, takeRun?_eq_some_iff.mpr ⟨rfl, isRight, tableEnds isGap₃ _⟩, ?_⟩
  refine Option.bind_eq_some_iff.mpr
    ⟨_, dropGap?_eq_some_iff.mpr ⟨gap₃, rfl, isGap₃, isWordOn.stopsAt_isBlank (by decide) _⟩, ?_⟩
  refine Option.bind_eq_some_iff.mpr ⟨_, dropWord?_eq_some_iff.mpr ⟨on, rfl, isOn⟩, ?_⟩
  refine Option.bind_eq_some_iff.mpr
    ⟨_, dropGap?_eq_some_iff.mpr ⟨gap₄, rfl, isGap₄, columnsBegin isFirst _⟩, ?_⟩
  refine Option.bind_eq_some_iff.mpr
    ⟨_, takeRun?_eq_some_iff.mpr ⟨rfl, isFirst, signEnds areBlanks₁ _⟩, ?_⟩
  rw [dropBlanks_append areBlanks₁ (stopsAt_cons.mpr (by decide))]
  refine Option.bind_eq_some_iff.mpr
    ⟨blanks₂ ++ (second ++ rest), dropText?_eq_some_iff.mpr rfl, ?_⟩
  rw [dropBlanks_append areBlanks₂ (columnsBegin isSecond _)]
  exact Option.bind_eq_some_iff.mpr ⟨_, takeRun?_eq_some_iff.mpr ⟨rfl, isSecond, hstop⟩, rfl⟩

/-- The left table stands first. -/
theorem Spelled.exists_left {join : Join} {written : List Char} (h : Spelled join written) :
    ∃ more, written = join.leftTable.toList ++ more := by
  obtain ⟨-, -, -, -, -, -, -, -, -, -, -, -, -⟩ := h
  exact ⟨_, by rw [String.toList_ofList]⟩

/-- A join begins with a name. -/
theorem Spelled.stopsAt_isBlank {join : Join} {written : List Char} (h : Spelled join written)
    (rest : List Char) : StopsAt isBlank (written ++ rest) := by
  obtain ⟨isLeft, -, -, -, -, -, -, -, -, -, -, -, -⟩ := h
  rw [List.append_assoc]
  exact isLeft.stopsAt (fun _ => isBlank_of_isTableChar) _

/-- A join ends with a column. -/
theorem Spelled.stopsAt_isBlank_reverse {join : Join} {written : List Char}
    (h : Spelled join written) : StopsAt isBlank written.reverse := by
  obtain @⟨left, gap₁, keyword, words, gap₂, right, gap₃, on, gap₄, first, blanks₁, blanks₂, second,
    -, -, -, -, -, -, -, -, -, -, -, -, -, isSecond⟩ := h
  have isLast : IsRun isColumnChar second.reverse :=
    ⟨fun hn => isSecond.1 (List.reverse_eq_nil_iff.mp hn),
      fun c hc => isSecond.2 c (List.mem_reverse.mp hc)⟩
  have hend := isLast.stopsAt (fun _ => isBlank_of_isColumnChar)
    (left ++ gap₁ ++ keyword ++ words ++ gap₂ ++ right ++ gap₃ ++ on ++ gap₄ ++ first ++ blanks₁ ++
      ['='] ++ blanks₂).reverse
  rw [← List.reverse_append] at hend
  simpa only [List.append_assoc, List.cons_append, List.nil_append] using hend

/-- A join is read exactly where one is spelled that ends with its second column. -/
theorem readRest?_eq_some_iff {join : Join} :
    readRest? chars = some (join, rest) ↔
      ∃ written, chars = written ++ rest ∧ Spelled join written ∧ StopsAt isColumnChar rest := by
  constructor
  · exact spelled_of_readRest?
  · rintro ⟨written, rfl, h, hstop⟩
    exact readRest?_of_spelled h hstop

/-- The join is found in a table expression that is nothing else. -/
theorem find?_of_spelled {join : Join} {table : String} (h : Spelled join table.toList) :
    find? table = some join := by
  have hall := readRest?_of_spelled h (stopsAt_nil _)
  rw [List.append_nil] at hall
  have hfront := search_of_reads (read?_eq_some_iff.mpr ⟨[], hall⟩)
  rw [find?, hfront]
  rfl

end SqlToolkit.Join
