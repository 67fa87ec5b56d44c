import SqlToolkit.Proofs.Lexer.Origin
import SqlToolkit.Proofs.Number.Numeral
import SqlToolkit.Proofs.Statement.MarkerValues

/-!
# What a driver makes of percent signs

A driver that reads percent signs expands the directives of a statement: `%%` is a percent sign,
`%s` the next text, `%(name)s` the text with that name. It reads the whole statement, while percent
signs were doubled and markers spelled in one piece after the other. Still the pieces come back one
by one: no piece ends inside a directive, so a percent sign of one piece is never read together with
what follows it.
-/

namespace SqlToolkit.Marker

open SqlToolkit.Text SqlToolkit.Lexer

/-! ## Drivers that read percent signs -/

/-- The texts that a driver puts in the place of directives. -/
inductive Supply where
  /-- One for each directive, in order. -/
  | inTurn (texts : List (List Char))
  | byName (texts : List (String × List Char))

def Supply.style : Supply → Paramstyle
  | .inTurn _ => .format
  | .byName _ => .pyformat

/-- The texts for the markers with the keys, unless one is missing or left over. -/
def Supply.texts? : Supply → List MarkerKey → Option (List (List Char))
  | .inTurn texts, keys => if texts.length = keys.length then some texts else none
  | .byName texts, keys => keys.mapM fun key => Entries.get? key.argumentName texts

inductive Progress where
  | plain
  /-- What follows a percent sign. -/
  | directive
  /-- A name, as far as it was read. Parentheses in it are closed before it ends. -/
  | name (nesting : Nat) (read : List Char)
  /-- What follows a name. -/
  | conversion (name : List Char)

/-- The text with its directives expanded. Texts left over, names without a text and all that is no
directive are refused. -/
def expand : Progress → Supply → List Char → Option (List Char)
  | .plain, .inTurn (_ :: _), [] => none
  | .plain, _, [] => some []
  | .plain, supply, c :: rest =>
    if c = '%' then expand .directive supply rest else (expand .plain supply rest).map (c :: ·)
  | .directive, supply, '%' :: rest => (expand .plain supply rest).map ('%' :: ·)
  | .directive, .inTurn (text :: texts), 's' :: rest =>
    (expand .plain (.inTurn texts) rest).map (text ++ ·)
  | .directive, .byName texts, '(' :: rest => expand (.name 0 []) (.byName texts) rest
  | .name nesting read, supply, c :: rest =>
    if c = '(' then expand (.name (nesting + 1) (read ++ [c])) supply rest
    else if c = ')' then
      match nesting with
      | 0 => expand (.conversion read) supply rest
      | nesting + 1 => expand (.name nesting (read ++ [c])) supply rest
    else expand (.name nesting (read ++ [c])) supply rest
  | .conversion name, .byName texts, 's' :: rest =>
    (Entries.get? (String.ofList name) texts).bind fun text =>
      (expand .plain (.byName texts) rest).map (text ++ ·)
  | _, _, _ => none

theorem expand_pair (supply : Supply) (rest : List Char) :
    expand .plain supply ('%' :: '%' :: rest) = (expand .plain supply rest).map ('%' :: ·) := by
  rcases supply with (_ | _) | _ <;> rfl

/-- Doubled percent signs are read one pair after the other. -/
theorem expand_escapePercent (supply : Supply) (content rest : List Char) :
    expand .plain supply (escapePercent content ++ rest) =
      (expand .plain supply rest).map (content ++ ·) := by
  induction content with
  | nil => simp [escapePercent]
  | cons c content ih =>
    have hcons : (expand .plain supply rest).map (c :: content ++ ·) =
        (expand .plain supply (escapePercent content ++ rest)).map (c :: ·) := by
      rw [ih, Option.map_map]
      rfl
    rw [hcons]
    by_cases hc : c = '%'
    · subst hc
      exact expand_pair supply (escapePercent content ++ rest)
    · have hescape : escapePercent (c :: content) = c :: escapePercent content := by
        simp [escapePercent, hc]
      rw [hescape, List.cons_append, expand, if_neg hc]

/-! ## Names in directives -/

/-- A name without parentheses is read up to the one that closes it. -/
theorem expand_name {name : List Char} (h : ∀ c ∈ name, c ≠ '(' ∧ c ≠ ')') (supply : Supply)
    (read rest : List Char) :
    expand (.name 0 read) supply (name ++ ')' :: rest) =
      expand (.conversion (read ++ name)) supply rest := by
  induction name generalizing read with
  | nil =>
    rw [List.append_nil]
    rfl
  | cons c name ih =>
    obtain ⟨hc, hname⟩ := List.forall_mem_cons.mp h
    rw [List.cons_append, expand, if_neg hc.1, if_neg hc.2, ih hname, List.append_assoc]
    rfl

def IsPlainName (name : String) : Prop := ∀ c ∈ name.toList, c ≠ '(' ∧ c ≠ ')'

theorem isPlainName_of_isWord {name : String} (h : ∀ c ∈ name.toList, isWord c = true) :
    IsPlainName name := by
  refine fun c hc => ⟨?_, ?_⟩
  · rintro rfl
    exact absurd (h _ hc) (by decide)
  · rintro rfl
    exact absurd (h _ hc) (by decide)

theorem isPlainName_positional (n : Nat) :
    IsPlainName (MarkerKey.positional n).argumentName := by
  intro c hc
  rw [MarkerKey.toList_argumentName_positional] at hc
  rcases List.mem_cons.mp hc with rfl | hmem
  · decide
  · have hdigit := Numeral.isDigit_of_mem_toString hmem
    constructor
    · rintro rfl
      exact absurd hdigit (by decide)
    · rintro rfl
      exact absurd hdigit (by decide)

/-! ## Markers -/

namespace Supply

/-- The text for one marker, and what is supplied for those after it. -/
def next? : Supply → MarkerKey → Option (List Char × Supply)
  | .inTurn [], _ => none
  | .inTurn (text :: texts), _ => some (text, .inTurn texts)
  | .byName texts, key =>
    (Entries.get? key.argumentName texts).map fun text => (text, .byName texts)

variable {supply left : Supply} {key : MarkerKey} {text : List Char}

theorem style_of_next? (h : supply.next? key = some (text, left)) : left.style = supply.style := by
  rcases supply with (_ | _) | _
  · cases h
  · cases h
    rfl
  · obtain ⟨_, -, hleft⟩ := Option.map_eq_some_iff.mp h
    cases hleft
    rfl

theorem readsPercent_style (supply : Supply) : supply.style.readsPercent = true := by
  cases supply <;> rfl

theorem texts?_cons (supply : Supply) (key : MarkerKey) (keys : List MarkerKey) :
    supply.texts? (key :: keys) =
      (supply.next? key).bind fun next => (next.2.texts? keys).map (next.1 :: ·) := by
  rcases supply with (_ | ⟨text, texts⟩) | texts
  · rfl
  · by_cases h : texts.length = keys.length
    · simp [texts?, next?, h]
    · simp [texts?, next?, h]
  · cases h : Entries.get? key.argumentName texts with
    | none => simp [texts?, next?, h]
    | some text =>
      rw [texts?, next?, List.mapM_cons, h]
      show _ = (keys.mapM fun key => Entries.get? key.argumentName texts).map (text :: ·)
      cases keys.mapM fun key => Entries.get? key.argumentName texts <;> rfl

end Supply

/-- A marker takes one text, whatever comes after it. -/
theorem expand_render {key : MarkerKey} (h : IsPlainName key.argumentName) (supply : Supply)
    (index : Nat) (rest : List Char) :
    expand .plain supply (render supply.style key index ++ rest) =
      (supply.next? key).bind fun next => (expand .plain next.2 rest).map (next.1 ++ ·) := by
  rcases supply with (_ | _) | texts
  · rfl
  · rfl
  · show expand (.name 0 []) (.byName texts) (key.argumentName.toList ++ [')', 's'] ++ rest) = _
    rw [List.append_assoc]
    show expand (.name 0 []) (.byName texts) (key.argumentName.toList ++ ')' :: 's' :: rest) = _
    rw [expand_name h, List.nil_append, expand, String.ofList_toList, Supply.next?]
    cases Entries.get? key.argumentName texts <;> rfl

/-! ## Statements -/

/-- What a driver makes of the pieces of a statement is what stood there, with the texts in the
places of the markers. -/
theorem expand_renderPieces {pieces : List Piece}
    (h : ∀ key ∈ keys pieces, IsPlainName key.argumentName) (supply : Supply) (index : Nat)
    (current : List Char) :
    (expand .plain supply (renderPieces supply.style index pieces)).map (current ++ ·) =
      (supply.texts? (keys pieces)).map (weave (gaps .qmark current pieces)) := by
  induction pieces generalizing supply index current with
  | nil =>
    rcases supply with (_ | _) | _
    all_goals simp [renderPieces, expand, keys, Supply.texts?, gaps, weave]
  | cons piece rest ih =>
    cases piece with
    | text content =>
      have hrest := ih h supply index (current ++ content)
      show (expand .plain supply ((if supply.style.readsPercent then escapePercent content
        else content) ++ renderPieces supply.style index rest)).map _ = _
      rw [supply.readsPercent_style, if_pos rfl, expand_escapePercent, Option.map_map]
      refine Eq.trans ?_ hrest
      simp only [Function.comp_def, List.append_assoc]
    | marker key =>
      obtain ⟨hkey, hkeys⟩ := List.forall_mem_cons.mp h
      show (expand .plain supply (render supply.style key (index + 1) ++
        renderPieces supply.style (index + 1) rest)).map _ =
          (supply.texts? (key :: keys rest)).map (weave (current :: gaps .qmark [] rest))
      rw [expand_render hkey, Supply.texts?_cons]
      cases hnext : supply.next? key with
      | none => rfl
      | some next =>
        obtain ⟨text, left⟩ := next
        have hrest := ih hkeys left (index + 1) []
        simp only [List.nil_append, Option.map_id'] at hrest
        simp only [Option.bind_some, Option.map_map, Function.comp_def]
        rw [← Supply.style_of_next? hnext, hrest, Option.map_map]
        simp [Function.comp_def, weave]

def spelled : MarkerKey → List Char
  | .named name => ':' :: name.toList
  | .positional _ => ['?']

def Piece.source : Piece → List Char
  | .text content => content
  | .marker key => spelled key

theorem flatMap_source_pieces (position : Nat) (tokens : List Token) :
    (pieces position tokens).flatMap Piece.source = tokens.flatMap Token.text := by
  induction tokens generalizing position with
  | nil => rfl
  | cons token rest ih =>
    rw [List.flatMap_cons]
    unfold pieces
    split
    · split
      · next htext => rw [List.flatMap_cons, ih, htext, Piece.source, spelled]
      · next htext => rw [List.flatMap_cons, ih, htext, Piece.source, spelled, String.toList_ofList]
      · rw [List.flatMap_cons, ih, Piece.source]
    · rw [List.flatMap_cons, ih, Piece.source]

theorem weave_spelled (pieces : List Piece) (current : List Char) :
    weave (gaps .qmark current pieces) ((keys pieces).map spelled) =
      current ++ pieces.flatMap Piece.source := by
  induction pieces generalizing current with
  | nil => simp [gaps, keys, weave]
  | cons piece rest ih =>
    cases piece with
    | text content =>
      show weave (gaps .qmark (current ++ content) rest) ((keys rest).map spelled) = _
      rw [ih, List.append_assoc]
      rfl
    | marker key =>
      show current ++ spelled key ++ weave (gaps .qmark [] rest) ((keys rest).map spelled) = _
      rw [ih, List.append_assoc]
      rfl

theorem length_gaps (style : Paramstyle) (current : List Char) (pieces : List Piece) :
    (gaps style current pieces).length = (keys pieces).length + 1 := by
  induction pieces generalizing current with
  | nil => rfl
  | cons piece rest ih =>
    cases piece with
    | text content => exact ih _
    | marker key => exact congrArg (· + 1) (ih [])

theorem isPlainName_of_mem_keys {tokens : List Token} {key : MarkerKey} (position : Nat)
    (h : ∀ token ∈ tokens, token.kind = .placeholder → ∀ name, token.text = ':' :: name →
      ∀ c ∈ name, isWord c = true) (hkey : key ∈ keys (pieces position tokens)) :
    IsPlainName key.argumentName := by
  induction tokens generalizing position with
  | nil => cases hkey
  | cons token rest ih =>
    obtain ⟨htoken, hrest⟩ := List.forall_mem_cons.mp h
    unfold pieces at hkey
    split at hkey
    · next hplace =>
      split at hkey
      · rcases List.mem_cons.mp hkey with rfl | hmore
        · exact isPlainName_positional (position + 1)
        · exact ih (position + 1) hrest hmore
      · next c more htext =>
        rcases List.mem_cons.mp hkey with rfl | hmore
        · refine isPlainName_of_isWord fun d hd => htoken hplace (c :: more) htext d ?_
          simpa [MarkerKey.argumentName] using hd
        · exact ih position hrest hmore
      · exact ih position hrest hkey
    · exact ih position hrest hkey

/-- A way to cut a text in which markers with a colon have words for names. -/
structure WordCutting extends Cutting where
  words : ∀ chars, ∀ token ∈ cut chars, token.kind = .placeholder → ∀ name,
    token.text = ':' :: name → ∀ c ∈ name, isWord c = true

/-- How statements are cut. -/
def WordCutting.standard : WordCutting :=
  { Cutting.standard with words := fun _ _ hmem hkind _ => isWord_of_placeholder hmem hkind }

/-- **Percent signs survive the driver.** However a text with markers is cut into tokens, the
statement that is written for a driver that reads percent signs expands to the same text with each
marker replaced by the text that is supplied for it, in turn or by its name, and all else unchanged.
The only statements that are refused are those where a text is missing or left over. -/
theorem expand_restyle (cutting : WordCutting) (sql : String) (supply : Supply)
    (hmarked : (cutting.restyle sql supply.style).2 ≠ []) :
    let restyled := cutting.restyle sql supply.style
    let around := gaps .qmark [] (cutting.pieces sql)
    around.length = restyled.2.length + 1 ∧
      sql.toList = weave around (restyled.2.map spelled) ∧
      expand .plain supply restyled.1.toList = (supply.texts? restyled.2).map (weave around) := by
  have hplain (key : MarkerKey) (hkey : key ∈ keys (cutting.pieces sql)) :
      IsPlainName key.argumentName :=
    isPlainName_of_mem_keys 0 (cutting.words sql.toList) hkey
  dsimp only
  rw [Cutting.restyle_of_marked hmarked, String.toList_ofList]
  refine ⟨length_gaps .qmark [] (cutting.pieces sql), ?_, ?_⟩
  · have hwhole := cutting.whole sql.toList
    rw [weave_spelled, Cutting.pieces, flatMap_source_pieces, hwhole, List.nil_append]
  · have hexpand := expand_renderPieces hplain supply 0 []
    simpa only [List.nil_append, Option.map_id'] using hexpand

/-- Percent signs in a literal, next to a marker and in a text that is filled in. -/
theorem expand_restyle_literal :
    (WordCutting.standard.restyle "'%s%' || ?%:a" .pyformat).2 ≠ [] ∧
      expand .plain (.byName [("p1", "%s".toList), ("a", "7".toList)])
        (WordCutting.standard.restyle "'%s%' || ?%:a" .pyformat).1.toList =
          some "'%s%' || %s%7".toList := by
  have hpieces : WordCutting.standard.pieces "'%s%' || ?%:a" =
      [.text "'%s%'".toList, .text [' '], .text "||".toList, .text [' '],
        .marker (.positional 1), .text ['%'], .marker (.named "a")] := by decide +kernel
  have hkeys : (WordCutting.standard.restyle "'%s%' || ?%:a" .pyformat).2 =
      [.positional 1, .named "a"] := by
    unfold Cutting.restyle
    rw [hpieces]
    rfl
  have hmarked : (WordCutting.standard.restyle "'%s%' || ?%:a" .pyformat).2 ≠ [] := by
    rw [hkeys]
    exact List.cons_ne_nil _ _
  have hexpand := (expand_restyle .standard "'%s%' || ?%:a"
    (.byName [("p1", "%s".toList), ("a", "7".toList)]) hmarked).2.2
  refine ⟨hmarked, hexpand.trans ?_⟩
  show (Supply.texts? _ (WordCutting.standard.restyle "'%s%' || ?%:a" .pyformat).2).map _ = _
  rw [hkeys, hpieces]
  cbv

end SqlToolkit.Marker
