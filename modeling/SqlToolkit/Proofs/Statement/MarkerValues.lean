import Mathlib.Data.List.Forall2
import Mathlib.Data.List.Nodup
import SqlToolkit.Client.Statement
import SqlToolkit.Proofs.Entries

/-!
# Which value a marker gets

A driver finds the value of a marker by its place, by its number or by its name. The names of the
`?` markers are made up when the statement is spelled anew, and nobody compares them with the names
that are written in it: `:p1` and the first `?` are one name to a driver that takes names, and the
marker that stands further back decides what is bound under it. That is the only way in which a
marker gets another value than the one bound to its key, however the text is cut into tokens.
-/

namespace SqlToolkit

open SqlToolkit.Lexer

/-! ## Names of markers -/

theorem MarkerKey.toList_argumentName_positional (n : Nat) :
    (MarkerKey.positional n).argumentName.toList = 'p' :: (toString n).toList := by
  unfold argumentName
  simp only [String.toList_append]
  rfl

theorem MarkerKey.argumentName_positional_inj {m n : Nat}
    (h : (MarkerKey.positional m).argumentName = (MarkerKey.positional n).argumentName) :
    m = n := by
  have digits : (toString m).toList = (toString n).toList := by
    have chars := congrArg String.toList h
    rw [toList_argumentName_positional, toList_argumentName_positional] at chars
    exact List.tail_eq_of_cons_eq chars
  have value := congrArg (fun chars => Nat.ofDigitChars 10 chars 0) digits
  simpa using value

/-- Two keys with one name are one key, or a written name and a `?` that was given the same name. -/
theorem MarkerKey.eq_or_clash {key other : MarkerKey} (h : other.argumentName = key.argumentName) :
    other = key ∨
      ∃ n, (other = .positional n ∧ key = .named (MarkerKey.positional n).argumentName) ∨
        (key = .positional n ∧ other = .named (MarkerKey.positional n).argumentName) := by
  cases other with
  | named a =>
    cases key with
    | named b => exact .inl (congrArg MarkerKey.named h)
    | positional n => exact .inr ⟨n, .inr ⟨rfl, congrArg MarkerKey.named h⟩⟩
  | positional m =>
    cases key with
    | named b => exact .inr ⟨m, .inl ⟨rfl, congrArg MarkerKey.named h.symm⟩⟩
    | positional n => exact .inl (congrArg MarkerKey.positional (argumentName_positional_inj h))

namespace Marker

/-! ## Statements that are spelled anew -/

/-- A statement with markers is written anew, piece by piece. -/
theorem Cutting.restyle_of_marked {cutting : Cutting} {sql : String} {style : Paramstyle}
    (h : (cutting.restyle sql style).2 ≠ []) :
    cutting.restyle sql style =
      (String.ofList (renderPieces style 0 (cutting.pieces sql)), keys (cutting.pieces sql)) := by
  unfold Cutting.restyle at h ⊢
  split at h
  · exact absurd rfl h
  · rfl

/-- The markers as they are written, when `index` markers were passed. -/
def written (style : Paramstyle) (index : Nat) : List MarkerKey → List (List Char)
  | [] => []
  | key :: rest => render style key (index + 1) :: written style (index + 1) rest

/-- The texts around the markers, the one before the first marker being under way. -/
def gaps (style : Paramstyle) (current : List Char) : List Piece → List (List Char)
  | [] => [current]
  | .marker _ :: rest => current :: gaps style [] rest
  | .text content :: rest =>
    gaps style (current ++ if style.readsPercent then escapePercent content else content) rest

def weave : List (List Char) → List (List Char) → List Char
  | gap :: gaps, marker :: markers => gap ++ marker ++ weave gaps markers
  | gaps, _ => gaps.flatten

theorem weave_gaps (style : Paramstyle) (pieces : List Piece) (index : Nat) (current : List Char) :
    weave (gaps style current pieces) (written style index (keys pieces)) =
      current ++ renderPieces style index pieces := by
  induction pieces generalizing index current with
  | nil => simp [gaps, keys, written, weave, renderPieces]
  | cons piece rest ih =>
    cases piece with
    | text content =>
      show weave (gaps style (current ++ _) rest) (written style index (keys rest)) = _
      rw [ih, List.append_assoc]
      rfl
    | marker key =>
      show current ++ render style key (index + 1) ++
        weave (gaps style [] rest) (written style (index + 1) (keys rest)) = _
      rw [ih, List.append_assoc]
      rfl

theorem getElem?_written (style : Paramstyle) (keys : List MarkerKey) (index place : Nat) :
    (written style index keys)[place]? =
      keys[place]?.map fun key => render style key (index + place + 1) := by
  induction keys generalizing index place with
  | nil => rfl
  | cons key rest ih =>
    cases place with
    | zero => rfl
    | succ place =>
      have shift : index + 1 + place + 1 = index + (place + 1) + 1 := by omega
      simpa [written, shift] using ih (index + 1) place

/-! ## How a driver finds a value -/

/-- The value that a driver finds for the marker at a place of the statement: by the place, by the
number that the marker shows (counted from one), or by the name that it shows. -/
def resolve? : Paramstyle → Arguments → Nat → List Char → Option Value
  | .qmark, .positional values, place, _ | .format, .positional values, place, _ => values[place]?
  | .numeric, .positional values, _, ':' :: digits =>
    match Nat.ofDigitChars 10 digits 0 with
    | 0 => none
    | number + 1 => values[number]?
  | .named, .named values, _, ':' :: name => Entries.get? (String.ofList name) values
  | .pyformat, .named values, _, '%' :: '(' :: name =>
    Entries.get? (String.ofList name.dropLast.dropLast) values
  | _, _, _, _ => none

theorem resolve?_of_positional {style : Paramstyle} (h : style.takesNames = false)
    (values : List Value) (key : MarkerKey) (place : Nat) :
    resolve? style (.positional values) place (render style key (place + 1)) = values[place]? := by
  cases style with
  | qmark | format => rfl
  | numeric => simp [resolve?, render]
  | named | pyformat => cases h

theorem resolve?_of_named {style : Paramstyle} (h : style.takesNames = true)
    (values : List (String × Value)) (key : MarkerKey) (place : Nat) :
    resolve? style (.named values) place (render style key (place + 1)) =
      Entries.get? key.argumentName values := by
  cases style with
  | qmark | format | numeric => cases h
  | named => simp [resolve?, render]
  | pyformat => simp [resolve?, render]

/-! ## Arguments -/

open PreparedStatement (arguments bound?)

/-- No `?` is given a name that is also written in the statement, unless both are bound alike. -/
def Unclashed (bindings : Value.Entries) (keys : List MarkerKey) : Prop :=
  ∀ n, .positional n ∈ keys → .named (MarkerKey.positional n).argumentName ∈ keys →
    bound? bindings (.positional n) = bound? bindings (.named (MarkerKey.positional n).argumentName)

variable {style : Paramstyle} {bindings : Value.Entries} {keys : List MarkerKey}

/-- The arguments give every marker the value of its key. -/
def Delivers (style : Paramstyle) (bindings : Value.Entries) (keys : List MarkerKey)
    (given : Arguments) : Prop :=
  ∀ place key, keys[place]? = some key → ∃ marker, (written style 0 keys)[place]? = some marker ∧
    resolve? style given place marker = bound? bindings key

theorem delivers_iff {given : Arguments} :
    Delivers style bindings keys given ↔ ∀ place key, keys[place]? = some key →
      resolve? style given place (render style key (place + 1)) = bound? bindings key := by
  refine forall_congr' fun place => forall_congr' fun key => imp_congr_right fun hk => ?_
  simp [getElem?_written, hk]

/-- The value that is passed for a key; keys without a value are refused before. -/
def passed (bindings : Value.Entries) (key : MarkerKey) : Value := (bound? bindings key).getD .null

theorem some_passed {key : MarkerKey} (h : (bound? bindings key).isSome = true) :
    some (passed bindings key) = bound? bindings key := by
  obtain ⟨value, hv⟩ := Option.isSome_iff_exists.mp h
  rw [passed, hv, Option.getD_some]

theorem arguments_of_covered (style : Paramstyle)
    (covered : ∀ key ∈ keys, (bound? bindings key).isSome = true) :
    arguments style bindings keys = .ok
      (if style.takesNames then
        .named (Entries.ofList (keys.map fun key => (key.argumentName, passed bindings key)))
      else .positional (keys.map (passed bindings))) := by
  have none_missing : (keys.filter fun key => (bound? bindings key).isNone) = [] := by
    refine List.filter_eq_nil_iff.mpr fun key hk => ?_
    simp [Option.isSome_iff_ne_none.mp (covered key hk)]
  unfold arguments
  rw [none_missing]
  cases style.takesNames <;> rfl

theorem delivers_positional (h : style.takesNames = false)
    (covered : ∀ key ∈ keys, (bound? bindings key).isSome = true) :
    Delivers style bindings keys (.positional (keys.map (passed bindings))) := by
  refine delivers_iff.mpr fun place key hk => ?_
  rw [resolve?_of_positional h, List.getElem?_map, hk, Option.map_some,
    some_passed (covered key (List.mem_of_getElem? hk))]

theorem delivers_named_iff (h : style.takesNames = true)
    (covered : ∀ key ∈ keys, (bound? bindings key).isSome = true) :
    Delivers style bindings keys (.named (Entries.ofList
      (keys.map fun key => (key.argumentName, passed bindings key)))) ↔ Unclashed bindings keys := by
  rw [delivers_iff]
  simp only [resolve?_of_named h]
  constructor
  · intro delivers n hp hn
    -- one name has one value, and both markers get it
    obtain ⟨i, hi⟩ := List.mem_iff_getElem?.mp hp
    obtain ⟨j, hj⟩ := List.mem_iff_getElem?.mp hn
    exact (delivers i _ hi).symm.trans (delivers j _ hj)
  · intro unclashed place key hk
    have hmem := List.mem_of_getElem? hk
    obtain ⟨other, hother, hname, hget⟩ :=
      Entries.get?_ofList_map MarkerKey.argumentName (passed bindings) hmem
    rw [hget, some_passed (covered other hother)]
    obtain rfl | ⟨n, ⟨rfl, rfl⟩ | ⟨rfl, rfl⟩⟩ := MarkerKey.eq_or_clash hname
    · rfl
    · exact unclashed n hother hmem
    · exact (unclashed n hmem hother).symm

/-- **A marker gets the value of its key unless its name is taken.** When every marker has a value,
the arguments can be built, the markers stand in the new text in the order of their keys, and each
gets the value bound to its key: always if values are passed by place or number, and if they are
passed by name, exactly as long as no name made up for a `?` is also written in the statement with
another value. -/
theorem arguments_deliver_iff (cutting : Cutting) (sql : String) (style : Paramstyle)
    (bindings : Value.Entries)
    (covered : ∀ key ∈ (cutting.restyle sql style).2, (bound? bindings key).isSome = true) :
    ∃ given, arguments style bindings (cutting.restyle sql style).2 = .ok given ∧
      ((cutting.restyle sql style).2 ≠ [] → (cutting.restyle sql style).1.toList =
        weave (gaps style [] (cutting.pieces sql)) (written style 0 (cutting.restyle sql style).2)) ∧
      (Delivers style bindings (cutting.restyle sql style).2 given ↔
        (style.takesNames = true → Unclashed bindings (cutting.restyle sql style).2)) := by
  refine ⟨_, arguments_of_covered style covered, ?_, ?_⟩
  · intro hne
    rw [Cutting.restyle_of_marked hne]
    rw [weave_gaps, String.toList_ofList, List.nil_append]
  · cases h : style.takesNames with
    | true =>
      rw [if_pos rfl, delivers_named_iff h covered]
      exact ⟨fun h _ => h, fun h => h rfl⟩
    | false =>
      rw [if_neg Bool.false_ne_true]
      exact iff_of_true (delivers_positional h covered) fun h => absurd h Bool.false_ne_true

/-- A name that stands twice and a `?` between, for a driver that takes names. -/
theorem arguments_deliver_iff_mixed :
    (∀ key ∈ (Cutting.standard.restyle "SELECT :a, ?, :a" .pyformat).2,
      (bound? [(.text "a", .text "x"), (.int 1, .text "y")] key).isSome = true) ∧
    ∃ given, arguments .pyformat [(.text "a", .text "x"), (.int 1, .text "y")]
        (Cutting.standard.restyle "SELECT :a, ?, :a" .pyformat).2 = .ok given ∧
      Delivers .pyformat [(.text "a", .text "x"), (.int 1, .text "y")]
        (Cutting.standard.restyle "SELECT :a, ?, :a" .pyformat).2 given := by
  have hkeys : (Cutting.standard.restyle "SELECT :a, ?, :a" .pyformat).2 =
      [.named "a", .positional 1, .named "a"] := by rfl
  have covered : ∀ key ∈ (Cutting.standard.restyle "SELECT :a, ?, :a" .pyformat).2,
      (bound? [(.text "a", .text "x"), (.int 1, .text "y")] key).isSome = true := by
    rw [hkeys]
    decide
  obtain ⟨given, hgiven, -, hiff⟩ := arguments_deliver_iff .standard "SELECT :a, ?, :a" .pyformat
    [(.text "a", .text "x"), (.int 1, .text "y")] covered
  refine ⟨covered, given, hgiven, hiff.mpr fun _ n _ hn => ?_⟩
  -- no name made up for a marker begins with the letter of the only written one
  rw [hkeys] at hn
  have hname : (MarkerKey.positional n).argumentName = "a" := by simpa using hn
  have hfirst := congrArg String.toList hname
  rw [MarkerKey.toList_argumentName_positional] at hfirst
  exact absurd (List.head_eq_of_cons_eq hfirst) (by decide)

/-- The value of the `?` is bound under the name that the first marker has. -/
theorem written_name_gets_other_value :
    Cutting.standard.restyle "SELECT :p1, ?" .named =
        ("SELECT :p1, :p1", [.named "p1", .positional 1]) ∧
      ∃ given, arguments .named [(.text "p1", .text "x"), (.int 1, .text "y")]
          [.named "p1", .positional 1] = .ok given ∧
        resolve? .named given 0 [':', 'p', '1'] = some (.text "y") ∧
        bound? [(.text "p1", .text "x"), (.int 1, .text "y")] (.named "p1") = some (.text "x") ∧
        ¬ Delivers .named [(.text "p1", .text "x"), (.int 1, .text "y")]
          [.named "p1", .positional 1] given := by
  refine ⟨by rfl, .named [("p1", .text "y")], rfl, rfl, rfl, fun delivers => ?_⟩
  obtain ⟨marker, hm, hr⟩ := delivers 0 (.named "p1") rfl
  cases hm
  exact absurd (Value.text.inj (Option.some.inj hr)) (by decide)

end Marker

end SqlToolkit
