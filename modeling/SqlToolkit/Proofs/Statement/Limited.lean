import SqlToolkit.Builder.Descriptor
import SqlToolkit.Proofs.Number.Numeral
import SqlToolkit.Proofs.Text.Pieces
import SqlToolkit.Statement.CountProbe

/-!
# Statements with a limit

An offset and a count with a comma between them are read back as the limit that they spell. A SELECT
is what it selects with its limit in the place that the dialect has for it, and with a limit it has
no counting form of its own, whatever the dialect.
-/

namespace SqlToolkit

open SqlToolkit.Text

/-! ## Reading a limit -/

theorem Text.trimChars_of_isDigit {chars : List Char} (h : ∀ c ∈ chars, c.isDigit = true) :
    trimChars chars = chars := by
  have hstops : ∀ digits : List Char, (∀ c ∈ digits, c.isDigit = true) → StopsAt isBlank digits :=
    fun digits hd c hc => isBlank_of_isDigit (hd c (List.mem_of_mem_head? hc))
  exact trimChars_of_stopsAt (hstops chars h)
    (hstops chars.reverse fun c hc => h c (List.mem_reverse.mp hc))

namespace Limit

theorem isDigits_toString (n : Nat) : isDigits (toString n).toList = true := by
  have hne : (toString n).toList ≠ [] := by
    rw [Nat.toString_eq_ofList_toDigits, String.toList_ofList]
    exact Nat.toDigits_ne_nil
  have hlike : ∀ c ∈ (toString n).toList, isDigitLike c = true := by
    intro c hc
    have hdecimal : isDecimal c = true := by
      rw [isDecimal, decimalValue?_of_isDigit (Numeral.isDigit_of_mem_toString hc)]
      rfl
    rw [isDigitLike, hdecimal, Bool.true_or]
  rw [isDigits, List.all_eq_true.mpr hlike, Bool.and_true, Bool.not_eq_true',
    List.isEmpty_eq_false_iff]
  exact hne

/-- An offset and a count are read as the limit that they spell, or not at all. -/
theorem parse_pair_iff {offset count : Nat} {bounds : Limit} :
    parse (.text s!"{offset},{count}") = .ok bounds ↔
      (offset < Numeral.tooLong ∧ count < Numeral.tooLong) ∧
        bounds = ⟨some offset, count⟩ := by
  have hcomma : ∀ n : Nat, ',' ∉ (toString n).toList := fun n hmem =>
    absurd (Numeral.isDigit_of_mem_toString hmem) (by decide)
  have hparts : parts s!"{offset},{count}" =
      [(toString offset).toList, (toString count).toList] := by
    have hchars : (s!"{offset},{count}").toList =
        (toString offset).toList ++ ',' :: (toString count).toList := by
      simp [String.toList_append]
      rfl
    rw [parts, hchars, splitAtChar_append (hcomma offset), splitAtChar_of_not_mem (hcomma count)]
    simp only [List.map_cons, List.map_nil]
    rw [trimChars_of_isDigit fun c hc => Numeral.isDigit_of_mem_toString hc,
      trimChars_of_isDigit fun c hc => Numeral.isDigit_of_mem_toString hc]
  have hall : [(toString offset).toList, (toString count).toList].all isDigits = true := by
    simp only [List.all_cons, List.all_nil, isDigits_toString, Bool.and_self]
  show ofParts _ (parts _) = .ok bounds ↔ _
  rw [hparts, ofParts, if_pos hall]
  unfold partValue
  rw [Numeral.natOfDigits?_toString, Numeral.natOfDigits?_toString]
  by_cases ho : offset < Numeral.tooLong
  · by_cases hc : count < Numeral.tooLong
    · rw [if_pos ho, if_pos hc]
      show (Except.ok _ : Attempt Limit) = _ ↔ _
      rw [Except.ok.injEq, eq_comm]
      exact ⟨fun h => ⟨⟨ho, hc⟩, h⟩, fun h => h.2⟩
    · rw [if_pos ho, if_neg hc]
      exact iff_of_false (fun h => by cases h) fun h => hc h.1.2
  · rw [if_neg ho]
    exact iff_of_false (fun h => by cases h) fun h => ho h.1.1

end Limit

/-! ## Writing a limit -/

namespace Statement

theorem occurs_append {α : Type} {reader : List Char → Option α} {rest : List Char}
    (before : List Char) (h : (reader rest).isSome = true) :
    occurs reader (before ++ rest) = true := by
  unfold occurs
  induction before with
  | nil =>
    cases rest with
    | nil => simpa [search] using h
    | cons c more =>
      obtain ⟨answer, ha⟩ := Option.isSome_iff_exists.mp h
      simp [search, ha]
  | cons c before ih =>
    rw [List.cons_append, search]
    split
    · rfl
    · rw [Option.isSome_map]
      exact ih

/-- A limiting word with a blank after it keeps a statement from being counted. -/
theorem preventsCount_of_limiting {before rest : List Char}
    (h : (dropLimiting? rest).isSome = true) : preventsCount (before ++ rest) = true := by
  have hregroups : (dropRegrouping? rest).isSome = true := by
    unfold dropRegrouping?
    rw [Option.isSome_or, h, Bool.true_or]
  rw [preventsCount, occurs_append before hregroups, Bool.true_or]

end Statement

/-- Every limit is written with a limiting word. -/
theorem Dialect.limitText_limits (dialect : Dialect) (bounds : Limit) :
    ∃ before rest, (dialect.limitText bounds).toList = before ++ rest ∧
      ∀ more, (Statement.dropLimiting? (rest ++ more)).isSome = true := by
  obtain ⟨offset, count⟩ := bounds
  have hlimits (word front : String) {rest : List Char} {written : String}
      (hw : written.toList = front.toList ++ (word.toList ++ ' ' :: rest))
      (hword : ∀ more, (Statement.dropLimiting? (word.toList ++ ' ' :: more)).isSome = true) :
      ∃ before rest, written.toList = before ++ rest ∧
        ∀ more, (Statement.dropLimiting? (rest ++ more)).isSome = true :=
    ⟨front.toList, _, hw, fun more => by
      rw [List.append_assoc, List.cons_append]
      exact hword (rest ++ more)⟩
  cases dialect with
  | mysql | postgresql | sqlite =>
    cases offset with
    | none =>
      exact hlimits "LIMIT" " "
        (by simp [limitText, String.toList_append]; rfl) fun _ => rfl
    | some offset =>
      exact hlimits "LIMIT" " "
        (by simp [limitText, String.toList_append]; rfl) fun _ => rfl
  | oracle =>
    cases offset with
    | none =>
      exact hlimits "NEXT" " FETCH "
        (by simp [limitText, String.toList_append]; rfl) fun _ => rfl
    | some offset =>
      exact hlimits "OFFSET" " "
        (by simp [limitText, String.toList_append]; rfl) fun _ => rfl
  | firebird =>
    cases offset with
    | none =>
      exact hlimits "FIRST" ""
        (by simp [limitText, String.toList_append]; rfl) fun _ => rfl
    | some offset =>
      exact hlimits "FIRST" ""
        (by simp [limitText, String.toList_append]; rfl) fun _ => rfl

/-- What does not count as true is short. -/
theorem Value.isWritable_of_not_truthy {value : Value} (h : value.truthy = false) :
    value.isWritable = true := by
  cases value with
  | int number =>
    obtain rfl : number = 0 := by simpa [truthy] using h
    exact (Numeral.isWritable_natCast 0).trans
      (decide_eq_true (Numeral.lt_tooLong (Nat.zero_le _) (by decide)))
  | list items | tuple items | set items =>
    cases items with
    | nil => rfl
    | cons => cases h
  | map entries =>
    cases entries with
    | nil => rfl
    | cons => cases h
  | object => cases h
  | _ => rfl

namespace Descriptor

/-- The text of a clause that is written if its setting counts as true. -/
def clauseText (keyword : String) (setting : Value) : String :=
  if setting.truthy then " " ++ keyword ++ " " ++ setting.display else ""

theorem optionalClause_eq (keyword : String) (setting : Value) :
    optionalClause keyword setting = setting.write (clauseText keyword) := by
  unfold optionalClause Value.write clauseText
  cases htruthy : setting.truthy with
  | true => rfl
  | false =>
    rw [Value.isWritable_of_not_truthy htruthy]
    rfl

def tailText (descriptor : Descriptor) : String :=
  clauseText "GROUP BY" descriptor.parameters.groupBy
    ++ clauseText "ORDER BY" descriptor.parameters.orderBy

/-- Refuses a grouping and an order that cannot be written. -/
def checkTail (descriptor : Descriptor) : Attempt Unit :=
  if descriptor.parameters.groupBy.isWritable && descriptor.parameters.orderBy.isWritable then
    .ok ()
  else .error .badValue

theorem selectTail_eq (descriptor : Descriptor) :
    descriptor.selectTail = descriptor.checkTail.map fun _ => descriptor.tailText := by
  unfold selectTail checkTail tailText
  rw [optionalClause_eq, optionalClause_eq, Value.write, Value.write]
  cases descriptor.parameters.groupBy.isWritable
  · rfl
  · cases descriptor.parameters.orderBy.isWritable <;> rfl

def selected (descriptor : Descriptor) : String :=
  descriptor.distinctText ++ descriptor.selectBody ++ descriptor.tailText

/-- A SELECT with a limit, as text, in the place of the dialect. -/
def limitedSql (descriptor : Descriptor) (dialect : Dialect) (text : String) : String :=
  match dialect.limitPosition with
  | .afterSelect => "SELECT " ++ text ++ descriptor.selected
  | .atEnd => "SELECT " ++ descriptor.selected ++ text

variable {descriptor : Descriptor} {dialect : Dialect}

theorem selectSql_eq (descriptor : Descriptor) (dialect : Dialect) :
    descriptor.selectSql dialect = do
      let text ← descriptor.limitText dialect
      descriptor.checkTail
      return descriptor.limitedSql dialect text := by
  unfold selectSql limitedSql selected
  rw [selectTail_eq]
  cases descriptor.limitText dialect with
  | error fault => rfl
  | ok text =>
    cases descriptor.checkTail with
    | error fault => rfl
    | ok _ => cases dialect.limitPosition <;> simp only [String.append_assoc] <;> rfl

/-- A SELECT whose limit can be read has the limit in the words of the dialect. -/
theorem limitText_of_parse {bounds : Limit}
    (h : Limit.parse descriptor.parameters.limit = .ok bounds) :
    descriptor.limitText dialect = .ok (dialect.limitText bounds) := by
  have hset : descriptor.parameters.limit.isUnset = false := by
    cases hlimit : descriptor.parameters.limit with
    | null => rw [hlimit] at h; cases h
    | text content =>
      cases hcontent : content.isEmpty with
      | false => exact hcontent
      | true =>
        rw [hlimit, String.isEmpty_iff.mp hcontent] at h
        cases h
    | _ => rfl
  unfold limitText Dialect.limitClause
  rw [if_neg (by rw [hset]; exact Bool.false_ne_true), h]
  rfl

theorem sql_of_select (hkind : descriptor.kind = .select) :
    descriptor.sql dialect =
      if descriptor.table.truthy then do
        let text ← descriptor.limitText dialect
        descriptor.checkTail
        return descriptor.limitedSql dialect text
      else .error (.sequence (.noTable .select)) := by
  unfold sql
  rw [hkind]
  dsimp only
  rw [selectSql_eq]
  cases descriptor.table.truthy <;> rfl

/-- A SELECT that can be written has a table, and its limit in the place of the dialect. -/
theorem sql_select_eq_ok (hkind : descriptor.kind = .select) {sql : String}
    (h : descriptor.sql dialect = .ok sql) :
    descriptor.table.truthy = true ∧
      ∃ text, descriptor.limitText dialect = .ok text ∧
        sql = descriptor.limitedSql dialect text := by
  rw [sql_of_select hkind] at h
  split at h
  · next htable =>
    cases hlimit : descriptor.limitText dialect with
    | error fault =>
      rw [hlimit] at h
      cases h
    | ok text =>
      rw [hlimit] at h
      cases htail : descriptor.checkTail with
      | error fault =>
        rw [htail] at h
        cases h
      | ok _ =>
        rw [htail] at h
        cases h
        exact ⟨htable, text, rfl, rfl⟩
  · cases h

/-- A SELECT without a limit is what it selects. -/
theorem sql_of_unlimited (hkind : descriptor.kind = .select)
    (hlimit : descriptor.parameters.limit.isUnset = true) {sql : String}
    (h : descriptor.sql dialect = .ok sql) : sql = "SELECT " ++ descriptor.selected := by
  obtain ⟨-, text, htext, rfl⟩ := sql_select_eq_ok hkind h
  unfold limitText at htext
  rw [if_pos hlimit] at htext
  cases htext
  unfold limitedSql
  cases dialect.limitPosition <;> simp

/-- A SELECT with a limit has no counting form. -/
theorem preventsCount_limitedSql (descriptor : Descriptor) (dialect : Dialect) (bounds : Limit) :
    Statement.preventsCount
      (descriptor.limitedSql dialect (dialect.limitText bounds)).toList = true := by
  obtain ⟨before, rest, htext, hlimits⟩ := dialect.limitText_limits bounds
  unfold limitedSql
  cases dialect.limitPosition with
  | afterSelect =>
    simp only [String.toList_append, htext]
    rw [← List.append_assoc, List.append_assoc]
    exact Statement.preventsCount_of_limiting (hlimits _)
  | atEnd =>
    simp only [String.toList_append, htext]
    rw [← List.append_assoc]
    exact Statement.preventsCount_of_limiting (List.append_nil rest ▸ hlimits [])

end Descriptor

end SqlToolkit
