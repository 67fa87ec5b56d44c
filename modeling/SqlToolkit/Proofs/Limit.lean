import SqlToolkit.Proofs.Facade.Selection
import SqlToolkit.Proofs.Number.Numeral
import SqlToolkit.Proofs.Text.Pieces

/-!
# The grammar of limits

A limit is spelled by one field, or by two with a comma between them, and a field by decimal digits
with blanks around them. A text of this grammar becomes a clause with the numbers that it spells,
and any other text is refused everywhere in the same way. Between the two stand the texts that look
like numbers but are not read as such: a character that counts as a digit may have no place value,
and there may be too many digits. These are neither read nor refused as limits.
-/

namespace SqlToolkit

open SqlToolkit.Text

namespace Limit

/-! ## What a text spells -/

/-- Without the blanks around it, the field is decimal digits that spell the number. -/
structure FieldSpells (field : List Char) (n : Nat) : Prop where
  digits : IsRun isDecimal (trimChars field)
  value : n = Numeral.spelled 0 (trimChars field)

/-- The text is a count, or an offset and a count with a comma between them. -/
inductive Spells : List Char → Limit → Prop where
  | count {field : List Char} {count : Nat} (h : FieldSpells field count) :
    Spells field ⟨none, count⟩
  | window {first second : List Char} {offset count : Nat} (hfirst : FieldSpells first offset)
      (hsecond : FieldSpells second count) :
    Spells (first ++ ',' :: second) ⟨some offset, count⟩

/-- One field or two, all of them characters that count as digits. -/
structure HasDigitFields (chars : List Char) : Prop where
  count : (splitAtChar ',' chars).length = 1 ∨ (splitAtChar ',' chars).length = 2
  digits : ∀ field ∈ splitAtChar ',' chars, IsRun isDigitLike (trimChars field)

/-- Fields of digits of which one is no numeral: a digit in it has no place value, or it has too
many digits. -/
structure Unreadable (chars : List Char) : Prop extends HasDigitFields chars where
  excess : ∃ field ∈ splitAtChar ',' chars, ¬ Numeral.IsReadable (trimChars field)

theorem comma_not_mem {field : List Char} {n : Nat} (h : FieldSpells field n) : ',' ∉ field := by
  obtain ⟨before, after, hfield, hbefore, hafter⟩ := exists_trimChars field
  have hblank {blanks : List Char} (hb : ∀ c ∈ blanks, isBlank c = true) : ',' ∉ blanks :=
    fun hc => absurd (hb _ hc) (by decide)
  have hdigits : ',' ∉ trimChars field := fun hc => absurd (h.digits.2 _ hc) (by decide)
  rw [hfield]
  simp only [List.mem_append, not_or]
  exact ⟨hblank hbefore, hdigits, hblank hafter⟩

/-- What a text spells is told by its pieces. -/
theorem spells_iff {chars : List Char} {bounds : Limit} : Spells chars bounds ↔
    (∃ field count, splitAtChar ',' chars = [field] ∧ FieldSpells field count ∧
      bounds = ⟨none, count⟩) ∨
    ∃ first second offset count, splitAtChar ',' chars = [first, second] ∧
      FieldSpells first offset ∧ FieldSpells second count ∧ bounds = ⟨some offset, count⟩ := by
  constructor
  · intro h
    cases h with
    | count h => exact .inl ⟨_, _, splitAtChar_of_not_mem (comma_not_mem h), h, rfl⟩
    | window hfirst hsecond =>
      refine .inr ⟨_, _, _, _, ?_, hfirst, hsecond, rfl⟩
      rw [splitAtChar_append (comma_not_mem hfirst), splitAtChar_of_not_mem (comma_not_mem hsecond)]
  · have hwhole := intercalate_splitAtChar ',' chars
    rintro (⟨field, count, hpieces, h, rfl⟩ | ⟨first, second, offset, count, hpieces, hf, hs, rfl⟩)
    · rw [hpieces, List.intercalate_singleton] at hwhole
      exact hwhole ▸ .count h
    · rw [hpieces, List.intercalate_cons_cons, List.intercalate_singleton,
        List.append_assoc] at hwhole
      exact hwhole ▸ .window hf hs

/-- A text spells one limit at most. -/
theorem Spells.unique {chars : List Char} {bounds other : Limit} (hbounds : Spells chars bounds)
    (hother : Spells chars other) : bounds = other := by
  rcases spells_iff.mp hbounds with ⟨_, _, hpieces, h, rfl⟩ | ⟨_, _, _, _, hpieces, hf, hs, rfl⟩ <;>
    rcases spells_iff.mp hother with ⟨_, _, hsame, h', rfl⟩ | ⟨_, _, _, _, hsame, hf', hs', rfl⟩ <;>
    cases hpieces.symm.trans hsame
  · rw [h.value, h'.value]
  · rw [hf.value, hs.value, hf'.value, hs'.value]

theorem FieldSpells.isRun {field : List Char} {n : Nat} (h : FieldSpells field n) :
    IsRun isDigitLike (trimChars field) :=
  ⟨h.digits.1, fun c hc => by rw [isDigitLike, h.digits.2 c hc, Bool.true_or]⟩

/-- A field of digits that can be read spells a number. -/
theorem fieldSpells_of_isReadable {field : List Char} (h : IsRun isDigitLike (trimChars field))
    (hreadable : Numeral.IsReadable (trimChars field)) :
    FieldSpells field (Numeral.spelled 0 (trimChars field)) :=
  ⟨⟨h.1, List.all_eq_true.mp hreadable.1⟩, rfl⟩

theorem Spells.hasDigitFields {chars : List Char} {bounds : Limit} (h : Spells chars bounds) :
    HasDigitFields chars := by
  rcases spells_iff.mp h with ⟨_, _, hpieces, hfield, -⟩ | ⟨_, _, _, _, hpieces, hfirst, hsecond, -⟩
  · constructor <;> rw [hpieces]
    · exact .inl rfl
    · exact List.forall_mem_singleton.mpr hfield.isRun
  · constructor <;> rw [hpieces]
    · exact .inr rfl
    · exact List.forall_mem_cons.mpr ⟨hfirst.isRun, List.forall_mem_singleton.mpr hsecond.isRun⟩

/-! ## How a text is read -/

section Reading

variable {refused : Fault} {part other : List Char} {parts : List (List Char)}

theorem isDigits_iff : isDigits part = true ↔ IsRun isDigitLike part := by
  rw [isDigits, Bool.and_eq_true, Bool.not_eq_true', List.isEmpty_eq_false_iff, List.all_eq_true]
  rfl

theorem partValue_of_isRun (h : IsRun isDigitLike part) :
    partValue part =
      if Numeral.IsReadable part then .ok (Numeral.spelled 0 part) else .error .badValue := by
  rw [partValue, Numeral.natOfDigits?_of_isDigitLike h.1 h.2]
  by_cases hreadable : Numeral.IsReadable part
  · rw [if_pos hreadable, if_pos hreadable]
  · rw [if_neg hreadable, if_neg hreadable]

theorem ofParts_count (h : IsRun isDigitLike part) :
    ofParts refused [part] =
      if Numeral.IsReadable part then .ok ⟨none, Numeral.spelled 0 part⟩
      else .error .badValue := by
  have hall : [part].all isDigits = true := by simp [isDigits_iff.mpr h]
  rw [ofParts, if_pos hall, partValue_of_isRun h]
  split <;> rfl

theorem ofParts_window (h : IsRun isDigitLike part) (hother : IsRun isDigitLike other) :
    ofParts refused [part, other] =
      if Numeral.IsReadable part ∧ Numeral.IsReadable other then
        .ok ⟨some (Numeral.spelled 0 part), Numeral.spelled 0 other⟩
      else .error .badValue := by
  have hall : [part, other].all isDigits = true := by
    simp [isDigits_iff.mpr h, isDigits_iff.mpr hother]
  rw [ofParts, if_pos hall, partValue_of_isRun h, partValue_of_isRun hother]
  by_cases hpart : Numeral.IsReadable part
  · by_cases hlast : Numeral.IsReadable other
    · rw [if_pos hpart, if_pos hlast, if_pos ⟨hpart, hlast⟩]
      rfl
    · have hnot : ¬ (Numeral.IsReadable part ∧ Numeral.IsReadable other) :=
        fun hboth => hlast hboth.2
      rw [if_pos hpart, if_neg hlast, if_neg hnot]
      rfl
  · have hnot : ¬ (Numeral.IsReadable part ∧ Numeral.IsReadable other) := fun hboth => hpart hboth.1
    rw [if_neg hpart, if_neg hnot]
    rfl

/-- More than two parts, and parts that are not digits, are refused. -/
theorem ofParts_refused
    (h : ¬ ((parts.length = 1 ∨ parts.length = 2) ∧ ∀ part ∈ parts, IsRun isDigitLike part)) :
    ofParts refused parts = .error refused := by
  unfold ofParts
  split
  · next hall =>
    have hdigits : ∀ part ∈ parts, IsRun isDigitLike part :=
      fun part hpart => isDigits_iff.mp (List.all_eq_true.mp hall part hpart)
    split
    · exact absurd ⟨.inl rfl, hdigits⟩ h
    · exact absurd ⟨.inr rfl, hdigits⟩ h
    · rfl
  · rfl

end Reading

/-- The refusal of a text that spells no limit. -/
def refusal (spec : String) : Fault := .parameter (.badLimit (Value.shown (.text spec)))

theorem parse_text (spec : String) :
    parse (.text spec) = ofParts (refusal spec) ((splitAtChar ',' spec.toList).map trimChars) := rfl

theorem parse_of_no_digitFields {spec : String} (h : ¬ HasDigitFields spec.toList) :
    parse (.text spec) = .error (refusal spec) := by
  rw [parse_text]
  refine ofParts_refused fun hparts => h ⟨?_, fun field hfield => ?_⟩
  · simpa using hparts.1
  · exact hparts.2 _ (List.mem_map_of_mem hfield)

/-- Fields of numerals are read as the limit that they spell. -/
theorem parse_of_isReadable {spec : String} (h : HasDigitFields spec.toList)
    (hreadable : ∀ field ∈ splitAtChar ',' spec.toList, Numeral.IsReadable (trimChars field)) :
    ∃ bounds, Spells spec.toList bounds ∧ parse (.text spec) = .ok bounds := by
  have hdigits := h.digits
  rw [parse_text]
  rcases h.count with hone | htwo
  · obtain ⟨field, hpieces⟩ := List.length_eq_one_iff.mp hone
    rw [hpieces] at hdigits hreadable ⊢
    have hfield := hdigits field List.mem_cons_self
    have hread := hreadable field List.mem_cons_self
    simp only [List.map_cons, List.map_nil]
    rw [ofParts_count hfield, if_pos hread]
    have hspells := fieldSpells_of_isReadable hfield hread
    exact ⟨_, spells_iff.mpr (.inl ⟨field, _, hpieces, hspells, rfl⟩), rfl⟩
  · obtain ⟨first, second, hpieces⟩ := List.length_eq_two.mp htwo
    rw [hpieces] at hdigits hreadable ⊢
    obtain ⟨hfirst, hsecond⟩ := List.forall_mem_cons.mp hdigits
    obtain ⟨hread, hlast⟩ := List.forall_mem_cons.mp hreadable
    rw [List.forall_mem_singleton] at hsecond hlast
    simp only [List.map_cons, List.map_nil]
    rw [ofParts_window hfirst hsecond, if_pos ⟨hread, hlast⟩]
    exact ⟨_, spells_iff.mpr (.inr ⟨first, second, _, _, hpieces,
      fieldSpells_of_isReadable hfirst hread, fieldSpells_of_isReadable hsecond hlast, rfl⟩), rfl⟩

/-- What looks like a limit and cannot be read is a bad value, and not refused as a limit. -/
theorem parse_of_unreadable {spec : String} (h : Unreadable spec.toList) :
    parse (.text spec) = .error .badValue := by
  have hdigits := h.digits
  obtain ⟨field, hfield, hexcess⟩ := h.excess
  rw [parse_text]
  rcases h.count with hone | htwo
  · obtain ⟨only, hpieces⟩ := List.length_eq_one_iff.mp hone
    rw [hpieces] at hdigits hfield ⊢
    obtain rfl := List.mem_singleton.mp hfield
    simp only [List.map_cons, List.map_nil]
    rw [ofParts_count (hdigits field hfield), if_neg hexcess]
  · obtain ⟨first, second, hpieces⟩ := List.length_eq_two.mp htwo
    rw [hpieces] at hdigits hfield ⊢
    obtain ⟨hfirst, hsecond⟩ := List.forall_mem_cons.mp hdigits
    rw [List.forall_mem_singleton] at hsecond
    simp only [List.map_cons, List.map_nil]
    rw [ofParts_window hfirst hsecond, if_neg]
    rintro ⟨hread, hlast⟩
    rcases List.mem_cons.mp hfield with rfl | hfield
    · exact hexcess hread
    · exact hexcess (List.mem_singleton.mp hfield ▸ hlast)

/-- Any other text is read as the limit that it spells, or refused if it spells none. -/
theorem parse_of_not_unreadable {spec : String} (h : ¬ Unreadable spec.toList) :
    (∃ bounds, Spells spec.toList bounds ∧ parse (.text spec) = .ok bounds) ∨
      (¬ ∃ bounds, Spells spec.toList bounds) ∧ parse (.text spec) = .error (refusal spec) := by
  by_cases hfields : HasDigitFields spec.toList
  · refine .inl (parse_of_isReadable hfields fun field hfield => ?_)
    by_contra hexcess
    exact h ⟨hfields, field, hfield, hexcess⟩
  · refine .inr ⟨?_, parse_of_no_digitFields hfields⟩
    rintro ⟨bounds, hspells⟩
    exact hfields hspells.hasDigitFields

end Limit

/-! ## The places of the numbers -/

namespace Dialect

/-- The words of a limit without or with an offset, and a mark in the place of each number. -/
def limitForm : Dialect → Bool → String
  | .mysql, false | .postgresql, false | .sqlite, false => " LIMIT #"
  | .mysql, true => " LIMIT #, #"
  | .postgresql, true | .sqlite, true => " LIMIT # OFFSET #"
  | .oracle, false => " FETCH NEXT # ROWS ONLY"
  | .oracle, true => " OFFSET # ROWS FETCH NEXT # ROWS ONLY"
  | .firebird, false => "FIRST # "
  | .firebird, true => "FIRST # SKIP # "

/-- The numbers of a limit in the order in which the dialect has them. -/
def limitNumbers (dialect : Dialect) (bounds : Limit) : List Nat :=
  match dialect, bounds.offset with
  | _, none => [bounds.count]
  | .mysql, some offset | .oracle, some offset => [offset, bounds.count]
  | .postgresql, some offset | .sqlite, some offset | .firebird, some offset =>
    [bounds.count, offset]

/-- The form with numbers in the places of its marks, one after the other. -/
def filled : List Char → List Nat → List Char
  | [], _ => []
  | '#' :: rest, n :: numbers => (toString n).toList ++ filled rest numbers
  | c :: rest, numbers => c :: filled rest numbers

/-- The clause for a limit is the form of the dialect with the numbers of the limit in it. -/
theorem toList_limitText (dialect : Dialect) (bounds : Limit) :
    (dialect.limitText bounds).toList =
      filled (dialect.limitForm bounds.offset.isSome).toList (dialect.limitNumbers bounds) := by
  obtain ⟨offset, count⟩ := bounds
  cases dialect <;> cases offset <;>
    (simp [limitText, limitForm, limitNumbers, filled, String.toList_append]; rfl)

end Dialect

/-! ## Setting a limit -/

namespace Builder

variable {σ : Type} {spec : String}

/-- The text is refused as the limit of a statement, alone and among other parameters, and nothing
is set then. -/
structure RefusesLimit (builder : Builder σ) (spec : String) (fault : Fault) : Prop where
  alone : Builder.limit (.text spec) builder = .error fault builder
  among : ∀ settings entries, settingEntries settings = .ok entries →
    Entries.get? (.text "limit") entries = some (.text spec) →
    setParameters settings builder = .error fault builder

/-- The text is taken as the limit of a statement; among other parameters, only one of the others
can be refused. -/
structure TakesLimit (builder : Builder σ) (spec : String) : Prop where
  alone : (Builder.limit (.text spec)).outcome builder = .ok ()
  among : ∀ settings entries, settingEntries settings = .ok entries →
    Entries.get? (.text "limit") entries = some (.text spec) →
    (setParameters settings).outcome builder = (builder.descriptor.parameters.update entries).1

theorem checkLimit_text (h : spec ≠ "") :
    checkLimit (.text spec) = (Limit.parse (.text spec)).map fun _ => () := by
  have hset : (Value.text spec).isUnset = false := by
    show spec.isEmpty = false
    rwa [Bool.eq_false_iff, Ne, String.isEmpty_iff]
  rw [checkLimit, hset]
  rfl

theorem refusesLimit_of_parse {fault : Fault} (hne : spec ≠ "")
    (h : Limit.parse (.text spec) = .error fault) (builder : Builder σ) :
    builder.RefusesLimit spec fault := by
  have hchecked : checkLimit (.text spec) = .error fault := by rw [checkLimit_text hne, h]; rfl
  refine ⟨?_, fun settings entries hentries hlimit => ?_⟩
  · unfold Builder.limit
    rw [hchecked]
    rfl
  · exact setParameters_of_unread hentries (by rw [hlimit]; exact hchecked) builder

theorem takesLimit_of_checked (h : checkLimit (.text spec) = .ok ()) (builder : Builder σ) :
    builder.TakesLimit spec := by
  refine ⟨?_, fun settings entries hentries hlimit => ?_⟩
  · unfold Builder.limit
    rw [h]
    rfl
  · have hset := setParameters_of_checked hentries (by rw [hlimit]; exact h) builder
    rw [Action.outcome, hset]
    cases (builder.descriptor.parameters.update entries).1 <;> rfl

end Builder

/-- The grammar of limits decides what becomes of a text. It becomes a clause exactly if it spells a
limit, and the clause has the numbers of the limit in the places of the dialect; any other text is
refused as a bad limit, where it is read and where it is set for a statement. -/
structure FollowsGrammar (dialect : Dialect) (spec : String) : Prop where
  clause : ∀ clause, dialect.limitClause (.text spec) = .ok clause ↔
    ∃ bounds, Limit.Spells spec.toList bounds ∧ clause.toList =
      Dialect.filled (dialect.limitForm bounds.offset.isSome).toList (dialect.limitNumbers bounds)
  refused : (¬ ∃ bounds, Limit.Spells spec.toList bounds) →
    Limit.parse (.text spec) = .error (Limit.refusal spec) ∧
    dialect.limitClause (.text spec) = .error (Limit.refusal spec) ∧
    ∀ {σ : Type} (builder : Builder σ), builder.RefusesLimit spec (Limit.refusal spec)

section Grammar

variable {dialect : Dialect} {spec : String}

theorem limitClause_of_parse_error {fault : Fault} (h : Limit.parse (.text spec) = .error fault) :
    dialect.limitClause (.text spec) = .error fault := by
  rw [Dialect.limitClause, h]
  rfl

theorem Limit.not_spells_empty : ¬ ∃ bounds, Limit.Spells "".toList bounds := by
  rintro ⟨bounds, hspells⟩
  exact (hspells.hasDigitFields.digits [] List.mem_cons_self).1 rfl

theorem Limit.Unreadable.ne_empty (h : Limit.Unreadable spec.toList) : spec ≠ "" := by
  rintro rfl
  exact (h.digits [] List.mem_cons_self).1 rfl

/-- A text that can be read follows the grammar, unless it is empty. -/
theorem followsGrammar_of_readable (hreadable : ¬ Limit.Unreadable spec.toList) (hne : spec ≠ "") :
    FollowsGrammar dialect spec := by
  rcases Limit.parse_of_not_unreadable hreadable with ⟨bounds, hspells, hparse⟩ | ⟨hnone, hparse⟩
  · refine ⟨fun clause => ?_, fun hnone => absurd ⟨bounds, hspells⟩ hnone⟩
    rw [Dialect.limitClause, hparse]
    constructor
    · intro hclause
      cases hclause
      exact ⟨bounds, hspells, dialect.toList_limitText bounds⟩
    · rintro ⟨other, hother, hclause⟩
      obtain rfl := hspells.unique hother
      rw [← dialect.toList_limitText, String.toList_inj] at hclause
      rw [hclause]
      rfl
  · have hclause := @limitClause_of_parse_error dialect spec _ hparse
    refine ⟨fun clause => ?_, fun _ =>
      ⟨hparse, hclause, Builder.refusesLimit_of_parse hne hparse⟩⟩
    rw [hclause]
    exact iff_of_false nofun fun ⟨bounds, hspells, _⟩ => hnone ⟨bounds, hspells⟩

/-- A text that cannot be read does not follow it: if it spells a limit there should be a clause,
and if not it should be refused as a bad limit. -/
theorem not_followsGrammar_of_unreadable (h : Limit.Unreadable spec.toList) :
    ¬ FollowsGrammar dialect spec := by
  intro hfollows
  have hparse := Limit.parse_of_unreadable h
  by_cases hspells : ∃ bounds, Limit.Spells spec.toList bounds
  · obtain ⟨bounds, hspells⟩ := hspells
    have hclause := (hfollows.clause _).mpr ⟨bounds, hspells, dialect.toList_limitText bounds⟩
    cases hclause.symm.trans (limitClause_of_parse_error hparse)
  · cases hparse.symm.trans (hfollows.refused hspells).1

theorem not_followsGrammar_empty : ¬ FollowsGrammar dialect "" := by
  intro hfollows
  obtain ⟨-, -, hrefuses⟩ := hfollows.refused Limit.not_spells_empty
  cases (hrefuses ({ client := { connection := () }, dialect } : Builder Unit)).alone

end Grammar

/-- **Which texts follow the grammar of limits.** All do but for two kinds. The empty text spells no
limit, and is taken where the limit of a statement is set. A text that looks like a limit but has a
digit without a place value, or too many digits, is neither read nor refused as a bad limit: it is a
bad value, wherever it is given. -/
theorem follows_limit_grammar_iff (dialect : Dialect) (spec : String) :
    (FollowsGrammar dialect spec ↔ ¬ Limit.Unreadable spec.toList ∧ spec ≠ "") ∧
    (Limit.Unreadable spec.toList →
      Limit.parse (.text spec) = .error .badValue ∧
      dialect.limitClause (.text spec) = .error .badValue ∧
      ∀ {σ : Type} (builder : Builder σ), builder.RefusesLimit spec .badValue) ∧
    (spec = "" → ∀ {σ : Type} (builder : Builder σ), builder.TakesLimit spec) := by
  refine ⟨⟨fun hfollows => ⟨?_, ?_⟩, fun ⟨hreadable, hne⟩ =>
    followsGrammar_of_readable hreadable hne⟩, fun h => ?_, ?_⟩
  · exact fun h => not_followsGrammar_of_unreadable h hfollows
  · rintro rfl
    exact not_followsGrammar_empty hfollows
  · have hparse := Limit.parse_of_unreadable h
    exact ⟨hparse, limitClause_of_parse_error hparse,
      Builder.refusesLimit_of_parse h.ne_empty hparse⟩
  · rintro rfl _ builder
    exact Builder.takesLimit_of_checked rfl builder

/-- Digits of two scripts, with blanks around them. -/
example : (Dialect.mysql.limitClause (.text " ٤٠ , 20 ")).toOption = some " LIMIT 40, 20" := by
  decide +kernel

/-- A digit that stands above the line spells no limit, and is not refused as a bad one. -/
theorem superscript_is_no_bad_limit :
    (¬ ∃ bounds, Limit.Spells "²".toList bounds) ∧
      Limit.parse (.text "²") = .error .badValue ∧
      Dialect.mysql.limitClause (.text "²") = .error .badValue ∧
      ¬ FollowsGrammar .mysql "²" := by
  have hparse : Limit.parse (.text "²") = .error .badValue := by rfl
  have hnone : ¬ ∃ bounds, Limit.Spells "²".toList bounds := by
    rintro ⟨bounds, hspells⟩
    rcases Limit.spells_iff.mp hspells with ⟨field, _, hpieces, hfield, -⟩
      | ⟨_, _, _, _, hpieces, -⟩
    · cases hpieces
      exact absurd (hfield.digits.2 '²' (by decide)) (by decide)
    · cases hpieces
  refine ⟨hnone, hparse, limitClause_of_parse_error hparse, fun hfollows => ?_⟩
  cases hparse.symm.trans (hfollows.refused hnone).1

end SqlToolkit
