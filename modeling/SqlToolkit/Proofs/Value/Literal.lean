import SqlToolkit.Proofs.Number.Numeral
import SqlToolkit.Value.Binding

/-!
# The literals of values

Texts are written between quotes, and nothing else has a character in it that a marker begins with.
So in every literal there is a quote behind each colon and each question mark.
-/

namespace SqlToolkit

open SqlToolkit.Text

namespace Text

/-- Behind every occurrence of the character there is a quote. -/
def Enclosed (c : Char) (text : List Char) : Prop := ∀ rest, (c :: rest) <:+ text → '\'' ∈ rest

variable {c : Char} {text more : List Char}

theorem Enclosed.of_not_mem (h : c ∉ text) : Enclosed c text :=
  fun _ hsuffix => absurd (hsuffix.mem List.mem_cons_self) h

theorem Enclosed.of_suffix (h : Enclosed c text) (hsuffix : more <:+ text) : Enclosed c more :=
  fun rest hrest => h rest (hrest.trans hsuffix)

/-- What ends with a quote has one behind every other character. -/
theorem Enclosed.of_last (hne : c ≠ '\'') (text : List Char) : Enclosed c (text ++ ['\'']) := by
  intro rest hsuffix
  obtain ⟨front, hfront⟩ := hsuffix
  have hlast := congrArg List.getLast? hfront
  rw [List.getLast?_append, List.getLast?_append, List.getLast?_cons] at hlast
  cases rest with
  | nil => simp [hne] at hlast
  | cons d rest =>
    rw [List.getLast?_cons] at hlast
    have hquote : ((d :: rest).getLast?) = some '\'' := by
      rw [List.getLast?_cons]
      simpa using hlast
    exact List.mem_of_getLast? hquote

theorem Enclosed.append (h : Enclosed c text) (hmore : Enclosed c more) :
    Enclosed c (text ++ more) := by
  induction text with
  | nil => exact hmore
  | cons d text ih =>
    intro rest hsuffix
    rcases List.suffix_cons_iff.mp hsuffix with heq | hsuffix
    · obtain ⟨rfl, rfl⟩ := List.cons.inj heq
      exact List.mem_append_left _ (h text List.suffix_rfl)
    · exact ih (h.of_suffix (List.suffix_cons d text)) rest hsuffix

/-- Nothing in the text begins a marker. -/
def Markless (text : List Char) : Prop := ∀ c ∈ text, c ≠ ':' ∧ c ≠ '?'

instance (text : List Char) : Decidable (Markless text) :=
  decidable_of_iff (text.all (fun c => decide (c ≠ ':' ∧ c ≠ '?')) = true) (by simp [Markless])

theorem Markless.colon (h : Markless text) : ':' ∉ text := fun hmem => (h ':' hmem).1 rfl

theorem Markless.question (h : Markless text) : '?' ∉ text := fun hmem => (h '?' hmem).2 rfl

/-- What the passes over a statement rely on in a literal. -/
structure IsLiteral (text : List Char) : Prop where
  colon : Enclosed ':' text
  question : Enclosed '?' text
  head : ∀ c ∈ text.head?, c ≠ ':' ∧ c ≠ '?'

theorem IsLiteral.of_markless (h : Markless text) : IsLiteral text where
  colon := .of_not_mem h.colon
  question := .of_not_mem h.question
  head c hc := h c (List.mem_of_mem_head? hc)

theorem IsLiteral.comma (h : IsLiteral text) (hmore : IsLiteral more) :
    IsLiteral (text ++ ',' :: more) := by
  have hcomma {d : Char} (hd : d ≠ ',') (henclosed : Enclosed d more) : Enclosed d (',' :: more) :=
    (Enclosed.of_not_mem (mt List.mem_singleton.mp hd)).append henclosed
  refine ⟨h.colon.append (hcomma (by decide) hmore.colon),
    h.question.append (hcomma (by decide) hmore.question), fun c hc => ?_⟩
  cases text with
  | nil =>
    obtain rfl : ',' = c := by simpa using hc
    decide
  | cons d text => exact h.head c hc

end Text

namespace Value

/-- What stands for a number that is not whole: digits, letters, points and signs. -/
def IsSpelling (spelling : String) : Prop :=
  ∀ c ∈ spelling.toList, c.isAlphanum = true ∨ c ∈ ".+-".toList

/-- The values that a marker stands for: null, numbers, truth values, texts, and lists of them. -/
inductive IsPlain : Value → Prop where
  | null : IsPlain .null
  | bool (value : Bool) : IsPlain (.bool value)
  | int (value : Int) : IsPlain (.int value)
  | float {spelling : String} (h : IsSpelling spelling) : IsPlain (.float spelling)
  | text (content : String) : IsPlain (.text content)
  | list {items : List Value} (h : ∀ item ∈ items, IsPlain item) : IsPlain (.list items)

theorem isLiteral_quotedLiteral (content : String) : IsLiteral (quotedLiteral content).toList := by
  unfold quotedLiteral
  rw [String.toList_ofList]
  exact ⟨.of_last (by decide) _, .of_last (by decide) _, by simp⟩

theorem isLiteral_of_isDigit {text : List Char} (h : ∀ c ∈ text, c = '-' ∨ c.isDigit = true) :
    IsLiteral text := by
  refine .of_markless fun c hc => ?_
  rcases h c hc with rfl | hdigit
  · decide
  · constructor <;> rintro rfl <;> exact absurd hdigit (by decide)

theorem isLiteral_int (value : Int) : IsLiteral (literal (.int value)).toList := by
  cases value with
  | ofNat n => exact isLiteral_of_isDigit fun c hc => .inr (Numeral.isDigit_of_mem_toString hc)
  | negSucc n =>
    have htext : (literal (.int (.negSucc n))).toList = '-' :: (toString (n + 1)).toList :=
      String.toList_append
    rw [htext]
    refine isLiteral_of_isDigit fun c hc => ?_
    rcases List.mem_cons.mp hc with rfl | hc
    · exact .inl rfl
    · exact .inr (Numeral.isDigit_of_mem_toString hc)

theorem isLiteral_spelling {spelling : String} (h : IsSpelling spelling) :
    IsLiteral spelling.toList := by
  refine .of_markless fun c hc => ⟨?_, ?_⟩
  · rintro rfl
    exact absurd (h ':' hc) (by decide)
  · rintro rfl
    exact absurd (h '?' hc) (by decide)

theorem isLiteral_intercalate {texts : List String} (h : ∀ text ∈ texts, IsLiteral text.toList) :
    IsLiteral (",".intercalate texts).toList := by
  rw [String.toList_intercalate]
  induction texts with
  | nil => exact .of_markless fun _ hc => absurd hc List.not_mem_nil
  | cons text more ih =>
    have htext := h text List.mem_cons_self
    have hmore := ih fun other hother => h other (List.mem_cons_of_mem text hother)
    cases more with
    | nil =>
      rw [List.map_singleton, List.intercalate_singleton]
      exact htext
    | cons next more =>
      rw [List.map_cons, List.map_cons, List.intercalate_cons_cons, List.append_assoc]
      exact htext.comma hmore

theorem mem_literals {text : String} {items : List Value} (h : text ∈ literals items) :
    ∃ item ∈ items, text = item.literal := by
  induction items with
  | nil => cases h
  | cons item items ih =>
    rcases List.mem_cons.mp h with rfl | h
    · exact ⟨item, List.mem_cons_self, rfl⟩
    · obtain ⟨other, hother, htext⟩ := ih h
      exact ⟨other, List.mem_cons_of_mem item hother, htext⟩

/-- The literal of a value encloses what a marker begins with. -/
theorem isLiteral_literal {value : Value} (h : value.IsPlain) : IsLiteral value.literal.toList := by
  induction h with
  | null => exact .of_markless (by decide)
  | bool value => cases value <;> exact .of_markless (by decide)
  | int value => exact isLiteral_int value
  | float h => exact isLiteral_spelling h
  | text content => exact isLiteral_quotedLiteral content
  | list h ih =>
    refine isLiteral_intercalate fun text htext => ?_
    obtain ⟨item, hitem, rfl⟩ := mem_literals htext
    exact ih item hitem

end Value

end SqlToolkit
