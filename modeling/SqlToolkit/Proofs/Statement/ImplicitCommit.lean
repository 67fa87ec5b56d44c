import SqlToolkit.Proofs.Statement.LeadingKeyword
import SqlToolkit.Proofs.Text.Phrase

/-!
# Statements that the database commits

Such a statement is told by a verb somewhere in it, with one of the objects of the verb behind a
gap. A text is read word by word: behind a gap the text begins anew, so that two words that are not
neighbours make no phrase. A definition whose object does not follow its verb at once is so passed
over, unless a phrase stands in the text behind it.
-/

namespace SqlToolkit.Statement

open SqlToolkit.Text

/-! ## Verbs and their objects -/

/-- A verb that begins phrases, with the objects that may follow it. -/
structure Verb where
  name : String
  objects : List String
  /-- Whether an object has to be a whole word. -/
  whole : Bool
  deriving DecidableEq

def verbs : List Verb :=
  definitionVerbs.map (fun verb => ⟨verb.1, verb.2, true⟩) ++
    [⟨"INSTALL", ["PLUGIN"], false⟩, ⟨"LOCK", ["TABLES"], false⟩, ⟨"RENAME", ["TABLE"], false⟩,
     ⟨"TRUNCATE", ["TABLE"], false⟩, ⟨"UNINSTALL", ["PLUGIN"], false⟩]

namespace Verb

def dropObject? (verb : Verb) (chars : List Char) : Option (List Char) :=
  verb.objects.findSome? fun object =>
    (dropWord? object.toList chars).filter fun rest => !(verb.whole && startsWithWord rest)

def drop? (verb : Verb) (chars : List Char) : Option (List Char) :=
  ((dropWord? verb.name.toList chars).bind dropGap?).bind verb.dropObject?

theorem drop?_of_definition (verb : String × List String) :
    drop? ⟨verb.1, verb.2, true⟩ = dropDefinition? verb := by
  have hobject (chars : List Char) :
      dropObject? ⟨verb.1, verb.2, true⟩ chars = dropWholeWord? verb.2 chars := by
    refine congrArg (verb.2.findSome? ·) (funext fun object => ?_)
    cases dropWord? object.toList chars with
    | none => rfl
    | some rest => cases hword : startsWithWord rest <;> simp [hword]
  funext chars
  rw [drop?, funext hobject]
  rfl

theorem dropObject?_of_phrase (name object : String) (chars : List Char) :
    dropObject? ⟨name, [object], false⟩ chars = dropWord? object.toList chars := by
  unfold dropObject?
  cases hread : dropWord? object.toList chars <;> simp [hread]

theorem drop?_of_phrase (name object : String) :
    drop? ⟨name, [object], false⟩ = dropPhrase? [name, object] := by
  funext chars
  rw [drop?, funext (dropObject?_of_phrase name object), dropPhrase?_cons]
  rfl

end Verb

/-- One of the phrases stands somewhere in the characters. -/
def HasPhrase (chars : List Char) : Prop := ∃ verb ∈ verbs, occurs verb.drop? chars = true

theorem commitsImplicitly_iff_hasPhrase {sql : String} :
    commitsImplicitly sql = true ↔ HasPhrase sql.toList := by
  have hany : commitsImplicitly sql = verbs.any fun verb => occurs verb.drop? sql.toList := by
    rw [commitsImplicitly, verbs, List.any_append, List.any_map]
    simp only [committingPhrases, List.any_cons, List.any_nil, Verb.drop?_of_phrase,
      Function.comp_def, Verb.drop?_of_definition]
  rw [hany, List.any_eq_true]
  rfl

variable {verb : Verb} {word : String} {written gap rest chars tail : List Char}

/-! ## Words and gaps -/

/-- The words of the definitions below. -/
def vocabulary : List String :=
  ["ALTER", "CREATE", "DROP", "INDEX", "OR", "REPLACE", "TABLE", "TRUNCATE", "UNIQUE", "VIEW"]

/-- The word with each of its letters in one case or the other. -/
def InAnyCase (word : String) (written : List Char) : Prop := written.map Char.toUpper = word.toList

namespace InAnyCase

theorem eq (h : InAnyCase word written) : written.map Char.toUpper = word.toList := h

variable (h : InAnyCase word written) (hword : word ∈ vocabulary)

include h hword

theorem isAsciiWord_of_mem {c : Char} (hc : c ∈ written) : isAsciiWord c = true := by
  have hascii : ∀ word ∈ vocabulary, word.toList.all isAsciiWord = true := by decide
  refine isAsciiWord_of_toUpper (List.all_eq_true.mp (hascii word hword) _ ?_)
  rw [← h.eq]
  exact List.mem_map_of_mem hc

theorem sameWord : SameWord word.toList written := by
  rw [SameWord, ← h.eq, List.map_map]
  exact (List.map_congr_left fun c hc => caseKey_toUpper (h.isAsciiWord_of_mem hword hc)).symm

theorem isBlank_of_mem {c : Char} (hc : c ∈ written) : isBlank c = false :=
  isBlank_of_isAsciiWord (h.isAsciiWord_of_mem hword hc)

theorem ne_nil : written ≠ [] := by
  have hsome : ∀ word ∈ vocabulary, word.toList ≠ [] := by decide
  rintro rfl
  exact hsome word hword h.eq.symm

theorem stopsAt_isBlank (rest : List Char) : StopsAt isBlank (written ++ rest) := by
  obtain ⟨c, more, rfl⟩ := List.exists_cons_of_ne_nil (h.ne_nil hword)
  exact stopsAt_cons.mpr (h.isBlank_of_mem hword List.mem_cons_self)

theorem capitals : Capitals written word.toList := by
  rw [← h.eq]
  exact .of_ascii (h.ne_nil hword) fun c => h.isAsciiWord_of_mem hword

end InAnyCase

theorem dropGap?_append (h : IsGap gap) (rest : List Char) :
    dropGap? (gap ++ rest) = some (dropBlanks rest) := by
  obtain ⟨c, more, rfl, hc⟩ := IsRun.exists_cons h
  have hmore : ∀ d ∈ more, isBlank d = true := fun d hd => h.2 d (List.mem_cons_of_mem c hd)
  rw [List.cons_append, dropGap?, if_pos hc, dropBlanks, dropBlanks,
    List.dropWhile_append_of_pos hmore]

/-- What is read as a word of ASCII letters has no blank. -/
theorem isBlank_of_mem_sameWord {word : List Char} (h : SameWord word written)
    (hword : word.all isAsciiWord = true) {c : Char} (hc : c ∈ written) : isBlank c = false := by
  obtain ⟨want, hwant, hsame⟩ := h.exists_mem hc
  have hsolid : isBlank (caseKey want) = false := by
    refine of_isAsciiWord (P := fun want => isBlank (caseKey want) = false) (by decide) ?_
    exact List.all_eq_true.mp hword want hwant
  exact isBlank_of_caseKey_eq hsame hsolid

/-- Two texts agree up to their first gaps. -/
theorem append_gap_inj {first second gap' rest' : List Char}
    (hfirst : ∀ c ∈ first, isBlank c = false) (hsecond : ∀ c ∈ second, isBlank c = false)
    (hgap : IsGap gap) (hgap' : IsGap gap')
    (h : first ++ (gap ++ rest) = second ++ (gap' ++ rest')) :
    first = second ∧ gap ++ rest = gap' ++ rest' := by
  have hstop {gap : List Char} (h : IsGap gap) (rest : List Char) :
      StopsAt (fun c => !isBlank c) (gap ++ rest) :=
    IsRun.stopsAt h (fun c hc => by rw [hc]; rfl) rest
  have hcut := takeWhile_append_of_stopsAt
    (fun c hc => show (!isBlank c) = true by rw [hfirst c hc]; rfl) (hstop hgap rest)
  have hcut' := takeWhile_append_of_stopsAt
    (fun c hc => show (!isBlank c) = true by rw [hsecond c hc]; rfl) (hstop hgap' rest')
  rw [h] at hcut
  exact ⟨hcut.1.symm.trans hcut'.1, hcut.2.symm.trans hcut'.2⟩

/-! ## Reading on behind a word -/

theorem isAsciiWord_of_verb : ∀ verb ∈ verbs,
    verb.name.toList ≠ [] ∧ verb.name.toList.all isAsciiWord = true := by decide

/-- No verb stands in a word, unless it is the word. -/
theorem eq_of_verb_in_word : ∀ verb ∈ verbs, ∀ word ∈ vocabulary,
    ∀ passed < word.toList.length,
      verb.name.toList.map caseKey = (word.toList.drop passed).map caseKey →
        verb.name = word := by decide +kernel

/-- No object stands at the front of a word, unless it is the word. -/
theorem eq_of_object_on_word : ∀ verb ∈ verbs, ∀ object ∈ verb.objects,
    object.toList.all isAsciiWord = true ∧ ∀ word ∈ vocabulary,
      object.toList.map caseKey <+: word.toList.map caseKey → object = word := by decide +kernel

/-- What a verb can be read at in a word with a gap behind it. -/
theorem of_verb_in_word (hverb : verb ∈ verbs) (hword : word ∈ vocabulary)
    (hwritten : InAnyCase word written) (hgap : IsGap gap) {passed left after : List Char}
    (hsplit : written = passed ++ left) (hleft : left ≠ [])
    (hread : dropWord? verb.name.toList (left ++ (gap ++ rest)) = some after)
    (hbehind : (dropGap? after).isSome = true) :
    verb.name = word ∧ after = gap ++ rest := by
  obtain ⟨spelled, htext, hspelled⟩ := dropWord?_eq_some_iff.mp hread
  obtain ⟨behind, hdrop⟩ := Option.isSome_iff_exists.mp hbehind
  obtain ⟨blanks, hafter, hblanks, -⟩ := dropGap?_eq_some_iff.mp hdrop
  rw [hafter] at htext
  obtain ⟨rfl, hrest⟩ := append_gap_inj
    (fun c hc => hwritten.isBlank_of_mem hword (hsplit ▸ List.mem_append_right passed hc))
    (fun c => isBlank_of_mem_sameWord hspelled (isAsciiWord_of_verb verb hverb).2)
    hgap hblanks htext
  have hkeys : verb.name.toList.map caseKey = (word.toList.drop passed.length).map caseKey := by
    rw [List.map_drop, ← show _ = _ from hwritten.sameWord hword, hsplit, List.map_append,
      List.drop_left' (List.length_map _)]
    exact (show _ = _ from hspelled).symm
  have hlength : passed.length < word.toList.length := by
    rw [← hwritten.eq, List.length_map, hsplit, List.length_append]
    exact Nat.lt_add_of_pos_right (List.length_pos_iff.mpr hleft)
  exact ⟨eq_of_verb_in_word verb hverb word hword passed.length hlength hkeys,
    hafter.trans hrest.symm⟩

/-- A gap is no part of a verb. -/
theorem drop?_of_blank (hverb : verb ∈ verbs) {c : Char} (hc : isBlank c = true)
    (more : List Char) : verb.drop? (c :: more) = none := by
  obtain ⟨hne, hascii⟩ := isAsciiWord_of_verb verb hverb
  have hread : dropWord? verb.name.toList (c :: more) = none := by
    rw [Option.eq_none_iff_forall_ne_some]
    intro after hread
    obtain ⟨spelled, htext, hspelled⟩ := dropWord?_eq_some_iff.mp hread
    cases spelled with
    | nil => exact hne (List.map_eq_nil_iff.mp (show _ = _ from hspelled).symm)
    | cons d spelled =>
      obtain ⟨rfl, -⟩ := List.cons.inj htext
      cases hc.symm.trans (isBlank_of_mem_sameWord hspelled hascii List.mem_cons_self)
  rw [Verb.drop?, hread]
  rfl

/-- Over a word with a gap behind it a verb is looked for at the word, and then behind the gap. -/
theorem occurs_drop?_word (hverb : verb ∈ verbs) (hword : word ∈ vocabulary)
    (hwritten : InAnyCase word written) (hgap : IsGap gap) (rest : List Char) :
    occurs verb.drop? (written ++ (gap ++ rest)) = true ↔
      verb.name = word ∧ (verb.dropObject? (dropBlanks rest)).isSome = true ∨
        occurs verb.drop? rest = true := by
  have hpast : occurs verb.drop? (gap ++ rest) = occurs verb.drop? rest := by
    rw [occurs, search_past fun c hc => drop?_of_blank hverb (hgap.2 c hc), Option.isSome_map]
    rfl
  rw [← hpast]
  constructor
  · intro hoccurs
    obtain ⟨left, ⟨passed, hpassed⟩, hread⟩ := occurs_eq_true_iff.mp hoccurs
    -- the verb is read at a place in the word, or behind it
    rcases List.append_eq_append_iff.mp hpassed with ⟨inner, hinner, rfl⟩ | ⟨outer, -, hrest⟩
    · by_cases hnone : inner = []
      · rw [hnone, List.nil_append] at hread
        exact .inr (occurs_eq_true_iff.mpr ⟨_, List.suffix_rfl, hread⟩)
      · obtain ⟨answer, hanswer⟩ := Option.isSome_iff_exists.mp hread
        obtain ⟨behind, hbehind, hobject⟩ := Option.bind_eq_some_iff.mp hanswer
        obtain ⟨after, hafter, hdrop⟩ := Option.bind_eq_some_iff.mp hbehind
        obtain ⟨hsame, rfl⟩ := of_verb_in_word hverb hword hwritten hgap hinner hnone hafter
          (hdrop ▸ rfl)
        cases (dropGap?_append hgap rest).symm.trans hdrop
        exact .inl ⟨hsame, hobject ▸ rfl⟩
    · exact .inr (occurs_eq_true_iff.mpr ⟨left, ⟨outer, hrest.symm⟩, hread⟩)
  · rintro (⟨hsame, hobject⟩ | hbehind)
    · refine occurs_eq_true_iff.mpr ⟨_, List.suffix_rfl, ?_⟩
      have hread : dropWord? verb.name.toList (written ++ (gap ++ rest)) = some (gap ++ rest) :=
        dropWord?_eq_some_iff.mpr ⟨written, rfl, hsame ▸ hwritten.sameWord hword⟩
      rw [Verb.drop?, hread, Option.bind_some, dropGap?_append hgap, Option.bind_some]
      exact hobject
    · obtain ⟨left, hsuffix, hread⟩ := occurs_eq_true_iff.mp hbehind
      exact occurs_eq_true_iff.mpr ⟨left, hsuffix.trans (List.suffix_append written _), hread⟩

/-- The word is a verb, and the characters begin with one of its objects. -/
def TakesObject (word : String) (chars : List Char) : Prop :=
  ∃ verb ∈ verbs, verb.name = word ∧ (verb.dropObject? chars).isSome = true

theorem hasPhrase_word (hword : word ∈ vocabulary) (hwritten : InAnyCase word written)
    (hgap : IsGap gap) (rest : List Char) :
    HasPhrase (written ++ (gap ++ rest)) ↔ TakesObject word (dropBlanks rest) ∨ HasPhrase rest := by
  constructor
  · rintro ⟨verb, hverb, hoccurs⟩
    rcases (occurs_drop?_word hverb hword hwritten hgap rest).mp hoccurs with
      ⟨hsame, hobject⟩ | hbehind
    · exact .inl ⟨verb, hverb, hsame, hobject⟩
    · exact .inr ⟨verb, hverb, hbehind⟩
  · rintro (⟨verb, hverb, hsame, hobject⟩ | ⟨verb, hverb, hbehind⟩)
    · exact ⟨verb, hverb,
        (occurs_drop?_word hverb hword hwritten hgap rest).mpr (.inl ⟨hsame, hobject⟩)⟩
    · exact ⟨verb, hverb, (occurs_drop?_word hverb hword hwritten hgap rest).mpr (.inr hbehind)⟩

/-! ## Objects -/

theorem dropObject?_word (hverb : verb ∈ verbs) (hword : word ∈ vocabulary)
    (hwritten : InAnyCase word written) (hgap : IsGap gap) (rest : List Char) :
    (verb.dropObject? (written ++ (gap ++ rest))).isSome = true ↔ word ∈ verb.objects := by
  rw [Verb.dropObject?, List.findSome?_isSome_iff]
  constructor
  · rintro ⟨object, hobject, hread⟩
    obtain ⟨after, hafter⟩ := Option.isSome_iff_exists.mp hread
    obtain ⟨spelled, htext, hspelled⟩ :=
      dropWord?_eq_some_iff.mp (Option.filter_eq_some_iff.mp hafter).1
    obtain ⟨hascii, hprefix⟩ := eq_of_object_on_word verb hverb object hobject
    suffices hfront : spelled <+: written by
      rw [← hprefix word hword ?_]
      · exact hobject
      · rw [← show _ = _ from hspelled, ← show _ = _ from hwritten.sameWord hword]
        exact hfront.map caseKey
    rcases List.append_eq_append_iff.mp htext with ⟨beyond, hbeyond, hrest⟩ | ⟨left, hleft, -⟩
    -- the object has no blank, so it does not reach over the gap
    · cases beyond with
      | nil => exact ⟨[], by simp [hbeyond]⟩
      | cons c beyond =>
        obtain ⟨blank, more, rfl, hblank⟩ := IsRun.exists_cons hgap
        obtain ⟨rfl, -⟩ := List.cons.inj hrest
        cases hblank.symm.trans (isBlank_of_mem_sameWord hspelled hascii (hbeyond ▸ by simp))
    · exact ⟨left, hleft.symm⟩
  · intro hmem
    refine ⟨word, hmem, ?_⟩
    have hread : dropWord? word.toList (written ++ (gap ++ rest)) = some (gap ++ rest) :=
      dropWord?_eq_some_iff.mpr ⟨written, rfl, hwritten.sameWord hword⟩
    have hends : startsWithWord (gap ++ rest) = false := by
      obtain ⟨blank, more, rfl, hblank⟩ := IsRun.exists_cons hgap
      exact isWord_of_isBlank hblank
    rw [hread, Option.filter_some, hends, Bool.and_false]
    rfl

theorem takesObject_truncate :
    TakesObject "TRUNCATE" chars ↔ (dropWord? "TABLE".toList chars).isSome = true := by
  have hverbs : ∀ verb ∈ verbs, verb.name = "TRUNCATE" ↔ verb = ⟨"TRUNCATE", ["TABLE"], false⟩ := by
    decide
  constructor
  · rintro ⟨verb, hverb, hname, hobject⟩
    obtain rfl := (hverbs verb hverb).mp hname
    rwa [Verb.dropObject?_of_phrase] at hobject
  · intro hobject
    refine ⟨⟨"TRUNCATE", ["TABLE"], false⟩, by decide, rfl, ?_⟩
    rwa [Verb.dropObject?_of_phrase]

/-! ## Texts that begin with some words -/

/-- The words in any case, each with a gap behind it. -/
inductive Spaced : List String → List Char → Prop where
  | nil : Spaced [] []
  | cons {word : String} {words : List String} {written gap chars : List Char}
      (hwritten : InAnyCase word written) (hgap : IsGap gap) (hrest : Spaced words chars) :
      Spaced (word :: words) (written ++ (gap ++ chars))

/-- Words may be written in capitals, with a space behind each. -/
theorem spaced_of_vocabulary {words : List String} (h : ∀ word ∈ words, word ∈ vocabulary) :
    Spaced words (words.flatMap fun word => word.toList ++ [' ']) := by
  have hcapitals : ∀ word ∈ vocabulary, InAnyCase word word.toList := by
    unfold InAnyCase
    decide
  induction words with
  | nil => exact .nil
  | cons word words ih =>
    rw [List.flatMap_cons, List.append_assoc]
    exact .cons (hcapitals word (h word List.mem_cons_self))
      ⟨List.cons_ne_nil _ _, List.all_eq_true.mp rfl⟩
      (ih fun word hmem => h word (List.mem_cons_of_mem _ hmem))

def isPhrase (verb object : String) : Bool :=
  verbs.any fun entry => entry.name == verb && entry.objects.contains object

def hasNeighbours : List String → Bool
  | verb :: object :: more => isPhrase verb object || hasNeighbours (object :: more)
  | _ => false

theorem takesObject_word (hword : word ∈ vocabulary) (hwritten : InAnyCase word written)
    (hgap : IsGap gap) (name : String) (rest : List Char) :
    TakesObject name (written ++ (gap ++ rest)) ↔ isPhrase name word = true := by
  unfold TakesObject isPhrase
  rw [List.any_eq_true]
  refine exists_congr fun verb => and_congr_right fun hverb => ?_
  rw [dropObject?_word hverb hword hwritten hgap, Bool.and_eq_true, beq_iff_eq,
    List.contains_iff_mem]

/-- Of a text that begins with some words, a phrase stands in the words, begins with the last of
them, or stands in the text behind. -/
theorem hasPhrase_spaced {words : List String} (h : Spaced words chars)
    (hwords : ∀ word ∈ words, word ∈ vocabulary) (tail : List Char) :
    HasPhrase (chars ++ tail) ↔ hasNeighbours words = true ∨
      (∃ word ∈ words.getLast?, TakesObject word (dropBlanks tail)) ∨ HasPhrase tail := by
  induction h with
  | nil => simp [hasNeighbours]
  -- one word is read in each step, and its object is the next word or, behind the last, the tail
  | @cons word words written gap chars hwritten hgap hrest ih =>
    have hbehind := ih fun word hmem => hwords word (List.mem_cons_of_mem _ hmem)
    rw [List.append_assoc, List.append_assoc,
      hasPhrase_word (hwords word List.mem_cons_self) hwritten hgap, hbehind]
    cases hrest with
    | nil => simp [hasNeighbours]
    | @cons next words written' gap' chars hwritten' hgap' hrest =>
      have hnext := hwords next (List.mem_cons_of_mem _ List.mem_cons_self)
      rw [List.append_assoc, List.append_assoc,
        dropBlanks_of_stopsAt (hwritten'.stopsAt_isBlank hnext _),
        takesObject_word hnext hwritten' hgap', hasNeighbours, Bool.or_eq_true, or_assoc,
        List.getLast?_cons_cons]

/-! ## Definitions -/

/-- Definitions of indexes, views and tables, with the words that may be left out. -/
inductive DefinitionForm where
  | createIndex (unique : Bool)
  | createView (orReplace : Bool)
  | alterTable
  | dropTable
  | truncate (table : Bool)

namespace DefinitionForm

def words : DefinitionForm → List String
  | .createIndex false => ["CREATE", "INDEX"]
  | .createIndex true => ["CREATE", "UNIQUE", "INDEX"]
  | .createView false => ["CREATE", "VIEW"]
  | .createView true => ["CREATE", "OR", "REPLACE", "VIEW"]
  | .alterTable => ["ALTER", "TABLE"]
  | .dropTable => ["DROP", "TABLE"]
  | .truncate false => ["TRUNCATE"]
  | .truncate true => ["TRUNCATE", "TABLE"]

def isPlain : DefinitionForm → Bool
  | .createIndex unique => !unique
  | .createView orReplace => !orReplace
  | .alterTable | .dropTable => true
  | .truncate table => table

theorem mem_vocabulary (form : DefinitionForm) : ∀ word ∈ form.words, word ∈ vocabulary := by
  cases form with
  | createIndex flag | createView flag | truncate flag => cases flag <;> decide
  | alterTable | dropTable => decide

theorem hasNeighbours_words (form : DefinitionForm) :
    hasNeighbours form.words = form.isPlain := by
  cases form with
  | createIndex flag | createView flag | truncate flag => cases flag <;> decide
  | alterTable | dropTable => decide

/-- Only `TRUNCATE` is a verb that ends the words, when it is left without its object. -/
theorem takesObject_last_iff (form : DefinitionForm) (chars : List Char) :
    (∃ word ∈ form.words.getLast?, TakesObject word chars) ↔
      form = .truncate false ∧ (dropWord? "TABLE".toList chars).isSome = true := by
  have hnone {last : String} (h : last ∉ verbs.map Verb.name) (hlast : form.words.getLast? = last)
      (hform : form ≠ .truncate false) :
      (∃ word ∈ form.words.getLast?, TakesObject word chars) ↔
        form = .truncate false ∧ (dropWord? "TABLE".toList chars).isSome = true := by
    refine iff_of_false ?_ fun hboth => hform hboth.1
    rintro ⟨word, hword, verb, hverb, rfl, -⟩
    cases hlast.symm.trans (Option.mem_def.mp hword)
    exact h (List.mem_map_of_mem hverb)
  cases form with
  | createIndex flag => cases flag <;> exact @hnone "INDEX" (by decide) rfl nofun
  | createView flag => cases flag <;> exact @hnone "VIEW" (by decide) rfl nofun
  | alterTable | dropTable => exact @hnone "TABLE" (by decide) rfl nofun
  | truncate table =>
    cases table with
    | true => exact @hnone "TABLE" (by decide) rfl nofun
    | false => simp [words, takesObject_truncate]

end DefinitionForm

/-- A statement that begins with the words of a definition, and any text behind them. -/
structure Definition where
  form : DefinitionForm
  front : List Char
  tail : List Char
  spaced : Spaced form.words front

namespace Definition

variable (definition : Definition)

def sql : String := String.ofList (definition.front ++ definition.tail)

/-- The text behind takes the place of the object that `TRUNCATE` is left without. -/
def EndsAsObject : Prop :=
  definition.form = .truncate false ∧
    (dropWord? "TABLE".toList (dropBlanks definition.tail)).isSome = true

theorem commitsImplicitly_iff :
    commitsImplicitly definition.sql = true ↔ definition.form.isPlain = true ∨
      definition.EndsAsObject ∨ commitsImplicitly (String.ofList definition.tail) = true := by
  rw [commitsImplicitly_iff_hasPhrase, commitsImplicitly_iff_hasPhrase, sql, String.toList_ofList,
    String.toList_ofList, hasPhrase_spaced definition.spaced definition.form.mem_vocabulary,
    definition.form.hasNeighbours_words, definition.form.takesObject_last_iff, EndsAsObject]

/-- A definition is told by its verb, which begins no statement that returns rows. -/
theorem isRead_sql (parser : SqlParser) : parser.isRead definition.sql = false := by
  have hverb : ∀ verb ∈ definition.form.words.head?, verb ∈ vocabulary ∧ verb ∉ readKeywords ∧
      verb.toList.all Char.isAlpha = true ∧ verb.toList ≠ ['G', 'O'] := by
    cases definition.form with
    | createIndex flag | createView flag | truncate flag => cases flag <;> decide
    | alterTable | dropTable => decide
  have hwords : definition.form.words ≠ [] := by
    cases definition.form with
    | createIndex flag | createView flag | truncate flag => cases flag <;> nofun
    | alterTable | dropTable => nofun
  obtain ⟨verb, words, hform⟩ := List.exists_cons_of_ne_nil hwords
  have hspaced := definition.spaced
  rw [hform] at hverb hspaced
  obtain ⟨hword, hread, hletters, hgo⟩ := hverb verb rfl
  generalize hfront : definition.front = front at hspaced
  cases hspaced with
  | @cons _ _ written gap chars hwritten hgap hrest =>
    obtain ⟨blank, more, rfl, hblank⟩ := IsRun.exists_cons hgap
    have hsql : definition.sql.toList =
        [] ++ (written ++ blank :: (more ++ (chars ++ definition.tail))) := by
      rw [sql, String.toList_ofList, hfront]
      simp
    have hkeyword : parser.leadingKeyword definition.sql = verb := by
      rw [parser.leadingKeyword_of_gap hsql nofun (hwritten.capitals hword)
        (List.all_eq_true.mp hletters) hgo hblank, String.ofList_toList]
    rw [SqlParser.isRead, hkeyword]
    simpa using hread

end Definition

end SqlToolkit.Statement
