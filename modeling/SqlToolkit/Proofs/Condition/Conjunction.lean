import Mathlib.Data.List.Forall2
import SqlToolkit.Condition
import SqlToolkit.Proofs.SearchCondition.Reading

/-!
# What the entries of a condition come to

Every entry that is not empty brings one text, and the texts stand with `AND` between them. So the
compiled text is true where all of the entries are; it says nothing else as long as no entry has an
`OR` outside parentheses or there is one entry only.
-/

namespace SqlToolkit.Condition

open SqlToolkit.Text SqlToolkit.SearchCondition

def entries? : Value → Option (List Entry)
  | .map entries => some entries
  | .list items | .tuple items => (items.mapM entryOf).toOption
  | _ => none

def filled (entries : List Entry) : List Entry := entries.filter fun entry => !entry.2.isEmpty

theorem filled_cons_of_isEmpty {entry : Entry} (entries : List Entry)
    (h : entry.2.isEmpty = true) : filled (entry :: entries) = filled entries :=
  List.filter_cons_of_neg (by simp [h])

theorem filled_cons_of_not_isEmpty {entry : Entry} (entries : List Entry)
    (h : ¬entry.2.isEmpty = true) : filled (entry :: entries) = entry :: filled entries :=
  List.filter_cons_of_pos (by simp [h])

/-- The text of an entry: a raw fragment, or a comparison with a placeholder for its value. -/
inductive EntryText (placeholders : List (String × Value)) : Entry → String → Prop
  | raw (index : Int) (content : String) :
      EntryText placeholders (.int index, .text content) (trim content)
  | keyed (key : String) (value : Value) {letter : Char} (hletter : letter ∈ letters)
      (hbound : (nameWith (baseOf (column key)) letter, value.formatted) ∈ placeholders) :
      EntryText placeholders (.text key, value)
        (fragment key (column key) (nameWith (baseOf (column key)) letter))

theorem EntryText.mono {placeholders more : List (String × Value)} (h : placeholders ⊆ more)
    {entry : Entry} {text : String} (ht : EntryText placeholders entry text) :
    EntryText more entry text := by
  cases ht with
  | raw index content => exact .raw index content
  | keyed key value hletter hbound => exact .keyed key value hletter (h hbound)

theorem exists_entry_of_mem {placeholders : List (String × Value)} {entries : List Entry}
    {texts : List String} (h : List.Forall₂ (EntryText placeholders) entries texts) {text : String}
    (ht : text ∈ texts) : ∃ entry ∈ entries, EntryText placeholders entry text := by
  induction h with
  | nil => cases ht
  | @cons entry _ _ _ hfirst _ ih =>
    rcases List.mem_cons.mp ht with rfl | hmem
    · exact ⟨entry, List.mem_cons_self, hfirst⟩
    · obtain ⟨other, hother, htext⟩ := ih hmem
      exact ⟨other, List.mem_cons_of_mem entry hother, htext⟩

variable {clause grown : Clause} {reserved : List String}

theorem Clause.entryText_of_addEntry {entry : Entry} {text : String}
    (h : clause.addEntry reserved entry = .ok (text, grown)) :
    EntryText grown.placeholders entry text ∧ clause.placeholders ⊆ grown.placeholders := by
  obtain ⟨key, value⟩ := entry
  unfold addEntry at h
  dsimp only at h
  split at h
  · unfold addKeyed at h
    dsimp only at h
    split at h
    · cases h
    · split at h
      · cases h
      · next name hname =>
        obtain ⟨letter, hletter, rfl⟩ := List.mem_map.mp (List.mem_of_find?_eq_some hname)
        cases h
        exact ⟨.keyed _ value hletter (List.mem_append_right _ List.mem_cons_self),
          List.subset_append_left _ _⟩
  · split at h
    · cases h
      exact ⟨.raw _ _, fun _ hm => hm⟩
    · cases h
  · exact absurd h Value.refuse_ne_ok

/-- Each entry that is not empty has its text, in order. -/
theorem Clause.entryTexts_of_addEntries {entries : List Entry} {texts : List String}
    (h : clause.addEntries reserved entries = (.ok texts, grown)) :
    List.Forall₂ (EntryText grown.placeholders) (filled entries) texts ∧
      clause.placeholders ⊆ grown.placeholders := by
  induction entries generalizing clause texts with
  | nil =>
    cases h
    exact ⟨.nil, fun _ hm => hm⟩
  | cons entry rest ih =>
    unfold addEntries at h
    split at h
    · next hempty =>
      rw [filled_cons_of_isEmpty rest hempty]
      exact ih h
    · next hempty =>
      split at h
      · cases h
      · next text added hadd =>
        obtain ⟨htext, hkeep⟩ := entryText_of_addEntry hadd
        obtain ⟨hresult, rfl⟩ := Prod.mk.inj h
        obtain ⟨more, hmore, rfl⟩ : ∃ more,
            (added.addEntries reserved rest).1 = .ok more ∧ text :: more = texts := by
          cases hr : (added.addEntries reserved rest).1 with
          | error cause =>
            rw [hr] at hresult
            cases hresult
          | ok more =>
            rw [hr] at hresult
            cases hresult
            exact ⟨more, rfl, rfl⟩
        obtain ⟨htexts, hgrow⟩ := ih (Prod.ext hmore rfl)
        rw [filled_cons_of_not_isEmpty rest hempty]
        exact ⟨.cons (htext.mono hgrow) htexts, fun _ hm => hgrow (hkeep hm)⟩

theorem Clause.entryTexts_of_compileEntries {entries : List Entry} {compiled : Clause}
    (h : clause.compileEntries reserved entries = (.ok (), compiled)) :
    ∃ texts, List.Forall₂ (EntryText compiled.placeholders) (filled entries) texts ∧
      compiled.sql = joined texts := by
  unfold compileEntries at h
  split at h
  · next texts grown hadd =>
    cases h
    exact ⟨texts, (entryTexts_of_addEntries hadd).1, rfl⟩
  · cases h

/-- The compiled text is that of the entries that are not empty. -/
theorem Clause.entryTexts_of_set {condition : Value} {entries : List Entry} {compiled : Clause}
    (hentries : entries? condition = some entries)
    (hset : clause.set condition reserved = (.ok (), compiled)) :
    ∃ texts, List.Forall₂ (EntryText compiled.placeholders) (filled entries) texts ∧
      compiled.sql = joined texts := by
  have ofItems {items : List Value} (hitems : (items.mapM entryOf).toOption = some entries)
      (h : clause.set (.list items) reserved = (.ok (), compiled)) :
      clause.retire.compileEntries reserved entries = (.ok (), compiled) := by
    cases hr : items.mapM entryOf with
    | error cause =>
      rw [hr] at hitems
      cases hitems
    | ok found =>
      rw [hr] at hitems
      cases hitems
      simp only [set, hr] at h
      exact h
  cases condition with
  | map found =>
    cases hentries
    exact entryTexts_of_compileEntries hset
  | list items => exact entryTexts_of_compileEntries (ofItems hentries hset)
  | tuple items => exact entryTexts_of_compileEntries (ofItems hentries hset)
  | _ => cases hentries

/-- The text of an entry is a condition that is grouped as the tree says. -/
def ReadsAs (atoms : Atoms) (text : String) (tree : Tree) : Prop := Reads atoms text.toList tree

theorem reads_intercalate {atoms : Atoms} {text : String} {texts : List String} {first : Tree}
    {more : List Tree} (hfirst : ReadsAs atoms text first)
    (hmore : List.Forall₂ (ReadsAs atoms) texts more) :
    ReadsAs atoms (" AND ".intercalate (text :: texts)) (first.spliceAll more) := by
  unfold ReadsAs
  rw [String.toList_intercalate]
  induction hmore generalizing text first with
  | nil => simpa [Tree.spliceAll, ReadsAs] using hfirst
  | @cons next tree texts more hnext htexts ih =>
    have hrest := ih hnext
    rw [List.map_cons, List.map_cons, List.intercalate_cons_cons, List.append_assoc]
    rw [List.map_cons] at hrest
    exact Reads.splice hfirst hrest

/-- **A compiled condition is true where all of its entries are.** Its text is the texts of the
entries that are not empty with `AND` between them, which are read as one condition. That condition
is nowhere less true than all of the entries together. It is exactly as true if there is one entry
only or no entry has an `OR` outside parentheses, and if no atom occurs twice, in no other case. -/
theorem compiled_condition_conjoins (atoms : Atoms) {condition : Value} {entries : List Entry}
    {compiled : Clause} (hentries : entries? condition = some entries)
    (hset : clause.set condition reserved = (.ok (), compiled)) :
    ∃ texts, List.Forall₂ (EntryText compiled.placeholders) (filled entries) texts ∧
      compiled.sql = joined texts ∧
      ∀ first more, List.Forall₂ (ReadsAs atoms) texts (first :: more) →
        ∃ text whole, compiled.sql = " WHERE " ++ text ∧ ReadsAs atoms text whole ∧
          (∀ value, Truth.all ((first :: more).map (Tree.truth value)) ≤ whole.truth value) ∧
          ((more = [] ∨ ∀ tree ∈ first :: more, tree.isTerm = true) →
            ∀ value, whole.truth value = Truth.all ((first :: more).map (Tree.truth value))) ∧
          (((first :: more).flatMap Tree.atoms).Nodup →
            (∀ value, whole.truth value = Truth.all ((first :: more).map (Tree.truth value))) →
            more = [] ∨ ∀ tree ∈ first :: more, tree.isTerm = true) := by
  obtain ⟨texts, htexts, hsql⟩ := Clause.entryTexts_of_set hentries hset
  refine ⟨texts, htexts, hsql, ?_⟩
  intro first more hreads
  cases hreads with
  | @cons text _ others _ hfirst hmore =>
    refine ⟨_, first.spliceAll more, hsql, reads_intercalate hfirst hmore,
      fun value => Tree.all_le_truth_spliceAll first more, ?_, ?_⟩
    · rintro (rfl | hterms) value
      · exact Truth.and_yes.symm
      · exact Tree.truth_spliceAll_of_isTerm hterms
    · intro distinct hexact
      cases more with
      | nil => exact .inl rfl
      | cons next more =>
        by_cases hor : ∃ tree ∈ first :: next :: more, tree.isTerm = false
        · obtain ⟨value, hne⟩ := Tree.exists_truth_ne distinct hor
          exact absurd (hexact value) hne
        · exact .inr fun tree hm => by simpa using fun hf => hor ⟨tree, hm, hf⟩

/-- A raw comparison and a column are required together. -/
theorem compiled_condition_conjoins_raw_and_column :
    entries? (.map [(.int 0, .text "a = 1"), (.text "c", .int 3)]) =
        some [(.int 0, .text "a = 1"), (.text "c", .int 3)] ∧
      Clause.set {} (.map [(.int 0, .text "a = 1"), (.text "c", .int 3)]) [] =
        (.ok (), { sql := " WHERE a = 1 AND c = :a_c", placeholders := [("a_c", .int 3)] }) ∧
      ∃ text whole, " WHERE a = 1 AND c = :a_c" = " WHERE " ++ text ∧ ReadsAs .plain text whole ∧
        ∀ value, whole.truth value = (value "a = 1".toList).and (value "c = :a_c".toList) := by
  have hset : Clause.set {} (.map [(.int 0, .text "a = 1"), (.text "c", .int 3)]) [] =
      (.ok (), { sql := " WHERE a = 1 AND c = :a_c", placeholders := [("a_c", .int 3)] }) := by rfl
  refine ⟨rfl, hset, ?_⟩
  obtain ⟨texts, htexts, -, hreads⟩ := compiled_condition_conjoins .plain rfl hset
  have htexts : List.Forall₂ (EntryText [("a_c", .int 3)])
      [(.int 0, .text "a = 1"), (.text "c", .int 3)] texts := htexts
  obtain ⟨⟩ | ⟨hraw, hrest⟩ := htexts
  obtain ⟨⟩ | ⟨hkeyed, ⟨⟩⟩ := hrest
  cases hraw
  cases hkeyed with
  | keyed key value hletter hbound =>
  have hname := (Prod.mk.inj (List.mem_singleton.mp hbound)).1
  rw [hname] at hreads
  have hread := hreads (.one (.one (.atom "a = 1".toList)))
    [.one (.one (.atom "c = :a_c".toList))] (.cons (by rfl) (.cons (by rfl) .nil))
  obtain ⟨text, whole, hsql, hwhole, -, hexact, -⟩ := hread
  refine ⟨text, whole, hsql, hwhole, fun value => ?_⟩
  rw [hexact (.inr (by simp [Tree.isTerm]))]
  simp only [List.map_cons, List.map_nil, Truth.all, List.foldr_cons, List.foldr_nil, Tree.truth,
    Term.truth, Factor.truth, Truth.and_yes]

/-- A row with `a = 1` passes although the entry for the column refuses it. -/
theorem raw_or_escapes_conjunction :
    Clause.set {} (.map [(.int 0, .text "a = 1 OR b = 2"), (.text "c", .int 3)]) [] =
        (.ok (), { sql := " WHERE " ++ "a = 1 OR b = 2 AND c = :a_c",
                   placeholders := [("a_c", .int 3)] }) ∧
      ∃ whole first second, ReadsAs .plain "a = 1 OR b = 2 AND c = :a_c" whole ∧
        ReadsAs .plain "a = 1 OR b = 2" first ∧ ReadsAs .plain "c = :a_c" second ∧
        ∃ value, whole.truth value = .yes ∧ (first.truth value).and (second.truth value) = .no :=
  ⟨by rfl,
    .or (.one (.atom "a = 1".toList))
      (.one (.and (.atom "b = 2".toList) (.one (.atom "c = :a_c".toList)))),
    .or (.one (.atom "a = 1".toList)) (.one (.one (.atom "b = 2".toList))),
    .one (.one (.atom "c = :a_c".toList)), by rfl, by rfl, by rfl,
    fun text => if text = "a = 1".toList then .yes else .no, by decide, by decide⟩

end SqlToolkit.Condition
