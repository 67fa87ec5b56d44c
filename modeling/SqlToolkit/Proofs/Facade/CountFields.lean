import SqlToolkit.Facade.CountFields
import SqlToolkit.Proofs.Entries
import SqlToolkit.Proofs.Text.Pieces

/-!
# The two forms of a list of counts

What is counted is given as a map from expressions to aliases, or as a text that lists the
expressions with their aliases behind `AS`. The text is cut at every comma with a space behind it,
and each piece at its first `AS`. So both forms agree just if neither a comma at the end of an
expression nor an `AS` within one is taken for the mark that stands behind it.
-/

namespace SqlToolkit.CountFields

open SqlToolkit.Text

variable {chars part rest link name : List Char}

/-! ## The word between an expression and its alias -/

/-- `AS` in any case, with a gap on both sides. -/
def IsLink (link : List Char) : Prop :=
  ∃ before word after, link = before ++ (word ++ after) ∧ IsGap before ∧
    SameWord "AS".toList word ∧ IsGap after

theorem isLink_as : IsLink " AS ".toList :=
  ⟨[' '], ['A', 'S'], [' '], by decide, IsRun.of_all (by decide) (by decide), SameWord.refl _,
    IsRun.of_all (by decide) (by decide)⟩

/-- The text is empty or goes on with a blank. -/
def OpensBlank (rest : List Char) : Prop := ∀ c ∈ rest.head?, isBlank c = true

/-- `AS` stands in the text in any case, behind a gap, and before a blank or at the end. -/
def HasAs (chars : List Char) : Prop :=
  ∃ front gap word behind, chars = front ++ (gap ++ (word ++ behind)) ∧ IsGap gap ∧
    SameWord "AS".toList word ∧ OpensBlank behind

theorem opensBlank_gap {gap : List Char} (h : IsGap gap) (rest : List Char) :
    OpensBlank (gap ++ rest) := by
  obtain ⟨c, more, rfl, hc⟩ := IsRun.exists_cons h
  intro d hd
  cases hd
  exact hc

theorem IsLink.exists_cons (h : IsLink link) : ∃ c more, link = c :: more ∧ isBlank c = true := by
  obtain ⟨before, word, after, rfl, hbefore, -, -⟩ := h
  obtain ⟨c, more, rfl, hc⟩ := IsRun.exists_cons hbefore
  exact ⟨c, more ++ (word ++ after), rfl, hc⟩

/-- A letter of the word is neither a blank nor a comma, whatever its case. -/
theorem of_mem_as {word : List Char} (h : SameWord "AS".toList word) {c : Char} (hc : c ∈ word) :
    isBlank c = false ∧ c ≠ ',' := by
  obtain ⟨letter, hletter, hkey⟩ := h.exists_mem hc
  have hletters : ∀ letter ∈ "AS".toList,
      isBlank (caseKey letter) = false ∧ caseKey letter ≠ caseKey ',' :=
    List.forall_mem_cons.mpr ⟨by decide, List.forall_mem_singleton.mpr (by decide)⟩
  obtain ⟨hblank, hcomma⟩ := hletters letter hletter
  refine ⟨isBlank_of_caseKey_eq hkey hblank, ?_⟩
  rintro rfl
  exact hcomma hkey.symm

theorem ne_comma_of_isBlank {c : Char} (h : isBlank c = true) : c ≠ ',' := by
  rintro rfl
  cases h

theorem IsLink.comma_not_mem (h : IsLink link) : ',' ∉ link := by
  obtain ⟨before, word, after, rfl, hbefore, hword, hafter⟩ := h
  intro hmem
  rcases List.mem_append.mp hmem with hmem | hmem
  · exact ne_comma_of_isBlank (hbefore.2 _ hmem) rfl
  · rcases List.mem_append.mp hmem with hmem | hmem
    · exact (of_mem_as hword hmem).2 rfl
    · exact ne_comma_of_isBlank (hafter.2 _ hmem) rfl

/-- Behind its first blank a link goes on with blanks and its word. -/
theorem IsLink.exists_word {first : Char} (h : IsLink (first :: link)) :
    ∃ blanks c more, link = blanks ++ c :: more ∧ (∀ d ∈ blanks, isBlank d = true) ∧
      isBlank c = false ∧ c ≠ ',' := by
  obtain ⟨before, word, after, hchars, hbefore, hword, -⟩ := h
  obtain ⟨c, letters, rfl, -⟩ := SameWord.exists_cons hword
  obtain ⟨blank, blanks, rfl, -⟩ := IsRun.exists_cons hbefore
  obtain ⟨-, hlink⟩ := List.cons.inj hchars
  exact ⟨blanks, c, letters ++ after, hlink, fun d hd => hbefore.2 d (List.mem_cons_of_mem _ hd),
    of_mem_as hword List.mem_cons_self⟩

theorem dropAs?_gap {gap word : List Char} (hgap : IsGap gap) (hword : SameWord "AS".toList word)
    (behind : List Char) : dropAs? (gap ++ (word ++ behind)) = dropGap? behind := by
  have hstop : StopsAt isBlank (word ++ behind) := hword.stopsAt_isBlank (by decide) behind
  have hdropGap := dropGap?_eq_some_iff.mpr ⟨gap, rfl, hgap, hstop⟩
  have hdropWord : dropWord? "AS".toList (word ++ behind) = some behind :=
    dropWord?_eq_some_iff.mpr ⟨word, rfl, hword⟩
  rw [dropAs?, hdropGap, Option.bind_some, hdropWord, Option.bind_some]

theorem dropAs?_eq_some_iff :
    dropAs? chars = some rest ↔ ∃ link, chars = link ++ rest ∧ IsLink link ∧
      StopsAt isBlank rest := by
  constructor
  · intro h
    obtain ⟨behind, hbehind, hafter⟩ := Option.bind_eq_some_iff.mp h
    obtain ⟨worded, hgap, hword⟩ := Option.bind_eq_some_iff.mp hbehind
    obtain ⟨before, rfl, hbefore, -⟩ := dropGap?_eq_some_iff.mp hgap
    obtain ⟨word, rfl, hsame⟩ := dropWord?_eq_some_iff.mp hword
    obtain ⟨after, rfl, hafter, hstop⟩ := dropGap?_eq_some_iff.mp hafter
    exact ⟨before ++ (word ++ after), by simp, ⟨before, word, after, rfl, hbefore, hsame, hafter⟩,
      hstop⟩
  · rintro ⟨link, rfl, ⟨before, word, after, rfl, hbefore, hword, hafter⟩, hstop⟩
    rw [List.append_assoc, List.append_assoc, dropAs?_gap hbefore hword]
    exact dropGap?_eq_some_iff.mpr ⟨after, rfl, hafter, hstop⟩

/-! ## Where a piece is cut -/

/-- An `AS` that is read from within an expression on stands in the expression. -/
theorem hasAs_of_dropAs? (hne : part ≠ []) (hend : StopsAt isBlank part.reverse)
    (hlink : IsLink link) (h : dropAs? (part ++ (link ++ name)) = some rest) : HasAs part := by
  obtain ⟨other, hchars, ⟨gap, word, after, rfl, hgap, hword, hafter⟩, -⟩ :=
    dropAs?_eq_some_iff.mp h
  rw [List.append_assoc, List.append_assoc] at hchars
  rcases List.append_eq_append_iff.mp hchars with ⟨more, rfl, -⟩ | ⟨worded, rfl, hworded⟩
  · -- the gap would reach over the end of the expression
    have hblank := hgap.2 _ (List.mem_append_left more (List.getLast_mem hne))
    have hlast : part.getLast hne ∈ part.reverse.head? := by
      rw [List.head?_reverse]
      exact List.getLast?_eq_some_getLast hne
    rw [hend _ hlast] at hblank
    cases hblank
  · have hstarts : ∀ behind, worded = word ++ behind → OpensBlank behind →
        HasAs (gap ++ worded) := by
      intro behind hbehind hopens
      exact ⟨[], gap, word, behind, by rw [hbehind]; rfl, hgap, hword, hopens⟩
    rcases List.append_eq_append_iff.mp hworded with
      ⟨behind, hbehind, hgoes⟩ | ⟨letters, hletters, hlinked⟩
    · refine hstarts behind hbehind fun c hc => ?_
      refine opensBlank_gap hafter rest c ?_
      rw [hgoes, List.head?_append, Option.mem_def.mp hc]
      rfl
    · cases letters with
      | nil => exact hstarts [] (by simpa using hletters.symm) (by simp [OpensBlank])
      | cons letter letters =>
        -- a letter of the word would be the blank that the link begins with
        obtain ⟨c, more, rfl, hc⟩ := hlink.exists_cons
        obtain ⟨rfl, -⟩ := List.cons.inj hlinked
        have hmem : c ∈ word := by simp [hletters]
        rw [(of_mem_as hword hmem).1] at hc
        cases hc

theorem HasAs.of_suffix {front : List Char} (h : HasAs part) (hsuffix : part <:+ front) :
    HasAs front := by
  obtain ⟨more, gap, word, behind, rfl, has⟩ := h
  obtain ⟨before, rfl⟩ := hsuffix
  exact ⟨before ++ more, gap, word, behind, by simp, has⟩

/-- An expression without an `AS` is read up to the link behind it. -/
theorem ofPart_append (hend : StopsAt isBlank part.reverse) (hlink : IsLink link)
    (hname : StopsAt isBlank name) (h : ¬ HasAs part) :
    ofPart (part ++ (link ++ name)) = ⟨String.ofList part, some (String.ofList name)⟩ := by
  have hcut : cutAt? dropAs? (part ++ (link ++ name)) = some (part, name) := by
    refine search_behind (fun front hfront hsuffix => ?_)
      (dropAs?_eq_some_iff.mpr ⟨link, rfl, hlink, hname⟩)
    rw [Option.eq_none_iff_forall_ne_some]
    intro rest hread
    have hfrontEnd : StopsAt isBlank front.reverse := hend.reverse_of_suffix hsuffix
    exact h ((hasAs_of_dropAs? hfront hfrontEnd hlink hread).of_suffix hsuffix)
  rw [ofPart, hcut]

/-- A piece is cut before a blank, if at all. -/
theorem exists_ofPart (part : List Char) :
    ∃ rest, part = (ofPart part).expression.toList ++ rest ∧ OpensBlank rest := by
  unfold ofPart
  cases hcut : cutAt? dropAs? part with
  | none => exact ⟨[], by simp, by simp [OpensBlank]⟩
  | some cut =>
    obtain ⟨expression, name⟩ := cut
    obtain ⟨rest, hpart, hread⟩ := of_search hcut
    obtain ⟨link, rfl, hlink, -⟩ := dropAs?_eq_some_iff.mp hread
    obtain ⟨c, more, rfl, hc⟩ := hlink.exists_cons
    exact ⟨c :: more ++ name, by simpa using hpart, by simpa [OpensBlank] using hc⟩

/-- An expression with an `AS` is cut before a blank of its own. -/
theorem exists_ofPart_of_hasAs (h : HasAs part) (hlink : IsLink link) (name : List Char) :
    ∃ c more, part = (ofPart (part ++ (link ++ name))).expression.toList ++ c :: more ∧
      isBlank c = true := by
  obtain ⟨front, gap, word, behind, hpart, hgap, hword, hbehind⟩ := h
  have hreads : (dropAs? (gap ++ (word ++ (behind ++ (link ++ name))))).isSome = true := by
    rw [dropAs?_gap hgap hword]
    obtain ⟨first, linked, rfl, hfirst⟩ := hlink.exists_cons
    cases behind with
    | nil => simp [dropGap?, hfirst]
    | cons c behind => simp [dropGap?, hbehind c rfl]
  obtain ⟨before, between, answer, rfl, hcut⟩ := exists_cutAt? hreads front
  obtain ⟨rest, hrest, hopens⟩ := exists_ofPart (part ++ (link ++ name))
  have hchars : part ++ (link ++ name) =
      before ++ between ++ (gap ++ (word ++ (behind ++ (link ++ name)))) := by simp [hpart]
  have hexpression : (ofPart (part ++ (link ++ name))).expression.toList = before := by
    rw [hchars, ofPart, hcut]
    exact String.toList_ofList
  rw [hexpression] at hrest ⊢
  obtain ⟨c, more, hmore⟩ : ∃ c more, between ++ (gap ++ (word ++ behind)) = c :: more :=
    List.exists_cons_of_ne_nil (by simp [hgap.1])
  have hcut' : part = before ++ c :: more := by rw [hpart, List.append_assoc, hmore]
  refine ⟨c, more, hcut', hopens c ?_⟩
  rw [hcut', List.append_assoc] at hrest
  rw [← List.append_cancel_left hrest]
  rfl

/-! ## What a text lists -/

def read (chars : List Char) : List Count :=
  (((splitAtText [',', ' '] chars.length chars).map trimChars).filter (!·.isEmpty)).map ofPart

theorem read_concat (front back : List Char) :
    read (front ++ ',' :: ' ' :: back) = read front ++ read back := by
  have hpieces := splitAtText_pair_concat (by decide : ',' ≠ ' ') front back
  dsimp only at hpieces
  simp only [read, hpieces, List.map_append, List.filter_append]

theorem read_of_absent (h : ¬ [',', ' '] <:+: chars) (hne : trimChars chars ≠ []) :
    read chars = [ofPart (trimChars chars)] := by
  simp [read, splitAtText_pair_of_absent h, hne]

theorem stopsAt_name (h : IsRun isWord name) : StopsAt isBlank name := by
  have hstop := h.stopsAt (fun _ => isBlank_of_isWord) []
  rwa [List.append_nil] at hstop

theorem comma_not_mem_name (h : IsRun isWord name) : ',' ∉ name := by
  intro hmem
  have hword := h.2 ',' hmem
  rw [show isWord ',' = false by decide +kernel] at hword
  cases hword

/-- There is nothing to trim behind an alias. -/
theorem trimChars_append_name (hfirst : StopsAt isBlank (chars ++ name))
    (h : IsRun isWord name) : trimChars (chars ++ name) = chars ++ name := by
  have hreverse : IsRun isWord name.reverse := ⟨by simpa using h.1, by simpa using h.2⟩
  refine trimChars_of_stopsAt hfirst ?_
  rw [List.reverse_append]
  exact hreverse.stopsAt (fun _ => isBlank_of_isWord) _

/-- An expression with its alias, and what stands between them in a text. -/
structure Item where
  expression : String
  link : String
  name : String

def Item.text (item : Item) : String := item.expression ++ item.link ++ item.name

def Item.count (item : Item) : Count := ⟨item.expression, some item.name⟩

/-- The expression is trimmed and has no comma before a space, the alias is a word, and `AS` stands
between them. -/
structure Item.IsPlain (item : Item) : Prop where
  ne_empty : item.expression ≠ ""
  trimmed : trim item.expression = item.expression
  no_pair : ¬ [',', ' '] <:+: item.expression.toList
  link : IsLink item.link.toList
  name : IsRun isWord item.name.toList

/-- The text is cut within the expression: at a word `AS` of its own, or at a comma that it ends
in and the space behind it. -/
def Item.IsTorn (item : Item) : Prop :=
  HasAs item.expression.toList ∨
    (item.expression.toList.getLast? = some ',' ∧ item.link.toList.head? = some ' ')

/-- Neither text goes on as the other one does when a bracket closes each. -/
def Apart (one other : List Char) : Prop :=
  ∀ more rest, one ++ ')' :: more ≠ other ++ ')' :: rest

theorem apart_of_eq_append {one other more : List Char} {c : Char} (h : other = one ++ c :: more)
    (hc : c ≠ ')') : Apart one other := by
  intro behind rest heq
  rw [h, List.append_assoc] at heq
  exact hc (List.cons.inj (List.append_cancel_left heq)).1.symm

/-- A link that is parted from its comma lists a count, and its word begins the expression. -/
theorem exists_read_parted_link (hlink : IsLink (' ' :: link)) (hname : IsRun isWord name) :
    ∃ count, read (link ++ name) = [count] ∧ Apart count.expression.toList [','] := by
  have hcomma : ',' ∉ link ++ name := by
    intro hmem
    rcases List.mem_append.mp hmem with hmem | hmem
    · exact hlink.comma_not_mem (List.mem_cons_of_mem _ hmem)
    · exact comma_not_mem_name hname hmem
  have hpair : ¬ [',', ' '] <:+: link ++ name := fun h => hcomma (h.subset List.mem_cons_self)
  obtain ⟨blanks, c, more, rfl, hblanks, hblank, hletter⟩ := hlink.exists_word
  have hstop : StopsAt isBlank (c :: more ++ name) := stopsAt_cons.mpr hblank
  have htrim : trimChars (blanks ++ c :: more ++ name) = c :: more ++ name := by
    rw [List.append_assoc, ← trimChars_dropBlanks, dropBlanks_append hblanks hstop,
      trimChars_append_name hstop hname]
  refine ⟨_, read_of_absent hpair (by rw [htrim]; exact List.cons_ne_nil _ _), ?_⟩
  rw [htrim]
  obtain ⟨rest, hpart, hopens⟩ := exists_ofPart (c :: more ++ name)
  intro one other heq
  cases hexpression : (ofPart (c :: more ++ name)).expression.toList with
  | nil =>
    rw [hexpression, List.nil_append] at hpart
    have hc := hopens c (by rw [← hpart]; rfl)
    rw [hblank] at hc
    cases hc
  | cons first behind =>
    rw [hexpression] at hpart heq
    exact hletter ((List.cons.inj hpart).1.trans (List.cons.inj heq).1)

/-- What stands before the comma that parts an expression lists a count, and the expression goes on
behind the one that is counted. -/
theorem exists_read_parted_front (hne : chars ≠ []) (hfirst : StopsAt isBlank chars)
    (h : ¬ [',', ' '] <:+: chars) :
    ∃ count, read chars = [count] ∧ Apart count.expression.toList (chars ++ [',']) := by
  obtain ⟨blanks, hchars, hblanks, -⟩ := exists_blanks_trimChars hfirst
  have htrim : trimChars chars ≠ [] := by
    intro hnil
    rw [hnil, List.nil_append] at hchars
    obtain ⟨c, more, rfl⟩ := List.exists_cons_of_ne_nil hne
    have hc := hblanks c (by rw [← hchars]; exact List.mem_cons_self)
    rw [stopsAt_cons.mp hfirst] at hc
    cases hc
  refine ⟨_, read_of_absent h htrim, ?_⟩
  obtain ⟨rest, hpart, hopens⟩ := exists_ofPart (trimChars chars)
  have hsplit : chars ++ [','] =
      (ofPart (trimChars chars)).expression.toList ++ (rest ++ (blanks ++ [','])) := by
    rw [← List.append_assoc, ← hpart, ← List.append_assoc, ← hchars]
  obtain ⟨c, more, hmore⟩ : ∃ c more, rest ++ (blanks ++ [',']) = c :: more :=
    List.exists_cons_of_ne_nil (by simp)
  refine apart_of_eq_append (hsplit.trans (congrArg _ hmore)) ?_
  have hstop : isBlank c = true ∨ c = ',' := by
    cases rest with
    | cons first rest =>
      obtain ⟨rfl, -⟩ := List.cons.inj hmore
      exact .inl (hopens first rfl)
    | nil =>
      cases blanks with
      | cons first blanks =>
        obtain ⟨rfl, -⟩ := List.cons.inj hmore
        exact .inl (hblanks first List.mem_cons_self)
      | nil => exact .inr (List.cons.inj hmore).1.symm
  rintro rfl
  rcases hstop with hc | hc <;> cases hc

namespace Item

variable {item : Item}

theorem toList_text (item : Item) :
    item.text.toList = item.expression.toList ++ (item.link.toList ++ item.name.toList) := by
  simp [text]

namespace IsPlain

variable (h : item.IsPlain)
include h

theorem ends : item.expression.toList ≠ [] ∧ StopsAt isBlank item.expression.toList ∧
    StopsAt isBlank item.expression.toList.reverse := by
  have htrimmed : trimChars item.expression.toList = item.expression.toList := by
    have htoList := congrArg String.toList h.trimmed
    rwa [trim, String.toList_ofList] at htoList
  refine ⟨fun hnil => h.ne_empty (String.toList_eq_nil_iff.mp hnil), ?_⟩
  rw [← htrimmed]
  exact stopsAt_trimChars _

theorem comma_not_mem : ',' ∉ item.link.toList ++ item.name.toList := by
  intro hmem
  rcases List.mem_append.mp hmem with hmem | hmem
  · exact h.link.comma_not_mem hmem
  · exact comma_not_mem_name h.name hmem

/-- A comma with a space behind it stands in the text only where the expression ends. -/
theorem pair_absent_text
    (hedge : ¬ (item.expression.toList.getLast? = some ',' ∧ item.link.toList.head? = some ' ')) :
    ¬ [',', ' '] <:+: item.text.toList := by
  rintro ⟨front, back, hchars⟩
  rw [toList_text, List.append_assoc] at hchars
  rcases List.append_eq_append_iff.mp hchars with ⟨more, hmore, hback⟩ | ⟨more, -, hlinked⟩
  · cases more with
    | nil =>
      rw [List.nil_append] at hback
      exact h.comma_not_mem (by simp [← hback])
    | cons c more =>
      obtain ⟨hc, hback⟩ := List.cons.inj hback
      cases more with
      | nil =>
        obtain ⟨first, linked, hlink, -⟩ := h.link.exists_cons
        rw [hlink] at hback
        obtain ⟨hspace, -⟩ := List.cons.inj hback
        exact hedge ⟨by simp [hmore, ← hc], by simp [hlink, ← hspace]⟩
      | cons d more =>
        obtain ⟨hd, -⟩ := List.cons.inj hback
        exact h.no_pair ⟨front, more, by simp [hmore, ← hc, ← hd]⟩
  · exact h.comma_not_mem (by simp [hlinked])

theorem trimChars_text : trimChars item.text.toList = item.text.toList ∧ item.text.toList ≠ [] := by
  obtain ⟨hne, hfirst, -⟩ := h.ends
  obtain ⟨c, more, hexpression⟩ := List.exists_cons_of_ne_nil hne
  rw [toList_text, ← List.append_assoc]
  refine ⟨trimChars_append_name ?_ h.name, by simp [hne]⟩
  rw [hexpression] at hfirst ⊢
  exact stopsAt_cons.mpr (stopsAt_cons.mp hfirst)

/-- The text of an item that is not torn is read as the item. -/
theorem read_text (htorn : ¬ item.IsTorn) : read item.text.toList = [item.count] := by
  obtain ⟨has, hedge⟩ := not_or.mp htorn
  obtain ⟨-, -, hend⟩ := h.ends
  obtain ⟨htrim, htext⟩ := h.trimChars_text
  rw [read_of_absent (h.pair_absent_text hedge) (by rwa [htrim]), htrim, toList_text,
    ofPart_append hend h.link (stopsAt_name h.name) has, String.ofList_toList,
    String.ofList_toList]
  rfl

/-- The first count of a torn item has another expression, even with the bracket behind it. -/
theorem exists_read_text (htorn : item.IsTorn) :
    ∃ count more, read item.text.toList = count :: more ∧
      Apart count.expression.toList item.expression.toList := by
  obtain ⟨-, hfirst, -⟩ := h.ends
  by_cases hedge : item.expression.toList.getLast? = some ',' ∧ item.link.toList.head? = some ' '
  · obtain ⟨⟨front, hfront⟩, linked, hlinked⟩ :=
      hedge.imp List.getLast?_eq_some_iff.mp List.head?_eq_some_iff.mp
    have htext : item.text.toList = front ++ ',' :: ' ' :: (linked ++ item.name.toList) := by
      rw [toList_text, hfront, hlinked]
      simp
    rw [htext, read_concat]
    have hpair : ¬ [',', ' '] <:+: front := fun hpair =>
      h.no_pair (hpair.trans ⟨[], [','], by rw [hfront]; rfl⟩)
    cases front with
    | nil =>
      obtain ⟨count, hread, hapart⟩ := exists_read_parted_link (hlinked ▸ h.link) h.name
      exact ⟨count, [], hread, by rw [hfront]; exact hapart⟩
    | cons c front =>
      have hstop : StopsAt isBlank (c :: front) := by
        rw [hfront] at hfirst
        exact stopsAt_cons.mpr (stopsAt_cons.mp hfirst)
      obtain ⟨count, hread, hapart⟩ :=
        exists_read_parted_front (List.cons_ne_nil c front) hstop hpair
      exact ⟨count, _, by rw [hread]; rfl, by rw [hfront]; exact hapart⟩
  · have has : HasAs item.expression.toList := htorn.resolve_right hedge
    obtain ⟨htrim, htext⟩ := h.trimChars_text
    obtain ⟨c, more, hexpression, hc⟩ := exists_ofPart_of_hasAs has h.link item.name.toList
    refine ⟨_, _, read_of_absent (h.pair_absent_text hedge) (by rwa [htrim]), ?_⟩
    rw [htrim, toList_text]
    refine apart_of_eq_append hexpression ?_
    rintro rfl
    cases hc

theorem read_text_ne_nil : read item.text.toList ≠ [] := by
  by_cases htorn : item.IsTorn
  · obtain ⟨count, more, hread, -⟩ := h.exists_read_text htorn
    rw [hread]
    exact List.cons_ne_nil count more
  · rw [h.read_text htorn]
    exact List.cons_ne_nil _ _

end IsPlain

end Item

/-! ## Both forms -/

/-- The counts read from listed items are those that each text is read as. -/
theorem read_intercalate (items : List Item) :
    read (", ".intercalate (items.map Item.text)).toList =
      items.flatMap fun item => read item.text.toList := by
  induction items with
  | nil => rfl
  | cons item more ih =>
    cases more with
    | nil => simp [String.intercalate_singleton]
    | cons next more =>
      rw [List.map_cons] at ih
      rw [List.map_cons, List.map_cons, String.intercalate_cons_cons, String.toList_append,
        String.toList_append, List.append_assoc, List.flatMap_cons, ← ih]
      exact read_concat _ _

/-- The statement begins with the first expression, in brackets. -/
theorem exists_toList_intercalate (count : Count) (more : List Count) :
    ∃ rest, (", ".intercalate ((count :: more).map Count.sql)).toList =
      "COUNT(".toList ++ (count.expression.toList ++ ')' :: rest) := by
  have hsql : ∃ rest, count.sql.toList =
      "COUNT(".toList ++ (count.expression.toList ++ ')' :: rest) := by
    unfold Count.sql
    cases count.alias? with
    | none => exact ⟨[], by simp [toString]⟩
    | some name => exact ⟨" AS ".toList ++ name.toList, by simp [toString]⟩
  obtain ⟨rest, hrest⟩ := hsql
  cases more with
  | nil => exact ⟨rest, by simpa [String.intercalate_singleton] using hrest⟩
  | cons next more =>
    refine ⟨rest ++ (", ".toList ++ (", ".intercalate ((next :: more).map Count.sql)).toList), ?_⟩
    rw [List.map_cons, List.map_cons, String.intercalate_cons_cons]
    simp [hrest]

theorem intercalate_cons_inj (count : Count) {one other : List Count}
    (h : one = [] ↔ other = []) :
    ", ".intercalate ((count :: one).map Count.sql) =
        ", ".intercalate ((count :: other).map Count.sql) ↔
      ", ".intercalate (one.map Count.sql) = ", ".intercalate (other.map Count.sql) := by
  cases one with
  | nil =>
    rw [h.mp rfl]
    exact iff_of_true rfl rfl
  | cons first more =>
    obtain ⟨second, rest, rfl⟩ :=
      List.exists_cons_of_ne_nil fun hnil => List.cons_ne_nil first more (h.mpr hnil)
    simp only [List.map_cons, String.intercalate_cons_cons, String.append_right_inj]

theorem intercalate_read_iff {items : List Item} (h : ∀ item ∈ items, item.IsPlain) :
    ", ".intercalate ((items.flatMap fun item => read item.text.toList).map Count.sql) =
        ", ".intercalate ((items.map Item.count).map Count.sql) ↔
      ∀ item ∈ items, ¬ item.IsTorn := by
  induction items with
  | nil => simp
  | cons item more ih =>
    obtain ⟨hitem, hmore⟩ := List.forall_mem_cons.mp h
    rw [List.forall_mem_cons, List.flatMap_cons, List.map_cons]
    by_cases htorn : item.IsTorn
    · obtain ⟨count, others, hread, hapart⟩ := hitem.exists_read_text htorn
      refine iff_of_false (fun heq => ?_) fun hnone => hnone.1 htorn
      rw [hread, List.cons_append] at heq
      obtain ⟨one, hone⟩ := exists_toList_intercalate count
        (others ++ more.flatMap fun item => read item.text.toList)
      obtain ⟨other, hother⟩ := exists_toList_intercalate item.count (more.map Item.count)
      rw [heq, hother] at hone
      exact hapart one other (List.append_cancel_left hone).symm
    · have hlisted : (more.flatMap fun item => read item.text.toList) = [] ↔
          more.map Item.count = [] := by
        cases more with
        | nil => exact iff_of_true rfl rfl
        | cons next more =>
          have hnext := (List.forall_mem_cons.mp hmore).1.read_text_ne_nil
          exact iff_of_false (by simp [hnext]) (by simp)
      rw [hitem.read_text htorn, List.singleton_append, intercalate_cons_inj _ hlisted, ih hmore,
        and_iff_right htorn]

def Item.entry (item : Item) : Value × Value := (.text item.expression, .text item.name)

/-- The text that lists plain items counts what the map of them counts just if none of them is
torn. -/
theorem forms_agree_iff {items : List Item} (hplain : ∀ item ∈ items, item.IsPlain)
    (hdistinct : (items.map Item.expression).Nodup) :
    sql (.text (", ".intercalate (items.map Item.text))) =
        sql (.map (Entries.ofList (items.map Item.entry))) ↔
      ∀ item ∈ items, ¬ item.IsTorn := by
  have hkeys : Entries.keys (items.map Item.entry) =
      (items.map Item.expression).map Value.text := by
    simp [Entries.keys, Item.entry]
  have htext : ofValue (.text (", ".intercalate (items.map Item.text))) =
      items.flatMap fun item => read item.text.toList := read_intercalate items
  have hmap : ofValue (.map (items.map Item.entry)) = items.map Item.count := by
    rw [ofValue, List.map_map]
    rfl
  rw [Entries.ofList_of_texts hkeys hdistinct, sql, sql, htext, hmap]
  exact intercalate_read_iff hplain

/-- Neither another case of the word nor more blanks around it tear an item. -/
theorem forms_agree_two_links :
    let items : List Item := [⟨"DISTINCT email", " as\t ", "emails"⟩, ⟨"*", " AS ", "total"⟩]
    (∀ item ∈ items, item.IsPlain) ∧ (items.map Item.expression).Nodup ∧
      sql (.text (", ".intercalate (items.map Item.text))) =
        sql (.map (Entries.ofList (items.map Item.entry))) ∧
      ∀ item ∈ items, ¬ item.IsTorn := by
  intro items
  have hsmall : IsLink " as\t ".toList :=
    ⟨[' '], ['a', 's'], ['\t', ' '], by decide, IsRun.of_all (by decide) (by decide),
      by unfold SameWord; decide, IsRun.of_all (by decide) (by decide)⟩
  have hplain : ∀ item ∈ items, item.IsPlain :=
    List.forall_mem_cons.mpr
      ⟨⟨by decide, by decide +kernel, by decide +kernel, hsmall,
          IsRun.of_all (by decide) (by decide +kernel)⟩,
        List.forall_mem_singleton.mpr ⟨by decide, by decide +kernel, by decide +kernel, isLink_as,
          IsRun.of_all (by decide) (by decide +kernel)⟩⟩
  have hdistinct : (items.map Item.expression).Nodup := by decide
  have hagree : sql (.text (", ".intercalate (items.map Item.text))) =
      sql (.map (Entries.ofList (items.map Item.entry))) := by decide +kernel
  exact ⟨hplain, hdistinct, hagree, (forms_agree_iff hplain hdistinct).mp hagree⟩

/-- A cast is cut at its own `AS`. -/
theorem cast_is_torn :
    let item : Item := ⟨"CAST(x AS int)", " AS ", "n"⟩
    item.IsPlain ∧
      sql (.text (", ".intercalate ([item].map Item.text))) = "COUNT(CAST(x) AS int) AS n" ∧
      sql (.map (Entries.ofList ([item].map Item.entry))) = "COUNT(CAST(x AS int)) AS n" := by
  intro item
  exact ⟨⟨by decide, by decide +kernel, by decide +kernel, isLink_as,
    IsRun.of_all (by decide) (by decide +kernel)⟩, by decide +kernel, by decide +kernel⟩

end SqlToolkit.CountFields
