import SqlToolkit.Proofs.Pages.PageParameter

/-!
# Taking the page out of a query

A query is a list of parameters with separators between them. Three passes take the page parameter
out of it: one where it is the first of several, one where it is the first, and one where it comes
later. The second pass does not know what the first one did, and none of them looks at what follows
the digits. So every other parameter is kept as it is just if none of them begins like a page
parameter, and the query does not begin with two page parameters before another one.
-/

namespace SqlToolkit.PageLinks

open SqlToolkit.Text

/-! ## Queries -/

/-- What stands between two parameters: an ampersand, plain or written out. -/
inductive Separator where
  | plain
  | escaped

def Separator.text : Separator → List Char
  | .plain => ['&']
  | .escaped => "&amp;".toList

/-- Characters that no parameter has. -/
def parameterEnds : List Char := ['&', '?', ';', '#']

structure Parameter where
  text : List Char
  plain : '&' ∉ text ∧ '?' ∉ text ∧ ';' ∉ text ∧ '#' ∉ text

theorem Parameter.not_mem (parameter : Parameter) {c : Char} (h : c ∈ parameterEnds) :
    c ∉ parameter.text := by
  obtain ⟨hamp, hquestion, hsemicolon, hhash⟩ := parameter.plain
  simp only [parameterEnds, List.mem_cons, List.not_mem_nil, or_false] at h
  obtain rfl | rfl | rfl | rfl := h <;> assumption

theorem Parameter.forall_ne (parameter : Parameter) {stop : Char} (h : stop ∈ parameterEnds) :
    ∀ c ∈ parameter.text, c ≠ stop := by
  rintro c hc rfl
  exact parameter.not_mem h hc

/-- The parameters behind the first one, each with the separator before it. -/
def laterText (later : List (Separator × Parameter)) : List Char :=
  later.flatMap fun entry => entry.1.text ++ entry.2.text

theorem laterText_cons (separator : Separator) (parameter : Parameter)
    (later : List (Separator × Parameter)) :
    laterText ((separator, parameter) :: later) =
      separator.text ++ (parameter.text ++ laterText later) := by
  simp [laterText]

theorem question_not_mem_separator (separator : Separator) : '?' ∉ separator.text := by
  cases separator <;> decide

/-- A separator begins with its only ampersand. -/
theorem Separator.exists_text (separator : Separator) :
    ∃ tail, separator.text = '&' :: tail ∧ ∀ c ∈ tail, c ≠ '&' := by
  cases separator with
  | plain => exact ⟨[], rfl, by simp⟩
  | escaped => exact ⟨"amp;".toList, rfl, by simp⟩

theorem laterText_opensWith (later : List (Separator × Parameter)) :
    OpensWith '&' (laterText later) := by
  cases later with
  | nil => exact opensWith_nil
  | cons entry later =>
    obtain ⟨separator, parameter⟩ := entry
    rw [laterText_cons]
    cases separator <;> exact opensWith_cons

theorem question_not_mem_laterText (later : List (Separator × Parameter)) :
    '?' ∉ laterText later := by
  intro hmem
  obtain ⟨⟨separator, parameter⟩, -, hentry⟩ := List.mem_flatMap.mp hmem
  rcases List.mem_append.mp hentry with hseparator | hparameter
  · exact question_not_mem_separator separator hseparator
  · exact parameter.not_mem (by decide) hparameter

structure QueryUrl where
  path : List Char
  path_plain : '?' ∉ path ∧ '&' ∉ path
  first : Parameter
  later : List (Separator × Parameter)

namespace QueryUrl

def text (url : QueryUrl) : List Char :=
  url.path ++ '?' :: (url.first.text ++ laterText url.later)

def parameters (url : QueryUrl) : List Parameter := url.first :: url.later.map Prod.snd

/-- A path with parameters. The first of them stands behind the question mark, whatever separator
it had; without parameters there is no question mark. -/
def written (path : List Char) : List (Separator × Parameter) → List Char
  | [] => path
  | (_, first) :: later => path ++ '?' :: (first.text ++ laterText later)

def others (name : List Char) (later : List (Separator × Parameter)) :
    List (Separator × Parameter) :=
  later.filter fun entry => decide (¬ IsPage name entry.2.text)

/-- The URL without its page parameters. All else is as it was. -/
def without (url : QueryUrl) (name : List Char) : List Char :=
  written url.path (others name ((.plain, url.first) :: url.later))

/-- The query begins with two page parameters, and not only with those. -/
def HidesPage (name : List Char) : List Parameter → Prop
  | first :: second :: rest =>
    IsPage name first.text ∧ IsPage name second.text ∧ ∃ other ∈ rest, ¬ IsPage name other.text
  | _ => False

instance (name : List Char) : (parameters : List Parameter) → Decidable (HidesPage name parameters)
  | [] | [_] => inferInstanceAs (Decidable False)
  | first :: second :: rest =>
    inferInstanceAs (Decidable (IsPage name first.text ∧ IsPage name second.text ∧
      ∃ other ∈ rest, ¬ IsPage name other.text))

end QueryUrl

open QueryUrl

/-! ## Reading a parameter among others -/

section Readers

variable {name : List Char} (hname : IsLetters name)

include hname in
/-- A parameter is read alone, whatever comes behind it. -/
theorem dropPage?_parameter (parameter : Parameter) (later : List (Separator × Parameter)) :
    dropPage? name (parameter.text ++ laterText later) =
      (dropPage? name parameter.text).map (· ++ laterText later) :=
  (dropPage?_ampersand hname).append (laterText_opensWith later) _

theorem dropText?_amp_parameter (parameter : Parameter) (later : List (Separator × Parameter)) :
    dropText? "amp;".toList (parameter.text ++ laterText later) = none := by
  rw [(dropText?_haltsAt (by decide)).append (laterText_opensWith later), Option.map_eq_none_iff,
    Option.eq_none_iff_forall_ne_some]
  intro rest hrest
  have hmem : ';' ∈ parameter.text := dropText?_eq_some_iff.mp hrest ▸ by simp
  exact parameter.not_mem (by decide) hmem

include hname in
theorem dropLater?_separator (separator : Separator) (parameter : Parameter)
    (later : List (Separator × Parameter)) :
    dropLater? name (separator.text ++ (parameter.text ++ laterText later)) =
      (dropPage? name parameter.text).map (· ++ laterText later) := by
  rw [← dropPage?_parameter hname]
  cases separator with
  | plain => exact dropLater?_plain (dropText?_amp_parameter parameter later)
  | escaped => exact dropLater?_escaped hname _

theorem dropAmp_separator (separator : Separator) (parameter : Parameter)
    (later : List (Separator × Parameter)) {behind : List Char}
    (h : separator.text ++ (parameter.text ++ laterText later) = '&' :: behind) :
    dropAmp behind = parameter.text ++ laterText later := by
  cases separator with
  | plain =>
    have hbehind : behind = parameter.text ++ laterText later := (List.cons.inj h).2.symm
    rw [dropAmp, hbehind, dropText?_amp_parameter]
    rfl
  | escaped =>
    have hbehind : behind = "amp;".toList ++ (parameter.text ++ laterText later) :=
      (List.cons.inj h).2.symm
    rw [dropAmp, hbehind, dropText?_eq_some_iff.mpr rfl]
    rfl

end Readers

/-! ## The passes -/

section Passes

variable {name path : List Char} (hname : IsLetters name)
  (hpath : ∀ c ∈ path, c ≠ '?') {first : Parameter}
  {later : List (Separator × Parameter)}

/-- The first pass. -/
def withoutFirstOfMany (name url : List Char) : List Char :=
  substitute (replacing ['?'] (dropFirstOfMany? name)) 0 url

def withoutFirst (name url : List Char) : List Char :=
  substitute (replacing [] (dropFirst? name)) 0 url

def withoutLater (name url : List Char) : List Char :=
  substitute (replacing [] (dropLater? name)) 0 url

theorem stripPage_query (name : String) (url : List Char) :
    stripPage (.query name) url =
      withoutLater name.toList (withoutFirst name.toList (withoutFirstOfMany name.toList url)) :=
  rfl

/-- No question mark stands among the parameters. -/
theorem ne_question_of_mem {c : Char} (hc : c ∈ first.text ++ laterText later) : c ≠ '?' := by
  rcases List.mem_append.mp hc with hfirst | hlater
  · exact first.forall_ne (by decide) c hfirst
  · rintro rfl
    exact question_not_mem_laterText later hlater

include hname hpath in
/-- Where another parameter follows, a page parameter at the front makes room for it. -/
theorem withoutFirstOfMany_page (hpage : IsPage name first.text) (separator : Separator)
    (second : Parameter) :
    withoutFirstOfMany name
        (path ++ '?' :: (first.text ++ laterText ((separator, second) :: later))) =
      path ++ '?' :: (second.text ++ laterText later) := by
  have hreads : dropFirstOfMany? name
      ('?' :: (first.text ++ laterText ((separator, second) :: later))) =
        some (second.text ++ laterText later) := by
    rw [dropFirstOfMany?_eq, dropFirst?_question, dropPage?_parameter hname, isPage_iff.mp hpage,
      laterText_cons]
    obtain ⟨behind, hbehind⟩ : ∃ behind,
        separator.text ++ (second.text ++ laterText later) = '&' :: behind := by
      cases separator <;> exact ⟨_, rfl⟩
    rw [Option.map_some, List.nil_append, Option.bind_some, hbehind,
      ← dropAmp_separator separator second later hbehind]
    rfl
  have hrest : Nowhere (dropFirstOfMany? name) (second.text ++ laterText later) :=
    nowhere_of_forall_cons fun _ hc more => dropFirstOfMany?_of_ne (ne_question_of_mem hc) more
  unfold withoutFirstOfMany
  rw [substitute_past fun c hc more => dropFirstOfMany?_of_ne (hpath c hc) more,
    substitute_of_reads dropFirstOfMany?_shortens hreads, substitute_of_nowhere hrest]
  rfl

include hname hpath in
theorem withoutFirstOfMany_other (h : IsPage name first.text → later = []) :
    withoutFirstOfMany name (path ++ '?' :: (first.text ++ laterText later)) =
      path ++ '?' :: (first.text ++ laterText later) := by
  have hfails : dropFirstOfMany? name ('?' :: (first.text ++ laterText later)) = none := by
    rw [dropFirstOfMany?_eq, dropFirst?_question, dropPage?_parameter hname,
      Option.map_eq_none_iff]
    cases hread : dropPage? name first.text with
    | none => rfl
    | some left =>
      cases left with
      | nil =>
        rw [h (isPage_iff.mpr hread)]
        rfl
      | cons c left =>
        have hamp : '&' ≠ c := by
          rintro rfl
          obtain ⟨digits, htext, -⟩ := dropPage?_eq_some_iff.mp hread
          have hmem : '&' ∈ first.text := htext ▸ by simp
          exact first.not_mem (by decide) hmem
        simp [dropText?, hamp]
  have hrest : Nowhere (dropFirstOfMany? name) ('?' :: (first.text ++ laterText later)) :=
    nowhere_cons.mpr ⟨hfails, nowhere_of_forall_cons fun _ hc more =>
      dropFirstOfMany?_of_ne (ne_question_of_mem hc) more⟩
  unfold withoutFirstOfMany
  rw [substitute_past fun c hc more => dropFirstOfMany?_of_ne (hpath c hc) more,
    substitute_of_nowhere hrest]

include hname hpath in
/-- A page parameter at the front goes with its question mark, and so do the first characters of one
that begins like it. -/
theorem withoutFirst_page {left : List Char} (hread : dropPage? name first.text = some left) :
    withoutFirst name (path ++ '?' :: (first.text ++ laterText later)) =
      path ++ (left ++ laterText later) := by
  have hreads : dropFirst? name ('?' :: (first.text ++ laterText later)) =
      some (left ++ laterText later) := by
    rw [dropFirst?_question, dropPage?_parameter hname, hread, Option.map_some]
  have hrest : Nowhere (dropFirst? name) (left ++ laterText later) := by
    refine nowhere_of_forall_cons fun c hc more => dropFirst?_of_ne ?_ more
    obtain ⟨digits, htext, -⟩ := dropPage?_eq_some_iff.mp hread
    have hall : c ∈ first.text ++ laterText later := by
      rw [htext]
      rcases List.mem_append.mp hc with hleft | hlater
      · simp [hleft]
      · exact List.mem_append_right _ hlater
    exact ne_question_of_mem hall
  unfold withoutFirst
  rw [substitute_past fun c hc more => dropFirst?_of_ne (hpath c hc) more,
    substitute_of_reads dropFirst?_shortens hreads, substitute_of_nowhere hrest]
  rfl

include hname hpath in
theorem withoutFirst_other (hread : dropPage? name first.text = none) :
    withoutFirst name (path ++ '?' :: (first.text ++ laterText later)) =
      path ++ '?' :: (first.text ++ laterText later) := by
  have hfails : dropFirst? name ('?' :: (first.text ++ laterText later)) = none := by
    rw [dropFirst?_question, dropPage?_parameter hname, hread, Option.map_none]
  have hrest : Nowhere (dropFirst? name) ('?' :: (first.text ++ laterText later)) :=
    nowhere_cons.mpr ⟨hfails, nowhere_of_forall_cons fun _ hc more =>
      dropFirst?_of_ne (ne_question_of_mem hc) more⟩
  unfold withoutFirst
  rw [substitute_past fun c hc more => dropFirst?_of_ne (hpath c hc) more,
    substitute_of_nowhere hrest]

/-- What the parameters behind the first one become: nothing is left of a page parameter, and of one
that begins like it what follows the digits. -/
def cleaned (name : List Char) (later : List (Separator × Parameter)) : List Char :=
  later.flatMap fun entry => (dropPage? name entry.2.text).getD (entry.1.text ++ entry.2.text)

theorem cleaned_cons_of_read {separator : Separator} {parameter : Parameter} {left : List Char}
    (h : dropPage? name parameter.text = some left) :
    cleaned name ((separator, parameter) :: later) = left ++ cleaned name later := by
  simp [cleaned, h]

theorem cleaned_cons_of_none {separator : Separator} {parameter : Parameter}
    (h : dropPage? name parameter.text = none) :
    cleaned name ((separator, parameter) :: later) =
      separator.text ++ parameter.text ++ cleaned name later := by
  simp [cleaned, h]

include hname in
/-- Behind a text without separators, every parameter is looked at by itself. -/
theorem withoutLater_eq {front : List Char} (hfront : ∀ c ∈ front, c ≠ '&')
    (later : List (Separator × Parameter)) :
    withoutLater name (front ++ laterText later) = front ++ cleaned name later := by
  unfold withoutLater
  induction later generalizing front with
  | nil =>
    rw [substitute_past fun c hc more => dropLater?_of_ne (hfront c hc) more]
    rfl
  | cons entry later ih =>
    obtain ⟨separator, parameter⟩ := entry
    have hparameter : ∀ c ∈ parameter.text, c ≠ '&' := parameter.forall_ne (by decide)
    have hread := dropLater?_separator hname separator parameter later
    rw [substitute_past fun c hc more => dropLater?_of_ne (hfront c hc) more, laterText_cons]
    congr 1
    cases hpage : dropPage? name parameter.text with
    | some left =>
      rw [hpage] at hread
      obtain ⟨digits, htext, -⟩ := dropPage?_eq_some_iff.mp hpage
      rw [substitute_of_reads dropLater?_shortens hread, cleaned_cons_of_read hpage, List.nil_append]
      exact ih fun c hc => hparameter c (htext ▸ by simp [hc])
    | none =>
      rw [hpage] at hread
      obtain ⟨tail, hseparator, htail⟩ := separator.exists_text
      rw [hseparator, List.cons_append] at hread
      rw [cleaned_cons_of_none hpage, hseparator, List.cons_append, substitute_of_none hread,
        ← List.append_assoc, ih]
      · simp
      · intro c hc
        rcases List.mem_append.mp hc with hc | hc
        · exact htail c hc
        · exact hparameter c hc

end Passes

/-! ## What is kept -/

section Kept

variable {name path : List Char} {separator : Separator} {parameter : Parameter}
  {later : List (Separator × Parameter)}

theorem others_cons_of_page (h : IsPage name parameter.text) :
    others name ((separator, parameter) :: later) = others name later :=
  List.filter_cons_of_neg (by simpa [others] using h)

theorem others_cons_of_not_page (h : ¬ IsPage name parameter.text) :
    others name ((separator, parameter) :: later) = (separator, parameter) :: others name later :=
  List.filter_cons_of_pos (by simpa [others] using h)

/-- A parameter is read to its end, or not at all, or it only begins like the page parameter. -/
theorem read_cases (name : List Char) (parameter : Parameter) :
    (dropPage? name parameter.text = some [] ∧ IsPage name parameter.text) ∨
      (dropPage? name parameter.text = none ∧ ¬ IsPage name parameter.text ∧
        ¬ BeginsLikePage name parameter.text) ∨
      ∃ left, dropPage? name parameter.text = some left ∧ left.length < parameter.text.length ∧
        ¬ IsPage name parameter.text ∧ BeginsLikePage name parameter.text := by
  rw [isPage_iff, beginsLikePage_iff]
  cases hread : dropPage? name parameter.text with
  | none => simp
  | some left =>
    cases left with
    | nil => simp
    | cons c left =>
      obtain ⟨read, htext, hread⟩ := dropPage?_shortens _ _ hread
      have hlt : (c :: left).length < parameter.text.length := by
        rw [htext, List.length_append]
        exact Nat.lt_add_of_pos_left hread
      exact .inr (.inr ⟨c :: left, rfl, hlt, by simp, by simp⟩)

theorem not_beginsLikePage_of_isPage {text : List Char} (h : IsPage name text) :
    ¬ BeginsLikePage name text := by
  rw [isPage_iff] at h
  rw [beginsLikePage_iff]
  rintro ⟨more, hne, hread⟩
  exact hne (Option.some.inj (hread.symm.trans h))

/-- What the third pass leaves is no longer than the parameters that it has to keep. -/
theorem length_cleaned_le (later : List (Separator × Parameter)) :
    (cleaned name later).length ≤ (laterText (others name later)).length := by
  induction later with
  | nil => exact Nat.le_refl _
  | cons entry later ih =>
    obtain ⟨separator, parameter⟩ := entry
    rcases read_cases name parameter with ⟨hread, hpage⟩ | ⟨hread, hpage, -⟩ |
      ⟨left, hread, hlt, hpage, -⟩
    · rw [cleaned_cons_of_read hread, others_cons_of_page hpage]
      exact ih
    · rw [cleaned_cons_of_none hread, others_cons_of_not_page hpage, laterText_cons]
      simp only [List.length_append]
      omega
    · rw [cleaned_cons_of_read hread, others_cons_of_not_page hpage, laterText_cons]
      simp only [List.length_append]
      omega

/-- The third pass keeps what it has to keep unless it meets a parameter that begins like the page
parameter. -/
theorem cleaned_eq_iff (later : List (Separator × Parameter)) :
    cleaned name later = laterText (others name later) ↔
      ∀ other ∈ later.map Prod.snd, ¬ BeginsLikePage name other.text := by
  induction later with
  | nil => simp [cleaned, others, laterText]
  | cons entry later ih =>
    obtain ⟨separator, parameter⟩ := entry
    rw [List.map_cons, List.forall_mem_cons, ← ih]
    rcases read_cases name parameter with ⟨hread, hpage⟩ | ⟨hread, hpage, hbegins⟩ |
      ⟨left, hread, hlt, hpage, hbegins⟩
    · rw [cleaned_cons_of_read hread, others_cons_of_page hpage]
      simp [not_beginsLikePage_of_isPage hpage]
    · rw [cleaned_cons_of_none hread, others_cons_of_not_page hpage, laterText_cons]
      simp [hbegins]
    · have hle : (cleaned name later).length ≤ (laterText (others name later)).length :=
        length_cleaned_le later
      rw [cleaned_cons_of_read hread, others_cons_of_not_page hpage, laterText_cons]
      refine iff_of_false (fun heq => ?_) (fun h => h.1 hbegins)
      have hlength := congrArg List.length heq
      simp only [List.length_append] at hlength
      omega

/-- The third pass brings no question mark. -/
theorem ne_question_of_mem_cleaned {c : Char} (hc : c ∈ cleaned name later) : c ≠ '?' := by
  rintro rfl
  obtain ⟨⟨separator, parameter⟩, -, hentry⟩ := List.mem_flatMap.mp hc
  have hparameter : '?' ∉ parameter.text := parameter.not_mem (by decide)
  cases hread : dropPage? name parameter.text with
  | none =>
    rcases List.mem_append.mp (by simpa [hread] using hentry) with h | h
    · exact question_not_mem_separator separator h
    · exact hparameter h
  | some left =>
    obtain ⟨read, htext, -⟩ := dropPage?_shortens _ _ hread
    have hleft : '?' ∈ left := by simpa [hread] using hentry
    exact hparameter (htext ▸ List.mem_append_right _ hleft)

/-- Where something is kept, the URL has a question mark. -/
theorem question_mem_written (h : later ≠ []) : '?' ∈ written path later := by
  obtain ⟨⟨separator, parameter⟩, later, rfl⟩ := List.exists_cons_of_ne_nil h
  exact List.mem_append_right _ List.mem_cons_self

end Kept

/-! ## All passes -/

section All

variable {name path : List Char} (hname : IsLetters name)
  (hpath : ∀ c ∈ path, c ≠ '?' ∧ c ≠ '&') {first : Parameter}
  {later : List (Separator × Parameter)}

include hname hpath in
theorem laterPasses_of_read {left : List Char} (hread : dropPage? name first.text = some left) :
    withoutLater name (withoutFirst name (path ++ '?' :: (first.text ++ laterText later))) =
      path ++ (left ++ cleaned name later) := by
  obtain ⟨read, htext, -⟩ := dropPage?_shortens _ _ hread
  rw [withoutFirst_page hname (fun c hc => (hpath c hc).1) hread, ← List.append_assoc, withoutLater_eq hname,
    List.append_assoc]
  rintro c hc rfl
  rcases List.mem_append.mp hc with hc | hc
  · exact (hpath _ hc).2 rfl
  · exact first.not_mem (by decide) (htext ▸ List.mem_append_right _ hc)

/-- With its question mark gone the URL has none left. -/
theorem question_not_mem_of_read (hpath : ∀ c ∈ path, c ≠ '?' ∧ c ≠ '&') {left : List Char}
    (hread : dropPage? name first.text = some left) :
    '?' ∉ path ++ (left ++ cleaned name later) := by
  obtain ⟨read, htext, -⟩ := dropPage?_shortens _ _ hread
  rw [List.mem_append, List.mem_append]
  rintro (hmem | hmem | hmem)
  · exact (hpath _ hmem).1 rfl
  · exact first.not_mem (by decide) (htext ▸ List.mem_append_right _ hmem)
  · exact ne_question_of_mem_cleaned hmem rfl

include hname hpath in
theorem laterPasses_of_none (hread : dropPage? name first.text = none) :
    withoutLater name (withoutFirst name (path ++ '?' :: (first.text ++ laterText later))) =
      path ++ '?' :: (first.text ++ cleaned name later) := by
  have hassoc : ∀ behind : List Char,
      path ++ '?' :: (first.text ++ behind) = (path ++ '?' :: first.text) ++ behind := by simp
  rw [withoutFirst_other hname (fun c hc => (hpath c hc).1) hread, hassoc, withoutLater_eq hname, ← hassoc]
  rintro c hc rfl
  rcases List.mem_append.mp hc with hc | hc
  · exact (hpath _ hc).2 rfl
  · rcases List.mem_cons.mp hc with hc | hc
    · exact absurd hc (by decide)
    · exact first.not_mem (by decide) hc

include hname hpath in
/-- The second and the third pass keep all other parameters if none of them begins like the page
parameter, and if none stands behind a page parameter at the front. -/
theorem laterPasses_eq_written_iff (separator : Separator) :
    withoutLater name (withoutFirst name (path ++ '?' :: (first.text ++ laterText later))) =
        written path (others name ((separator, first) :: later)) ↔
      (∀ other ∈ first :: later.map Prod.snd, ¬ BeginsLikePage name other.text) ∧
        ¬ (IsPage name first.text ∧ others name later ≠ []) := by
  rw [List.forall_mem_cons]
  rcases read_cases name first with ⟨hread, hpage⟩ | ⟨hread, hpage, hbegins⟩ |
    ⟨left, hread, -, hpage, hbegins⟩
  · have hmem : '?' ∉ path ++ ([] ++ cleaned name later) := question_not_mem_of_read hpath hread
    rw [laterPasses_of_read hname hpath hread, others_cons_of_page hpage]
    by_cases hothers : others name later = []
    · rw [← cleaned_eq_iff, hothers]
      simp [laterText, written, not_beginsLikePage_of_isPage hpage]
    · refine iff_of_false (fun heq => hmem ?_) (fun h => h.2 ⟨hpage, hothers⟩)
      rw [heq]
      exact question_mem_written hothers
  · rw [laterPasses_of_none hname hpath hread, others_cons_of_not_page hpage, written]
    simp [cleaned_eq_iff, hpage, hbegins]
  · have hmem : '?' ∉ path ++ (left ++ cleaned name later) := question_not_mem_of_read hpath hread
    rw [laterPasses_of_read hname hpath hread, others_cons_of_not_page hpage]
    refine iff_of_false (fun heq => hmem ?_) (fun h => h.1.1 hbegins)
    rw [heq]
    exact question_mem_written (List.cons_ne_nil _ _)

end All

theorem others_ne_nil_iff {name : List Char} {later : List (Separator × Parameter)} :
    others name later ≠ [] ↔ ∃ other ∈ later.map Prod.snd, ¬ IsPage name other.text := by
  constructor
  · intro h
    obtain ⟨entry, hentry⟩ := List.exists_mem_of_ne_nil _ h
    obtain ⟨hlater, hother⟩ := List.mem_filter.mp hentry
    exact ⟨entry.2, List.mem_map_of_mem hlater, of_decide_eq_true hother⟩
  · rintro ⟨other, hmem, hother⟩ hnil
    obtain ⟨entry, hentry, rfl⟩ := List.mem_map.mp hmem
    exact List.filter_eq_nil_iff.mp hnil entry hentry (decide_eq_true hother)

theorem stripPage_eq_without_iff {name : String} (hname : IsLetters name.toList) (url : QueryUrl) :
    stripPage (.query name) url.text = url.without name.toList ↔
      (∀ parameter ∈ url.parameters, ¬ BeginsLikePage name.toList parameter.text) ∧
        ¬ HidesPage name.toList url.parameters := by
  obtain ⟨path, ⟨hquestion, hamp⟩, first, later⟩ := url
  have hpath : ∀ c ∈ path, c ≠ '?' ∧ c ≠ '&' := fun c hc =>
    ⟨fun h => hquestion (h ▸ hc), fun h => hamp (h ▸ hc)⟩
  have hplain : ∀ c ∈ path, c ≠ '?' := fun c hc => (hpath c hc).1
  rw [stripPage_query, text, without, parameters]
  dsimp only
  by_cases hfirst : IsPage name.toList first.text ∧ later ≠ []
  · obtain ⟨hpage, hne⟩ := hfirst
    obtain ⟨⟨separator, second⟩, later, rfl⟩ := List.exists_cons_of_ne_nil hne
    rw [withoutFirstOfMany_page hname hplain hpage, others_cons_of_page hpage,
      laterPasses_eq_written_iff hname hpath, others_ne_nil_iff]
    simp [HidesPage, hpage, not_beginsLikePage_of_isPage hpage, -List.mem_map]
  · have hfirst : IsPage name.toList first.text → later = [] := by simpa using hfirst
    rw [withoutFirstOfMany_other hname hplain hfirst, laterPasses_eq_written_iff hname hpath,
      others_ne_nil_iff]
    cases later with
    | nil => simp [HidesPage]
    | cons entry later =>
      have hpage : ¬ IsPage name.toList first.text := fun h => List.cons_ne_nil _ _ (hfirst h)
      simp [HidesPage, hpage]

/-- Stripping takes out the page parameters and nothing else just if no parameter begins like a page
parameter without being one, and the query does not begin with two page parameters before another
parameter. -/
theorem strip_eq_without_iff {options : PageOptions} {name : String}
    (hstyle : options.linkStyle = .ok (.query name)) (hname : IsLetters name.toList)
    (url : QueryUrl) :
    strip options (String.ofList url.text) = .ok (String.ofList (url.without name.toList)) ↔
      (∀ parameter ∈ url.parameters, ¬ BeginsLikePage name.toList parameter.text) ∧
        ¬ HidesPage name.toList url.parameters := by
  have hstrip : strip options (String.ofList url.text) =
      .ok (String.ofList (stripPage (.query name) url.text)) := by
    rw [strip, hstyle, String.toList_ofList]
    rfl
  rw [hstrip, ← stripPage_eq_without_iff hname, Except.ok.injEq, String.ofList_inj]

/-- A page parameter at the front and one behind another parameter are taken out. -/
theorem strip_first_and_later :
    strip {} "/a?p=1&amp;x=1&p=2&y=2" = .ok "/a?x=1&y=2" := by
  have hstyle : PageOptions.linkStyle {} = .ok (.query "p") := rfl
  have hname : IsLetters "p".toList := by decide
  have h := (strip_eq_without_iff hstyle hname
    ⟨"/a".toList, by decide, ⟨"p=1".toList, by decide⟩,
      [(.escaped, ⟨"x=1".toList, by decide⟩), (.plain, ⟨"p=2".toList, by decide⟩),
        (.plain, ⟨"y=2".toList, by decide⟩)]⟩).mpr (by decide)
  exact h

/-- Behind two page parameters another parameter is left without its question mark. -/
def repeatedPage : QueryUrl where
  path := "/a".toList
  path_plain := by decide
  first := ⟨"p=1".toList, by decide⟩
  later := [(.plain, ⟨"p=2".toList, by decide⟩), (.plain, ⟨"x=1".toList, by decide⟩)]

/-- A parameter that begins like the page parameter, with a value that is no number. -/
def pageAlike : QueryUrl where
  path := "/a".toList
  path_plain := by decide
  first := ⟨"x=1".toList, by decide⟩
  later := [(.plain, ⟨"p=2x".toList, by decide⟩)]

/-- Of the one URL the question mark is lost, of the other the beginning of a parameter. -/
theorem strip_harms_others :
    (PageOptions.linkStyle {} = .ok (.query "p") ∧ IsLetters "p".toList) ∧
      (String.ofList repeatedPage.text = "/a?p=1&p=2&x=1" ∧
        String.ofList (repeatedPage.without "p".toList) = "/a?x=1" ∧
        strip {} "/a?p=1&p=2&x=1" = .ok "/a&x=1") ∧
      String.ofList pageAlike.text = "/a?x=1&p=2x" ∧
        String.ofList (pageAlike.without "p".toList) = "/a?x=1&p=2x" ∧
        strip {} "/a?x=1&p=2x" = .ok "/a?x=1x" :=
  ⟨⟨rfl, by decide⟩, ⟨rfl, rfl, rfl⟩, rfl, rfl, rfl⟩

end SqlToolkit.PageLinks
