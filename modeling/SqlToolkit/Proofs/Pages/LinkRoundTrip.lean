import SqlToolkit.Proofs.Number.Numeral
import SqlToolkit.Proofs.Pages.Stripping
import SqlToolkit.Proofs.Text.Ampersand
import SqlToolkit.Proofs.Written

/-!
# Page links are taken out again

A link names its page at the end of a URL that no page is named in. What is taken out of the link is
what the link put there, so a list of links that is made for the link is the list that is made for
the URL. In a query the mark of a page reaches from its separator to the end of the link; in path
mode it is found because nothing before the number has a digit.
-/

namespace SqlToolkit.PageLinks

open SqlToolkit.Text

/-! ## Links in a query -/

section Query

variable {name url : List Char} (hname : IsLetters name)

theorem isRun_toString {page : Int} (h : 0 ≤ page) : IsRun Char.isDigit (toString page).toList := by
  obtain ⟨n, rfl⟩ := Int.eq_ofNat_of_zero_le h
  have hn : toString (n : Int) = toString n := rfl
  rw [hn]
  refine IsRun.of_all ?_ (List.all_eq_true.mpr fun c hc => Numeral.isDigit_of_mem_toString hc)
  rw [Nat.toString_eq_ofList_toDigits, String.toList_ofList]
  exact Nat.toDigits_ne_nil

def pageParameter (hname : IsLetters name) {page : Int} (hpage : 0 ≤ page) : Parameter where
  text := name ++ '=' :: (toString page).toList
  plain := by
    have hplain {c : Char} (halpha : c.isAlpha = false) (hequals : c ≠ '=')
        (hdigit : c.isDigit = false) : c ∉ name ++ '=' :: (toString page).toList := by
      rw [List.mem_append, List.mem_cons]
      rintro (hc | hc | hc)
      · exact hname.not_mem halpha hc
      · exact hequals hc
      · rw [(isRun_toString hpage).2 c hc] at hdigit
        cases hdigit
    exact ⟨hplain (by decide) (by decide) (by decide), hplain (by decide) (by decide) (by decide),
      hplain (by decide) (by decide) (by decide), hplain (by decide) (by decide) (by decide)⟩

theorem isPage_pageParameter {page : Int} (hpage : 0 ≤ page) :
    IsPage name (pageParameter hname hpage).text :=
  ⟨_, rfl, isRun_toString hpage⟩

def transitionBy (separator : Separator) (url : List Char) : List Char :=
  if '?' ∈ url then separator.text else ['?']

theorem transitionFor_query (name : String) (url : List Char) :
    transitionFor (.query name) url = transitionBy .escaped url := by
  simp [transitionFor, transitionBy, Separator.text]

/-- Where no page parameter begins the query only the third pass is left. -/
theorem stripPage_of_nowhere {name : String} (h : Nowhere (dropFirst? name.toList) url) :
    stripPage (.query name) url = withoutLater name.toList url := by
  have hmany : Nowhere (dropFirstOfMany? name.toList) url := by
    intro rest hne hsuffix
    rw [dropFirstOfMany?_eq, h rest hne hsuffix]
    rfl
  rw [stripPage_query, withoutFirst, withoutFirstOfMany, substitute_of_nowhere hmany,
    substitute_of_nowhere h]

include hname in
theorem withoutLater_append_page {page : Parameter} (hpage : IsPage name page.text)
    (separator : Separator) (url : List Char) :
    withoutLater name (url ++ (separator.text ++ page.text)) = withoutLater name url := by
  obtain ⟨tail, hseparator, -⟩ := separator.exists_text
  have hread : dropLater? name (separator.text ++ page.text) = some [] := by
    simpa [laterText, isPage_iff.mp hpage] using dropLater?_separator hname separator page []
  rw [hseparator, List.cons_append] at hread ⊢
  unfold withoutLater
  rw [substitute_split dropLater?_shortens fun front hne => dropLater?_append hname hne _,
    substitute_of_reads dropLater?_shortens hread]
  exact List.append_nil _

/-- The parameter that names a page is taken out of a URL whose query begins with no other. -/
theorem stripPage_append_page {name : String} (hname : IsLetters name.toList)
    (h : Nowhere (dropFirst? name.toList) url) {page : Parameter}
    (hpage : IsPage name.toList page.text) (separator : Separator) :
    stripPage (.query name) (url ++ (transitionBy separator url ++ page.text)) =
      stripPage (.query name) url := by
  have hquestion : ∀ c ∈ page.text, c ≠ '?' := page.forall_ne (by decide)
  rw [stripPage_of_nowhere h]
  by_cases hurl : '?' ∈ url
  · rw [transitionBy, if_pos hurl]
    have hlink : Nowhere (dropFirst? name.toList) (url ++ (separator.text ++ page.text)) := by
      obtain ⟨tail, hseparator, -⟩ := separator.exists_text
      refine nowhere_append (fun front hne hsuffix => ?_)
        (nowhere_of_forall_cons fun c hc more => dropFirst?_of_ne ?_ more)
      · rw [hseparator, List.cons_append, dropFirst?_ampersand hname, h front hne hsuffix]
        rfl
      · rcases List.mem_append.mp hc with hc | hc
        · rintro rfl
          exact question_not_mem_separator separator hc
        · exact hquestion c hc
    rw [stripPage_of_nowhere hlink, withoutLater_append_page hname hpage]
  · have hplain : ∀ c ∈ url, c ≠ '?' := by
      rintro c hc rfl
      exact hurl hc
    have htext : url ++ (transitionBy separator url ++ page.text) =
        url ++ '?' :: (page.text ++ laterText []) := by
      rw [transitionBy, if_neg hurl]
      simp [laterText]
    rw [htext, stripPage_query, withoutFirstOfMany_other hname hplain fun _ => rfl,
      withoutFirst_page hname hplain (isPage_iff.mp hpage)]
    simp [laterText]

/-- A URL that stays as it is has no page parameter at the front of its query. -/
theorem nowhere_of_stripPage_query {name : String} (h : stripPage (.query name) url = url) :
    Nowhere (dropFirst? name.toList) url := by
  rw [stripPage_query] at h
  have hlater (url : List Char) : (withoutLater name.toList url).length ≤ url.length :=
    length_substitute_le dropLater?_shortens url
  have hfirst (url : List Char) : (withoutFirst name.toList url).length ≤ url.length :=
    length_substitute_le dropFirst?_shortens url
  have hmany : url.length ≤ (withoutFirstOfMany name.toList url).length := by
    calc url.length
      _ = _ := (congrArg List.length h).symm
      _ ≤ _ := hlater _
      _ ≤ _ := hfirst _
  have hkept : withoutFirstOfMany name.toList url = url :=
    substitute_of_nowhere (nowhere_of_length_le dropFirstOfMany?_shortens hmany)
  rw [hkept] at h
  refine nowhere_of_length_le dropFirst?_shortens ?_
  calc url.length
    _ = _ := (congrArg List.length h).symm
    _ ≤ _ := hlater _

end Query

/-! ## Links in a document -/

section Document

variable {name url : List Char}

theorem dropFirst?_readAmpersands (hname : IsLetters name) (url : List Char) :
    dropFirst? name (readAmpersands url) = (dropFirst? name url).map readAmpersands := by
  have hamp : '&' ∉ name := hname.not_mem (by decide)
  unfold dropFirst? dropPage?
  rw [dropText?_readAmpersands (by decide)]
  cases dropText? ['?'] url with
  | none => rfl
  | some query =>
    dsimp only [Option.map_some, Option.bind_some]
    rw [dropText?_readAmpersands hamp]
    cases dropText? name query with
    | none => rfl
    | some behind =>
      dsimp only [Option.map_some, Option.bind_some]
      rw [dropText?_readAmpersands (by decide)]
      cases dropText? ['='] behind with
      | none => rfl
      | some value =>
        dsimp only [Option.map_some, Option.bind_some]
        rw [dropDigits?, takeRun?_readAmpersands (by decide), dropDigits?]
        cases takeRun? Char.isDigit value <;> rfl

/-- Ampersands that are written out hide no page parameter at the front of a query. -/
theorem nowhere_readAmpersands (hname : IsLetters name) (h : Nowhere (dropFirst? name) url) :
    Nowhere (dropFirst? name) (readAmpersands url) := by
  induction url using readAmpersands_induction with
  | nil => exact nowhere_nil
  | cons c more heq ih =>
    obtain ⟨hhead, htail⟩ := nowhere_cons.mp h
    rw [heq, nowhere_cons, ← heq, dropFirst?_readAmpersands hname, hhead]
    exact ⟨rfl, ih htail⟩
  | amp left ih =>
    rw [readAmpersands_amp, nowhere_cons]
    exact ⟨dropFirst?_of_ne (by decide) _, ih (h.of_suffix (List.suffix_append _ _))⟩

variable {text : List Char} (hplain : '&' ∉ text)

include hplain

theorem readAmpersands_added (url : List Char) :
    readAmpersands (transitionBy .escaped url ++ text) = transitionBy .plain url ++ text := by
  unfold transitionBy
  split
  · have hread := readAmpersands_amp text
    rwa [readAmpersands_of_not_mem hplain] at hread
  · exact readAmpersands_of_not_mem (by simp [hplain])

theorem readAmpersands_link (url : List Char) :
    readAmpersands (url ++ (transitionBy .escaped url ++ text)) =
      readAmpersands url ++ (transitionBy .plain (readAmpersands url) ++ text) := by
  have hsame : transitionBy .plain (readAmpersands url) = transitionBy .plain url := by
    simp only [transitionBy, mem_readAmpersands_iff (by decide : '?' ∉ "&amp;".toList)]
  have hopens : ∃ stop more, transitionBy .escaped url ++ text = stop :: more ∧
      stop ∉ "amp;".toList := by
    unfold transitionBy
    split
    · exact ⟨'&', "amp;".toList ++ text, rfl, by decide⟩
    · exact ⟨'?', text, rfl, by decide⟩
  obtain ⟨stop, more, htext, hstop⟩ := hopens
  rw [hsame, ← readAmpersands_added hplain, htext, readAmpersands_append hstop]

end Document

/-! ## Links in path mode -/

section Path

variable {transition name url tail : List Char}

def IsExtension (extension : List Char) : Prop :=
  extension = [] ∨ ∃ letters, extension = '.' :: letters ∧ IsLetters letters

def NoDigit (chars : List Char) : Prop := ∀ c ∈ chars, c.isDigit = false

theorem IsLetters.noDigit (h : IsLetters name) : NoDigit name := by
  intro c hc
  have halpha : (decide (65 ≤ c.toNat ∧ c.toNat ≤ 90) ||
    (decide (97 ≤ c.toNat) && decide (c.toNat ≤ 122))) = true := h c hc
  show (decide (48 ≤ c.toNat) && decide (c.toNat ≤ 57)) = false
  simp only [Bool.or_eq_true, Bool.and_eq_true, decide_eq_true_eq, Bool.and_eq_false_iff,
    decide_eq_false_iff_not] at halpha ⊢
  omega

theorem IsExtension.noDigit {extension : List Char} (h : IsExtension extension) :
    NoDigit extension := by
  rcases h with rfl | ⟨letters, rfl, hletters⟩
  · exact fun c hc => absurd hc List.not_mem_nil
  · intro c hc
    rcases List.mem_cons.mp hc with rfl | hc
    · decide
    · exact hletters.noDigit c hc

theorem dropPathPage?_eq_some_iff {chars rest : List Char} :
    dropPathPage? transition name chars = some rest ↔
      ∃ digits, chars = (transition ++ name) ++ (digits ++ rest) ∧ IsRun Char.isDigit digits ∧
        StopsAt Char.isDigit rest := by
  simp only [dropPathPage?, Option.bind_eq_some_iff, dropText?_eq_some_iff, dropDigits?_eq_some_iff]
  constructor
  · rintro ⟨_, ⟨_, rfl, rfl⟩, digits, rfl, h⟩
    exact ⟨digits, by simp, h⟩
  · rintro ⟨digits, rfl, h⟩
    exact ⟨_, ⟨_, by rw [List.append_assoc], rfl⟩, digits, rfl, h⟩

theorem dropPathPage?_shortens : Shortens [] (dropPathPage? transition name) := by
  intro chars rest h
  obtain ⟨digits, hchars, hdigits, -⟩ := dropPathPage?_eq_some_iff.mp h
  refine ⟨(transition ++ name) ++ digits, by rw [hchars, List.append_assoc _ digits], ?_⟩
  have hpos := List.length_pos_iff.mpr hdigits.1
  rw [List.length_append]
  exact Nat.lt_of_lt_of_le hpos (Nat.le_add_left _ _)

/-- A mark with a digit behind it is read. -/
theorem dropPathPage?_digit {digit : Char} (h : digit.isDigit = true) (more : List Char) :
    dropPathPage? transition name ((transition ++ name) ++ digit :: more) ≠ none := by
  have hrun : IsRun Char.isDigit (digit :: more.takeWhile Char.isDigit) :=
    ⟨List.cons_ne_nil _ _, List.forall_mem_cons.mpr ⟨h, List.all_eq_true.mp List.all_takeWhile⟩⟩
  have hread : dropPathPage? transition name ((transition ++ name) ++ digit :: more) =
      some (more.dropWhile Char.isDigit) := by
    refine dropPathPage?_eq_some_iff.mpr ⟨_, ?_, hrun, stopsAt_dropWhile _ _⟩
    rw [List.cons_append, List.takeWhile_append_dropWhile]
  rw [hread]
  exact Option.some_ne_none _

/-- Where there is no digit no mark is read. -/
theorem nowhere_of_noDigit (h : NoDigit url) : Nowhere (dropPathPage? transition name) url := by
  intro rest hne hsuffix
  rw [Option.eq_none_iff_forall_ne_some]
  intro left hread
  obtain ⟨digits, hrest, hdigits, -⟩ := dropPathPage?_eq_some_iff.mp hread
  obtain ⟨digit, more, rfl, hdigit⟩ := hdigits.exists_cons
  have hmem : digit ∈ rest := by simp [hrest]
  rw [h digit (hsuffix.mem hmem)] at hdigit
  cases hdigit

/-- No mark reaches from a URL into what is added to it: its number would begin where neither has a
digit. -/
theorem dropPathPage?_seam (hurl : Nowhere (dropPathPage? transition name) url)
    (htail : NoDigit (tail.take (transition ++ name).length)) {front : List Char}
    (hne : front ≠ []) (hsuffix : front <:+ url) :
    dropPathPage? transition name (front ++ tail) = none := by
  rw [Option.eq_none_iff_forall_ne_some]
  intro rest hread
  obtain ⟨digits, htext, hdigits, -⟩ := dropPathPage?_eq_some_iff.mp hread
  obtain ⟨digit, more, rfl, hdigit⟩ := hdigits.exists_cons
  -- The number does not begin in the tail, which the mark reaches by less than its own length.
  have hbehind : ∀ beyond, transition ++ name = front ++ beyond →
      tail ≠ beyond ++ (digit :: more ++ rest) := by
    rintro beyond hmark rfl
    have hmem : digit ∈ (beyond ++ (digit :: more ++ rest)).take (transition ++ name).length := by
      obtain ⟨c, front, rfl⟩ := List.exists_cons_of_ne_nil hne
      have hlength : (transition ++ name).length - beyond.length = front.length + 1 := by
        rw [hmark, List.length_append, Nat.add_sub_cancel, List.length_cons]
      rw [List.take_append, hlength]
      simp
    rw [htail digit hmem] at hdigit
    cases hdigit
  rcases List.append_eq_append_iff.mp htext with ⟨beyond, hmark, heq⟩ | ⟨behind, hfront, heq⟩
  · exact hbehind beyond hmark heq
  · cases behind with
    | nil => exact hbehind [] (by simp [hfront]) heq.symm
    | cons c behind =>
      obtain rfl : digit = c := (List.cons.inj heq).1
      exact dropPathPage?_digit hdigit behind (hfront ▸ hurl front hne hsuffix)

/-- No extension reaches from a URL into the extension behind it, whose only dot is its first
character. -/
theorem dropText?_extension {extension : List Char} (h : IsExtension extension)
    (hurl : Nowhere (dropText? extension) url) {front : List Char} (hne : front ≠ [])
    (hsuffix : front <:+ url) : dropText? extension (front ++ extension) = none := by
  have hfront := hurl front hne hsuffix
  rw [Option.eq_none_iff_forall_ne_some] at hfront ⊢
  intro rest hread
  rcases List.append_eq_append_iff.mp (dropText?_eq_some_iff.mp hread) with
    ⟨beyond, hover, hrest⟩ | ⟨behind, hbehind, -⟩
  · cases beyond with
    | nil => exact hfront [] (dropText?_eq_some_iff.mpr (by simp [hover]))
    | cons c beyond =>
      rcases h with rfl | ⟨letters, rfl, hletters⟩
      · cases hrest
      · obtain rfl : '.' = c := (List.cons.inj hrest).1
        obtain ⟨first, front, rfl⟩ := List.exists_cons_of_ne_nil hne
        have hmem : '.' ∈ letters := (List.cons.inj hover).2 ▸ by simp
        exact hletters.not_mem (by decide) hmem
  · exact hfront behind (dropText?_eq_some_iff.mpr hbehind)

/-- The first pass in path mode. -/
def withoutMark (transition name url : List Char) : List Char :=
  substitute (replacing [] (dropPathPage? transition name)) 0 url

def withoutExtension (extension : String) (url : List Char) : List Char :=
  if (Value.text extension).truthy then replaceText extension.toList [] url else url

theorem stripPage_path (name transition extension : String) (url : List Char) :
    stripPage (.path name transition (.text extension)) url =
      withoutExtension extension (withoutMark transition.toList name.toList url) := rfl

/-- An extension that is not empty is taken out. -/
theorem withoutExtension_of_ne {extension : String} (h : extension.toList ≠ []) (url : List Char) :
    withoutExtension extension url = replaceText extension.toList [] url := by
  have htruthy : (Value.text extension).truthy = true := by
    simpa [Value.truthy, String.toList_eq_nil_iff] using h
  rw [withoutExtension, if_pos htruthy]

theorem length_withoutExtension_le (extension : String) (url : List Char) :
    (withoutExtension extension url).length ≤ url.length := by
  by_cases h : extension.toList = []
  · obtain rfl := String.toList_eq_nil_iff.mp h
    exact Nat.le_refl _
  · rw [withoutExtension_of_ne h]
    have hshort : Shortens [] (dropText? extension.toList) :=
      dropText?_shortens (List.length_pos_iff.mpr h)
    exact length_substitute_le hshort url

theorem withoutExtension_append {extension : String} (hextension : IsExtension extension.toList)
    (hurl : withoutExtension extension url = url) :
    withoutExtension extension (url ++ extension.toList) = url := by
  by_cases h : extension.toList = []
  · rw [h, List.append_nil, hurl]
  · have hshort : Shortens [] (dropText? extension.toList) :=
      dropText?_shortens (List.length_pos_iff.mpr h)
    have hread : dropText? extension.toList extension.toList = some [] :=
      dropText?_eq_some_iff.mpr (List.append_nil _).symm
    rw [withoutExtension_of_ne h] at hurl ⊢
    have hnowhere : Nowhere (dropText? extension.toList) url :=
      nowhere_of_length_le hshort (Nat.le_of_eq (congrArg List.length hurl).symm)
    rw [replaceText, substitute_append fun _ hne => dropText?_extension hextension hnowhere hne,
      substitute_of_reads hshort hread]
    exact List.append_nil _

/-- What a link in path mode adds is taken out, be it an extension or a mark before it. -/
theorem stripPage_path_append {name transition extension : String} (hname : IsLetters name.toList)
    (htransition : NoDigit transition.toList) (hextension : IsExtension extension.toList)
    (hurl : stripPage (.path name transition (.text extension)) url = url) {digits : List Char}
    (hdigits : IsRun Char.isDigit digits) :
    stripPage (.path name transition (.text extension)) (url ++ extension.toList) = url ∧
      stripPage (.path name transition (.text extension))
        (url ++ (transition.toList ++ name.toList ++ (digits ++ extension.toList))) = url := by
  have hmark : NoDigit (transition.toList ++ name.toList) := fun c hc =>
    (List.mem_append.mp hc).elim (htransition c) (hname.noDigit c)
  have hplain : withoutMark transition.toList name.toList extension.toList = extension.toList :=
    substitute_of_nowhere (nowhere_of_noDigit hextension.noDigit)
  rw [stripPage_path] at hurl
  have hlength : url.length ≤ (withoutMark transition.toList name.toList url).length := by
    calc url.length
      _ = _ := (congrArg List.length hurl).symm
      _ ≤ _ := length_withoutExtension_le _ _
  have hnowhere := nowhere_of_length_le dropPathPage?_shortens hlength
  have hkept : withoutMark transition.toList name.toList url = url := substitute_of_nowhere hnowhere
  rw [hkept] at hurl
  have hseam {tail : List Char}
      (h : NoDigit (tail.take (transition.toList ++ name.toList).length)) :
      withoutMark transition.toList name.toList (url ++ tail) =
        url ++ withoutMark transition.toList name.toList tail :=
    substitute_append fun _ hne hsuffix => dropPathPage?_seam hnowhere h hne hsuffix
  rw [stripPage_path, stripPage_path]
  constructor
  · rw [hseam fun c hc => hextension.noDigit c (List.mem_of_mem_take hc), hplain,
      withoutExtension_append hextension hurl]
  · have hstops : StopsAt Char.isDigit extension.toList := fun c hc =>
      hextension.noDigit c (List.mem_of_mem_head? hc)
    have htail : withoutMark transition.toList name.toList
        (transition.toList ++ name.toList ++ (digits ++ extension.toList)) = extension.toList := by
      unfold withoutMark at hplain ⊢
      rw [substitute_of_reads dropPathPage?_shortens
        (dropPathPage?_eq_some_iff.mpr ⟨digits, rfl, hdigits, hstops⟩), hplain]
      rfl
    rw [hseam (by rwa [List.take_left]), htail, withoutExtension_append hextension hurl]

end Path

/-! ## Links -/

section Link

variable {style : LinkStyle} {options : PageOptions}

/-- The names in the style cannot be mistaken for digits, separators or one another. -/
def IsPlain (style : LinkStyle) : Prop :=
  match style with
  | .query name => IsLetters name.toList
  | .path name transition extension =>
    IsLetters name.toList ∧ NoDigit transition.toList ∧
      ∃ text, extension = .text text ∧ IsExtension text.toList

/-- What the link of a page adds to a URL. -/
def addedBy (style : LinkStyle) (url : List Char) (page : Int) : List Char :=
  match style with
  | .query name =>
    if page = 1 then []
    else transitionBy .escaped url ++ (name.toList ++ '=' :: (toString page).toList)
  | .path name transition extension =>
    if page = 1 then extension.display.toList
    else transition.toList ++ name.toList ++ ((toString page).toList ++ extension.display.toList)

def HasTextExtension (style : LinkStyle) : Prop :=
  match style with
  | .query _ => True
  | .path _ _ extension => ∃ text, extension = .text text

theorem IsPlain.hasTextExtension (h : IsPlain style) : HasTextExtension style := by
  cases style with
  | query name => trivial
  | path name transition extension =>
    obtain ⟨-, -, text, htext, -⟩ := h
    exact ⟨text, htext⟩

/-- The URL of a page is written if its number can be. -/
theorem pageUrl_writes (h : HasTextExtension style) (url : List Char) (page : Int) :
    Writes (pageUrl style url page) (Numeral.isWritable page = true)
      (String.ofList (url ++ addedBy style url page)) := by
  have htext (text : String) : toString text = text := rfl
  have hfirst : True ↔ Numeral.isWritable 1 = true := iff_of_true trivial (by decide +kernel)
  cases style with
  | query name =>
    simp only [pageUrl, addedBy, transitionFor_query]
    split
    · next hone =>
      rw [hone, List.append_nil]
      exact (Writes.ok _).congr hfirst
    · refine (congrArg (Writes _ _) (String.ext ?_)).mp ((Writes.number page).map _)
      simp [htext]
  | path name transition extension =>
    obtain ⟨text, rfl⟩ := h
    simp only [pageUrl, addedBy, transitionFor]
    split
    · next hone =>
      rw [hone]
      refine (congrArg (Writes _ _) (String.ext ?_)).mp ((Writes.ok _).congr hfirst)
      simp [Value.display]
    · refine (congrArg (Writes _ _) (String.ext ?_)).mp ((Writes.number page).map _)
      simp [htext, Value.display]

theorem stripPage_link (h : IsPlain style) {url : List Char} (hurl : stripPage style url = url)
    {page : Int} (hpage : 0 ≤ page) : stripPage style (url ++ addedBy style url page) = url := by
  cases style with
  | query name =>
    dsimp only [addedBy]
    split
    · rwa [List.append_nil]
    · exact (stripPage_append_page h (nowhere_of_stripPage_query hurl)
        (isPage_pageParameter h hpage) .escaped).trans hurl
  | path name transition extension =>
    obtain ⟨hname, htransition, text, rfl, htext⟩ := h
    have hlinks := stripPage_path_append hname htransition htext hurl (isRun_toString hpage)
    dsimp only [addedBy]
    split
    · exact hlinks.1
    · exact hlinks.2

/-- A link in a query is taken out as well when the ampersand that was added is read, and the link
of a document that is read whole gives what the URL gives that is read so. -/
theorem stripPage_readAmpersands {name : String} (hname : IsLetters name.toList) {url : List Char}
    (hurl : stripPage (.query name) url = url) {page : Int} (hpage : 0 ≤ page) :
    stripPage (.query name) (url ++ readAmpersands (addedBy (.query name) url page)) = url ∧
      stripPage (.query name) (readAmpersands (url ++ addedBy (.query name) url page)) =
        stripPage (.query name) (readAmpersands url) := by
  have hnowhere := nowhere_of_stripPage_query hurl
  have hparameter := isPage_pageParameter hname hpage
  have hplain : '&' ∉ (pageParameter hname hpage).text := (pageParameter hname hpage).plain.1
  dsimp only [addedBy]
  split
  · rw [readAmpersands_of_not_mem List.not_mem_nil, List.append_nil]
    exact ⟨hurl, rfl⟩
  · constructor
    · refine Eq.trans ?_ hurl
      rw [← stripPage_append_page hname hnowhere hparameter .plain, ← readAmpersands_added hplain]
      rfl
    · rw [← stripPage_append_page hname (nowhere_readAmpersands hname hnowhere) hparameter .plain,
        ← readAmpersands_link hplain]
      rfl

theorem strip_ofList (hstyle : options.linkStyle = .ok style) (url : List Char) :
    strip options (String.ofList url) = .ok (String.ofList (stripPage style url)) := by
  rw [strip, hstyle, String.toList_ofList]
  rfl

/-- The links for a URL are made from what is left of it. -/
theorem render_of_strip {first second : String} (h : strip options first = strip options second)
    (figures : Figures) (perPage : Int) :
    render options figures perPage first = render options figures perPage second := by
  cases hstyle : options.linkStyle with
  | error fault =>
    simp only [render, hstyle, bind, Except.bind]
  | ok style =>
    have hstrip (url : String) :
        strip options url = .ok (String.ofList (stripPage style url.toList)) := by
      rw [← strip_ofList hstyle, String.ofList_toList]
    rw [hstrip, hstrip, Except.ok.injEq, String.ofList_inj] at h
    simp only [render, hstyle, bind, Except.bind, h]

/-- A text as a reader of a document sees it. -/
def asRead (text : String) : String := String.ofList (readAmpersands text.toList)

/-- The page that a link adds to a URL, if its number can be written, is taken out of the link, so
that the link leads to the same list of links as the URL. In a query this holds of the link as a
reader of the document sees it too, as long as the URL itself is seen as it is written. -/
theorem strip_link (hstyle : options.linkStyle = .ok style) (hplain : IsPlain style) {url : String}
    (hurl : strip options url = .ok url) {page : Int} (hpage : 1 ≤ page) :
    ∃ added : String,
      Writes (pageUrl style url.toList page) (Numeral.isWritable page = true) (url ++ added) ∧
      strip options (url ++ added) = .ok url ∧
      (∀ figures perPage, render options figures perPage (url ++ added) =
        render options figures perPage url) ∧
      ∀ name, style = .query name →
        strip options (url ++ asRead added) = .ok url ∧
          strip options (asRead (url ++ added)) = strip options (asRead url) ∧
          (Nowhere (dropText? "&amp;".toList) url.toList →
            strip options (asRead (url ++ added)) = .ok url) := by
  obtain ⟨chars, rfl⟩ : ∃ chars, url = String.ofList chars := ⟨_, String.ofList_toList.symm⟩
  have hchars : stripPage style chars = chars := by
    rwa [strip_ofList hstyle, Except.ok.injEq, String.ofList_inj] at hurl
  have hread (text : List Char) : asRead (String.ofList text) = String.ofList (readAmpersands text) :=
    congrArg (String.ofList ∘ readAmpersands) String.toList_ofList
  have hpage : 0 ≤ page := by omega
  have hlink : strip options (String.ofList (chars ++ addedBy style chars page)) =
      .ok (String.ofList chars) := by
    rw [strip_ofList hstyle, stripPage_link hplain hchars hpage]
  refine ⟨String.ofList (addedBy style chars page), ?_⟩
  rw [String.toList_ofList, ← String.ofList_append]
  refine ⟨pageUrl_writes hplain.hasTextExtension chars page, hlink,
    render_of_strip (hlink.trans hurl.symm), ?_⟩
  rintro name rfl
  obtain ⟨hadded, hwhole⟩ := stripPage_readAmpersands hplain hchars hpage
  rw [hread, hread, hread, ← String.ofList_append]
  simp only [strip_ofList hstyle, hadded, hwhole, true_and]
  intro hnowhere
  rw [readAmpersands, replaceText, substitute_of_nowhere hnowhere, hchars]

theorem isWritable_three : Numeral.isWritable 3 = true := by decide +kernel

/-- The link to page 3 behind another parameter, as it is written and as it is read. -/
theorem strip_link_third_page :
    pageUrl (.query "p") "/a?x=1".toList 3 = .ok "/a?x=1&amp;p=3" ∧
      strip {} "/a?x=1&amp;p=3" = .ok "/a?x=1" ∧ strip {} "/a?x=1&p=3" = .ok "/a?x=1" := by
  have hstyle : PageOptions.linkStyle {} = .ok (.query "p") := rfl
  have hname : IsPlain (.query "p") := (by decide : IsLetters "p".toList)
  obtain ⟨added, hlink, hstrip, -, hread⟩ :=
    strip_link hstyle hname (rfl : strip {} "/a?x=1" = .ok "/a?x=1") (by decide : (1 : Int) ≤ 3)
  have hthird : pageUrl (.query "p") "/a?x=1".toList 3 = .ok "/a?x=1&amp;p=3" :=
    (@pageUrl_writes (.query "p") trivial _ _).written isWritable_three
  have htext : "/a?x=1" ++ added = "/a?x=1&amp;p=3" :=
    Except.ok.inj ((hlink.written isWritable_three).symm.trans hthird)
  have hseen := (hread "p" rfl).2.2 (nowhere_of_not_mem (by decide))
  rw [htext] at hstrip hseen
  exact ⟨hthird, hstrip, hseen⟩

/-- In a URL that has a written-out ampersand of its own, this ampersand is not written out again
once it was read. -/
theorem read_link_loses_escape :
    PageOptions.linkStyle {} = .ok (.query "p") ∧ IsLetters "p".toList ∧
      strip {} "/a?x=1&amp;y=2" = .ok "/a?x=1&amp;y=2" ∧
      pageUrl (.query "p") "/a?x=1&amp;y=2".toList 3 = .ok "/a?x=1&amp;y=2&amp;p=3" ∧
      asRead "/a?x=1&amp;y=2&amp;p=3" = "/a?x=1&y=2&p=3" ∧
      strip {} (asRead "/a?x=1&amp;y=2&amp;p=3") = .ok "/a?x=1&y=2" ∧
      strip {} (asRead "/a?x=1&amp;y=2&amp;p=3") ≠ .ok "/a?x=1&amp;y=2" := by
  refine ⟨rfl, by decide, rfl, (@pageUrl_writes (.query "p") trivial _ _).written isWritable_three,
    rfl, rfl, fun h => ?_⟩
  have hsame : "/a?x=1&y=2" = "/a?x=1&amp;y=2" := Except.ok.inj h
  exact absurd hsame (by decide)

end Link

end SqlToolkit.PageLinks
