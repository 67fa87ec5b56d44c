import Mathlib.Data.List.TakeWhile
import SqlToolkit.Proofs.Pages.Markup
import SqlToolkit.Proofs.Pages.Summary
import SqlToolkit.Proofs.Statement.ColumnNames
import SqlToolkit.Proofs.Text.Pieces

/-!
# Where the page links lead

A list of links has an item in each of its places. A link names the page of its place in a parameter
behind everything else in the URL. Whoever follows the link looks for the parameter in the query,
and a query ends where a fragment begins. So the links that are read in the markup lead where they
should, unless the URL has a fragment, or the name has a character that ends a parameter.
-/

namespace SqlToolkit.PageLinks

open SqlToolkit.Text

/-! ## The page that a URL names -/

/-- The query of a URL: what stands behind its question mark, up to a fragment. -/
def queryOf (url : List Char) : List Char :=
  ((url.takeWhile (· != '#')).dropWhile (· != '?')).drop 1

def pageIn? (name parameter : List Char) : Option Nat :=
  if IsPage name parameter then some (Nat.ofDigitChars 10 (parameter.drop (name.length + 1)) 0)
  else none

/-- The pages that the query of a URL names, as a reader of the document sees the URL. -/
def namedPages (name url : List Char) : List Nat :=
  (splitAtChar '&' (queryOf (readAmpersands url))).filterMap (pageIn? name)

/-- The page that a link leads to is the one that it names, and page 1 if it names none. A link to
`#` leads nowhere. -/
def leadsTo? (name href : List Char) : Option Int :=
  if href = ['#'] then none else some ((namedPages name href).head?.getD 1)

section Query

variable {name url text more : List Char}

theorem queryOf_of_not_mem (h : '?' ∉ url) : queryOf url = [] := by
  have hall : ∀ c ∈ url.takeWhile (· != '#'), (c != '?') = true := by
    intro c hc
    have hmem : c ∈ url := (List.takeWhile_prefix _).subset hc
    simpa using fun heq : c = '?' => h (heq ▸ hmem)
  rw [queryOf, List.dropWhile_eq_nil_iff.mpr hall]
  rfl

theorem queryOf_question (hurl : '?' ∉ url) (hhash : '#' ∉ url ++ text) :
    queryOf (url ++ '?' :: text) = text := by
  have hall : ∀ c ∈ url ++ '?' :: text, (c != '#') = true := by
    intro c hc
    have hne : c ≠ '#' := by
      rintro rfl
      simp_all
    simpa using hne
  have hdrop : (url ++ '?' :: text).dropWhile (· != '?') = '?' :: text := by
    rw [List.dropWhile_append_of_pos fun c hc => by
      simpa using fun heq : c = '?' => hurl (heq ▸ hc)]
    simp
  rw [queryOf, List.takeWhile_eq_self_iff.mpr hall, hdrop]
  rfl

/-- What follows a URL with a query belongs to the query. -/
theorem queryOf_append (hurl : '?' ∈ url) (hhash : '#' ∉ url ++ more) :
    queryOf (url ++ more) = queryOf url ++ more := by
  obtain ⟨path, query, rfl, hpath⟩ := List.eq_append_cons_of_mem hurl
  rw [List.append_assoc, List.cons_append, queryOf_question hpath, queryOf_question hpath]
  · simp_all
  · simp_all

/-- Nothing behind a fragment belongs to the query. -/
theorem queryOf_fragment (url text more : List Char) :
    queryOf (url ++ '#' :: text) = queryOf (url ++ '#' :: more) := by
  rw [queryOf, queryOf, takeWhile_append_stop (by decide), takeWhile_append_stop (by decide)]

theorem hash_not_mem_queryOf : '#' ∉ queryOf url := by
  intro hmem
  have htake : '#' ∈ url.takeWhile (· != '#') :=
    (List.dropWhile_suffix _).subset ((List.drop_suffix _ _).subset hmem)
  exact absurd (List.all_eq_true.mp List.all_takeWhile _ htake) (by decide)

theorem pageIn?_page {page : Int} (h : 0 ≤ page) :
    pageIn? name (name ++ '=' :: (toString page).toList) = some page.toNat := by
  obtain ⟨n, rfl⟩ := Int.eq_ofNat_of_zero_le h
  have hn : (toString (n : Int)).toList = Nat.toDigits 10 n := by
    rw [show toString (n : Int) = toString n from rfl, Nat.toString_eq_ofList_toDigits,
      String.toList_ofList]
  have hdrop : (name ++ '=' :: Nat.toDigits 10 n).drop (name.length + 1) = Nat.toDigits 10 n := by
    rw [List.drop_append, List.drop_of_length_le (Nat.le_succ _)]
    simp
  have hpage : IsPage name (name ++ '=' :: (toString (n : Int)).toList) :=
    ⟨_, rfl, isRun_toString h⟩
  rw [pageIn?, if_pos hpage, hn, hdrop, Nat.ofDigitChars_toDigits (by decide) (by decide)]
  rfl

/-- A parameter without a character of the name names no page. -/
theorem pageIn?_of_not_mem {c : Char} (hname : c ∈ name) (htext : c ∉ text) :
    pageIn? name text = none := by
  refine if_neg ?_
  rintro ⟨digits, rfl, -⟩
  exact htext (List.mem_append_left _ hname)

/-- A name that ends a parameter, or the query, is not found. -/
theorem namedPages_of_mem {c : Char} (hname : c ∈ name) (hc : c = '#' ∨ c = '&') :
    namedPages name url = [] := by
  refine List.filterMap_eq_nil_iff.mpr fun piece hpiece => pageIn?_of_not_mem hname ?_
  obtain ⟨hplain, hsubset⟩ := of_mem_splitAtChar hpiece
  rcases hc with rfl | rfl
  · exact fun hmem => hash_not_mem_queryOf (hsubset hmem)
  · exact hplain

end Query

/-! ## Reading a link -/

section Link

variable {name : String} {url : List Char} {page : Int}

theorem addedBy_query_of_ne (h : page ≠ 1) (name : String) (url : List Char) :
    addedBy (.query name) url page =
      transitionBy .escaped url ++ (name.toList ++ '=' :: (toString page).toList) := if_neg h

/-- A link names its page behind the pages that the URL names. -/
theorem namedPages_link (hurl : '#' ∉ url) (hhash : '#' ∉ name.toList) (hamp : '&' ∉ name.toList)
    (hpage : 0 ≤ page) (hne : page ≠ 1) :
    namedPages name.toList (url ++ addedBy (.query name) url page) =
      namedPages name.toList url ++ [page.toNat] := by
  have hdigit {c : Char} (h : c.isDigit = false) : c ∉ (toString page).toList := by
    intro hc
    rw [(isRun_toString hpage).2 c hc] at h
    cases h
  have htext {c : Char} (hname : c ∉ name.toList) (hequals : c ≠ '=') (h : c.isDigit = false) :
      c ∉ name.toList ++ '=' :: (toString page).toList := by
    rw [List.mem_append, List.mem_cons]
    rintro (hc | hc | hc)
    · exact hname hc
    · exact hequals hc
    · exact hdigit h hc
  have hplain := htext hamp (by decide) (by decide)
  have hfragment : '#' ∉ readAmpersands url := by
    rwa [mem_readAmpersands_iff (by decide)]
  have hnone : '#' ∉ name.toList ++ '=' :: (toString page).toList :=
    htext hhash (by decide) (by decide)
  have hpiece : (splitAtChar '&' (name.toList ++ '=' :: (toString page).toList)).filterMap
      (pageIn? name.toList) = [page.toNat] := by
    rw [splitAtChar_of_not_mem hplain, List.filterMap_cons_some (pageIn?_page hpage)]
    rfl
  rw [addedBy_query_of_ne hne, namedPages, readAmpersands_link hplain, namedPages]
  by_cases hquestion : '?' ∈ readAmpersands url
  · rw [transitionBy, if_pos hquestion]
    show List.filterMap _ (splitAtChar '&' (queryOf
      (_ ++ '&' :: (name.toList ++ '=' :: (toString page).toList)))) = _
    rw [queryOf_append hquestion (by simp_all), splitAtChar_concat, List.filterMap_append, hpiece]
  · have hempty : pageIn? name.toList [] = none := by
      refine if_neg ?_
      rintro ⟨digits, h, -⟩
      exact absurd (congrArg List.length h) (by simp)
    rw [transitionBy, if_neg hquestion]
    show List.filterMap _ (splitAtChar '&' (queryOf
      (_ ++ '?' :: (name.toList ++ '=' :: (toString page).toList)))) = _
    rw [queryOf_question hquestion (by simp_all), hpiece, queryOf_of_not_mem hquestion]
    simp [splitAtChar, hempty]

/-- What is added behind a fragment names no page. -/
theorem namedPages_fragment (name : List Char) (hurl : '#' ∈ url) (added : List Char) :
    namedPages name (url ++ added) = namedPages name url := by
  obtain ⟨front, back, rfl⟩ := List.append_of_mem hurl
  have hread (more : List Char) : readAmpersands (front ++ '#' :: more) =
      readAmpersands front ++ '#' :: readAmpersands more := by
    rw [readAmpersands_append (by decide)]
    rfl
  rw [List.append_assoc, List.cons_append, namedPages, hread,
    queryOf_fragment _ _ (readAmpersands back), ← hread, namedPages]

/-- A link leads to its page just if nothing hides the parameter that names it. -/
theorem leadsTo?_link_iff (hnone : namedPages name.toList url = []) (hpage : 2 ≤ page) :
    leadsTo? name.toList (url ++ addedBy (.query name) url page) = some page ↔
      '#' ∉ url ∧ '#' ∉ name.toList ∧ '&' ∉ name.toList := by
  have hmark : url ++ addedBy (.query name) url page ≠ ['#'] := by
    intro h
    have hequals : '=' ∈ url ++ addedBy (.query name) url page := by
      rw [addedBy_query_of_ne (by omega)]
      simp
    rw [h] at hequals
    exact absurd hequals (by decide)
  have hlost (h : namedPages name.toList (url ++ addedBy (.query name) url page) = []) :
      ¬ (some (((namedPages name.toList (url ++ addedBy (.query name) url page)).head?.getD 1 : Nat) :
        Int) = some page) := by
    rw [h, Option.some.injEq]
    show ¬ (1 : Int) = page
    omega
  rw [leadsTo?, if_neg hmark]
  constructor
  · intro h
    refine ⟨fun hurl => hlost ?_ h, fun hhash => hlost ?_ h, fun hamp => hlost ?_ h⟩
    · rw [namedPages_fragment _ hurl, hnone]
    · exact namedPages_of_mem hhash (.inl rfl)
    · exact namedPages_of_mem hamp (.inr rfl)
  · rintro ⟨hurl, hhash, hamp⟩
    rw [namedPages_link hurl hhash hamp (by omega) (by omega), hnone]
    show some (page.toNat : Int) = some page
    rw [Int.toNat_of_nonneg (by omega)]

/-- The link to page 1 is the URL itself. -/
theorem leadsTo?_url_iff (hnone : namedPages name.toList url = []) :
    leadsTo? name.toList url = some 1 ↔ url ≠ ['#'] := by
  rw [leadsTo?]
  split
  · next h => simp [h]
  · next h => simp [h, hnone]

end Link

/-! ## Where the items lead -/

variable {options : PageOptions} {figures : Figures} {reach : Int}

/-- Nothing in the URL or the name hides a page from whoever reads its link. -/
def Visible (name url : List Char) (page : Option Int) : Prop :=
  match page with
  | none => True
  | some page => if page = 1 then url ≠ ['#'] else '#' ∉ url ∧ '#' ∉ name ∧ '&' ∉ name

def Place.seen (options : PageOptions) (figures : Figures) (name : String) (url : List Char)
    (place : Place) : Seen where
  css :=
    let css := place.css options figures
    (if css.truthy then "page-item " ++ css.display else "page-item").toList
  href := (place.target figures).elim "#".toList fun page => url ++ addedBy (.query name) url page
  label := (place.label options).display.toList

theorem seen_item (name : String) (url : List Char) :
    Item.seen ∘ Place.item options figures (href (.query name) url) =
      Place.seen options figures name url := by
  funext place
  unfold Function.comp Place.item Item.seen Place.seen
  cases place.target figures with
  | none => rfl
  | some page =>
    refine congrArg (fun href => Seen.mk _ href _) ?_
    exact String.toList_ofList

theorem leadsTo?_place_iff {name : String} {url : List Char}
    (hnone : namedPages name.toList url = []) {place : Place}
    (hpage : ∀ page, place.target figures = some page → 1 ≤ page) :
    leadsTo? name.toList (place.seen options figures name url).href = place.target figures ↔
      Visible name.toList url (place.target figures) := by
  unfold Place.seen
  cases htarget : place.target figures with
  | none =>
    have hnowhere : "#".toList = ['#'] := by decide
    exact iff_of_true (if_pos hnowhere) trivial
  | some page =>
    rw [Option.elim_some, Visible]
    by_cases hone : page = 1
    · rw [if_pos hone, ← leadsTo?_url_iff hnone, hone]
      show leadsTo? _ (url ++ []) = some 1 ↔ _
      rw [List.append_nil]
    · have hmore : 2 ≤ page := by
        have hpos := hpage page htarget
        omega
      rw [if_neg hone, leadsTo?_link_iff hnone hmore]

/-! ## What is printed -/

/-- What stands behind the list of links. -/
def behindList (options : PageOptions) (figures : Figures) (perPage : Int) : List Char :=
  ("<div class=\"heading-elements pt-2 pr-3\">" ++ resultsLine options
    (shownResults figures perPage).1 (shownResults figures perPage).2 figures.total
    ++ "</div>").toList

theorem listing_eq (options : PageOptions) (figures : Figures) (perPage : Int)
    (items : List Item) :
    listing options figures perPage items =
      String.ofList (listMarkup options.paginationClass.display.toList (items.map Item.seen)
        (behindList options figures perPage)) := by
  have hitems : (String.join (items.map Item.html)).toList =
      (items.map Item.seen).flatMap Seen.markup := by
    rw [String.toList_join, List.flatMap_map, List.flatMap_map]
    exact List.flatMap_congr fun item _ => toList_html item
  refine String.toList_inj.mp ?_
  rw [String.toList_ofList]
  unfold listing listMarkup behindList
  simp only [String.toList_append, hitems, List.append_assoc]
  rfl

/-- Whoever reads the markup finds the ends of what stands in it. -/
structure Legible (options : PageOptions) (name : String) (url : List Char) : Prop where
  url : '"' ∉ url
  name : '"' ∉ name.toList
  classes : ∀ css ∈ [options.paginationClass, options.activeClass, options.disabledClass],
    '"' ∉ css.display.toList
  labels : ∀ label ∈ [options.firstMarkup, options.previousMarkup, options.pageLabel,
    options.nextMarkup, options.lastMarkup], ¬ linkEnd <:+: label.display.toList

section Legible

variable {name : String} {url : List Char} {shown : List Int}

theorem not_mem_toString {page : Int} (hpos : 1 ≤ page) {c : Char} (hc : c.isDigit = false) :
    c ∉ (toString page).toList := by
  intro hmem
  rw [(isRun_toString (by omega)).2 c hmem] at hc
  cases hc

theorem quote_not_mem_css (h : Legible options name url) (place : Place) :
    '"' ∉ (place.seen options figures name url).css := by
  have hclasses := h.classes
  simp only [List.forall_mem_cons] at hclasses
  obtain ⟨-, hactive, hdisabled, -⟩ := hclasses
  have hcss : '"' ∉ (place.css options figures).display.toList := by
    cases place with
    | caption => exact hdisabled
    | page number =>
      show '"' ∉ (if number = figures.current then options.activeClass else .text "").display.toList
      split
      · exact hactive
      · exact List.not_mem_nil
    | _ => exact List.not_mem_nil
  show '"' ∉ (if _ then _ else _ : String).toList
  split
  · rw [String.toList_append, List.mem_append]
    exact not_or.mpr ⟨by decide, hcss⟩
  · decide

theorem quote_not_mem_href (h : Legible options name url) {place : Place}
    (hpage : ∀ page, place.target figures = some page → 1 ≤ page) :
    '"' ∉ (place.seen options figures name url).href := by
  show '"' ∉ (place.target figures).elim _ _
  cases htarget : place.target figures with
  | none =>
    show '"' ∉ "#".toList
    decide
  | some page =>
    rw [Option.elim_some, List.mem_append]
    refine not_or.mpr ⟨h.url, ?_⟩
    by_cases hone : page = 1
    · rw [addedBy, if_pos hone]
      exact List.not_mem_nil
    · rw [addedBy_query_of_ne hone, List.mem_append, List.mem_append, List.mem_cons]
      have htransition : '"' ∉ transitionBy .escaped url := by
        unfold transitionBy
        split <;> decide
      exact not_or.mpr ⟨htransition, not_or.mpr ⟨h.name, not_or.mpr ⟨by decide,
        not_mem_toString (hpage page htarget) (by decide)⟩⟩⟩

theorem linkEnd_not_in_label (h : Legible options name url) (hshown : IsWindow figures reach shown)
    {place : Place} (hplace : place ∈ places figures shown) :
    ¬ linkEnd <:+: (place.seen options figures name url).label := by
  have hlabels := h.labels
  simp only [List.forall_mem_cons] at hlabels
  obtain ⟨hfirst, hprevious, hpage, hnext, hlast, -⟩ := hlabels
  rcases mem_places_iff.mp hplace with ⟨-, rfl | rfl⟩ | rfl | ⟨number, hnumber, rfl⟩ |
    ⟨-, rfl | rfl⟩
  · exact hfirst
  · exact hprevious
  · exact hpage
  · have hpos : 1 ≤ number := by
      have hlow := ((hshown.2 number).mp hnumber).1
      omega
    intro hinfix
    have hmem : '<' ∈ (toString number).toList := hinfix.subset (by decide)
    exact not_mem_toString hpos (by decide) hmem
  · exact hnext
  · exact hlast

/-- Whoever reads the list finds the items of its places. -/
theorem readList_places (h : Legible options name url) (hshown : IsWindow figures reach shown)
    (hfirst : 1 ≤ figures.current) (hlast : figures.current ≤ figures.pages) (rest : List Char) :
    let items := (places figures shown).map (Place.seen options figures name url)
    readList (listMarkup options.paginationClass.display.toList items rest) = items := by
  have hcss : '"' ∉ options.paginationClass.display.toList := h.classes _ List.mem_cons_self
  refine readList_listMarkup hcss (List.forall_mem_map.mpr fun place hplace => ?_) rest
  have hpage {page : Int} (htarget : place.target figures = some page) : 1 ≤ page :=
    (target_mem hshown hfirst hlast hplace htarget).1
  exact ⟨quote_not_mem_css h place, quote_not_mem_href h fun _ => hpage,
    linkEnd_not_in_label h hshown hplace⟩

end Legible

/-- What is rendered is a list with an item in each place. -/
theorem render_list_writes {name url stripped : String}
    (hstyle : options.linkStyle = .ok (.query name))
    (hreach : reachOf? options.navLength = some reach) (htotal : 0 < figures.total)
    (hpages : 2 ≤ figures.pages) (hstrip : strip options url = .ok stripped) (perPage : Int) :
    let all := places figures (pagesWithin figures reach)
    Writes (render options figures perPage url)
      ((∀ place ∈ all, place.Writable options figures) ∧ Framed options figures perPage)
      (String.ofList (listMarkup options.paginationClass.display.toList
        (all.map (Place.seen options figures name stripped.toList))
        (behindList options figures perPage))) := by
  have hstripped : stripPage (.query name) url.toList = stripped.toList := by
    simp only [strip, hstyle, bind, Except.bind, pure, Except.pure, Except.ok.injEq] at hstrip
    rw [← hstrip, String.toList_ofList]
  have hsome : figures.total ≠ 0 := Int.ne_of_gt htotal
  have hrender := render_writes hstyle trivial hreach hsome hpages perPage url
  dsimp only at hrender
  rwa [listing_eq, hstripped, List.map_map, seen_item] at hrender

/-- The markup has the items of the places: the way back if there is one, the label, the pages
within the reach with the current one among them once, and the way forward. It is printed if all of
it can be written, and whoever reads it finds these items. No item leads outside the pages or to the
current one, and those that lead anywhere lead to the page of their place as long as nothing hides
it. -/
theorem render_leads_to_places {name url stripped : String}
    (hstyle : options.linkStyle = .ok (.query name))
    (hreach : reachOf? options.navLength = some reach) (hnonneg : 0 ≤ reach)
    (htotal : 0 < figures.total) (hpages : 2 ≤ figures.pages) (hfirst : 1 ≤ figures.current)
    (hlast : figures.current ≤ figures.pages) (hstrip : strip options url = .ok stripped)
    (hnone : namedPages name.toList stripped.toList = []) (perPage : Int) :
    ∃ shown, IsWindow figures reach shown ∧
      let items := (places figures shown).map (Place.seen options figures name stripped.toList)
      let markup := listMarkup options.paginationClass.display.toList items
        (behindList options figures perPage)
      Writes (render options figures perPage url)
        ((∀ place ∈ places figures shown, place.Writable options figures) ∧
          Framed options figures perPage)
        (String.ofList markup) ∧
      (Legible options name stripped.toList → readList markup = items) ∧
      (places figures shown).count (.page figures.current) = 1 ∧
      ∀ place ∈ places figures shown,
        (place.target figures = none ↔ place = .caption ∨ place = .page figures.current) ∧
        (∀ page, place.target figures = some page →
          1 ≤ page ∧ page ≤ figures.pages ∧ page ≠ figures.current) ∧
        (leadsTo? name.toList (place.seen options figures name stripped.toList).href =
            place.target figures ↔
          Visible name.toList stripped.toList (place.target figures)) := by
  have hshown := isWindow_pagesWithin figures reach
  have hrange {place : Place} (hplace : place ∈ places figures (pagesWithin figures reach)) :=
    @target_mem figures reach _ hshown hfirst hlast place hplace
  exact ⟨pagesWithin figures reach, hshown,
    render_list_writes hstyle hreach htotal hpages hstrip perPage,
    fun hlegible => readList_places hlegible hshown hfirst hlast _,
    count_current hshown hnonneg hfirst hlast, fun place hplace => ⟨target_eq_none_iff,
      fun page hpage => hrange hplace hpage,
      leadsTo?_place_iff hnone fun page hpage => (hrange hplace hpage).1⟩⟩

/-- The items on the second of four pages, behind another parameter. -/
def secondOfFour : List Seen :=
  [⟨"page-item".toList, "/a?x=1".toList, "<i class=\"fas fa-angle-double-left\"></i>".toList⟩,
    ⟨"page-item".toList, "/a?x=1".toList, "<i class=\"fas fa-angle-left\"></i>".toList⟩,
    ⟨"page-item disabled".toList, "#".toList, "Page".toList⟩,
    ⟨"page-item".toList, "/a?x=1".toList, "1".toList⟩,
    ⟨"page-item active".toList, "#".toList, "2".toList⟩,
    ⟨"page-item".toList, "/a?x=1&amp;p=3".toList, "3".toList⟩,
    ⟨"page-item".toList, "/a?x=1&amp;p=4".toList, "4".toList⟩,
    ⟨"page-item".toList, "/a?x=1&amp;p=3".toList, "<i class=\"fas fa-angle-right\"></i>".toList⟩,
    ⟨"page-item".toList, "/a?x=1&amp;p=4".toList,
      "<i class=\"fas fa-angle-double-right\"></i>".toList⟩]

/-- The default options can be printed with numbers of two digits. -/
theorem printed_default {figures : Figures} {perPage : Int} {first last total : Nat}
    (hshown : shownResults figures perPage = ((first : Int), (last : Int))) (hsome : 0 < total)
    (htotal : figures.total = total) (hlowest : 1 ≤ figures.current)
    (hhighest : figures.current ≤ figures.pages) (hfirst : first < 100) (hlast : last < 100)
    (hfew : total < 100) (hpages : figures.pages < 100) (reach : Int) :
    (∀ place ∈ places figures (pagesWithin figures reach), place.Writable {} figures) ∧
      Framed {} figures perPage := by
  have hshort {n : Nat} (h : n < 100) : n < Numeral.tooLong :=
    Numeral.lt_tooLong (by decide : 2 ≤ Numeral.maxDigits) h
  have hnames : figures.Names perPage first last total :=
    ⟨hshown, hsome, htotal, hlowest, hhighest, hshort hfirst, hshort hlast, hshort hfew,
      Int.lt_of_lt_of_le hpages (Int.ofNat_le.mpr (hshort (by decide : 99 < 100)))⟩
  exact ⟨fun place hplace => writable_of_typed PageOptions.typed_default hnames hplace,
    framed_of_typed PageOptions.typed_default hnames⟩

theorem render_leads_to_places_second :
    ∃ written, render {} ⟨40, 4, 2, 10⟩ 10 "/a?x=1&p=3" = .ok written ∧
      readList written.toList = secondOfFour ∧
      secondOfFour.map (leadsTo? ['p'] ·.href) =
        [some 1, some 1, none, some 1, none, some 3, some 4, some 3, some 4] := by
  obtain ⟨shown, hshown, hrender, hread, -, -⟩ :=
    @render_leads_to_places {} ⟨40, 4, 2, 10⟩ 2 "p" "/a?x=1&p=3" "/a?x=1" rfl rfl (by decide)
      (by decide) (by decide) (by decide) (by decide) rfl rfl 10
  obtain rfl : shown = pagesWithin ⟨40, 4, 2, 10⟩ 2 := hshown.unique (isWindow_pagesWithin _ 2)
  have hwritten := hrender.written (@printed_default ⟨40, 4, 2, 10⟩ 10 11 20 40 rfl (by decide) rfl
    (by decide) (by decide) (by decide) (by decide) (by decide) (by decide) 2)
  have hlegible : Legible {} "p" "/a?x=1".toList :=
    ⟨by decide, by decide, by decide, by decide +kernel⟩
  refine ⟨_, hwritten, ?_, by decide⟩
  rw [String.toList_ofList, hread hlegible]
  rfl

def firstBehindFragment : List Seen :=
  [⟨"page-item disabled".toList, "#".toList, "Page".toList⟩,
    ⟨"page-item active".toList, "#".toList, "1".toList⟩,
    ⟨"page-item".toList, "/a#top?p=2".toList, "2".toList⟩,
    ⟨"page-item".toList, "/a#top?p=2".toList, "<i class=\"fas fa-angle-right\"></i>".toList⟩,
    ⟨"page-item".toList, "/a#top?p=2".toList,
      "<i class=\"fas fa-angle-double-right\"></i>".toList⟩]

/-- Behind a fragment all links to page 2 lead to page 1, and where the URL has a quote, so do those
that are read up to it. -/
theorem fragment_or_quote_hides_page :
    PageOptions.linkStyle {} = .ok (.query "p") ∧
      places ⟨20, 2, 1, 10⟩ [1, 2] = [.caption, .page 1, .page 2, .next, .last] ∧
      ((strip {} "/a#top" = .ok "/a#top" ∧ namedPages ['p'] "/a#top".toList = []) ∧
        (∃ written, render {} ⟨20, 2, 1, 10⟩ 10 "/a#top" = .ok written ∧
          readList written.toList = firstBehindFragment) ∧
        [Place.caption, .page 1, .page 2, .next, .last].map (Place.target ⟨20, 2, 1, 10⟩) =
          [none, none, some 2, some 2, some 2] ∧
        firstBehindFragment.map (leadsTo? ['p'] ·.href) = [none, none, some 1, some 1, some 1]) ∧
      (strip {} "/a\"b" = .ok "/a\"b" ∧ namedPages ['p'] "/a\"b".toList = []) ∧
        (Place.next.seen {} ⟨20, 2, 1, 10⟩ "p" "/a\"b".toList).href = "/a\"b?p=2".toList ∧
        cutAtChar? '"' "/a\"b?p=2".toList = some ("/a".toList, "b?p=2".toList) ∧
        leadsTo? ['p'] "/a".toList = some 1 := by
  have hrender := @render_list_writes {} ⟨20, 2, 1, 10⟩ 2 "p" "/a#top" "/a#top" rfl rfl (by decide)
    (by decide) rfl 10
  have hwritten := hrender.written (@printed_default ⟨20, 2, 1, 10⟩ 10 1 10 20 rfl (by decide) rfl
    (by decide) (by decide) (by decide) (by decide) (by decide) (by decide) 2)
  have hlegible : Legible {} "p" "/a#top".toList :=
    ⟨by decide, by decide, by decide, by decide +kernel⟩
  refine ⟨rfl, rfl, ⟨⟨rfl, rfl⟩, ⟨_, hwritten, ?_⟩, rfl, by decide⟩, ⟨rfl, rfl⟩, rfl, rfl,
    by decide⟩
  rw [String.toList_ofList, readList_places hlegible (isWindow_pagesWithin ⟨20, 2, 1, 10⟩ 2)
    (by decide) (by decide)]
  rfl

end SqlToolkit.PageLinks
