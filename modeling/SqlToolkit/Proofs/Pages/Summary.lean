import SqlToolkit.Proofs.Action
import SqlToolkit.Proofs.Pages.LinkRoundTrip
import SqlToolkit.Proofs.Pages.Places

/-!
# The line about the results

What is rendered is the list of links with the line about the results behind it, whatever the URL.
Both are written if the options and the numbers in them can be.
-/

namespace SqlToolkit

/-- The options that are printed as they are. -/
def PageOptions.printed (options : PageOptions) : List Value :=
  [options.activeClass, options.disabledClass, options.paginationClass, options.firstMarkup,
    options.previousMarkup, options.nextMarkup, options.lastMarkup, options.pageLabel,
    options.resultsLabel, options.toLabel, options.ofLabel]

/-- What decides about the links has the kind that its default has, and what is printed can be. -/
structure PageOptions.Typed (options : PageOptions) : Prop where
  name : ∃ content, options.querystring = .text content
  transition : ∃ content, options.pathTransition = .text content
  extension : ∃ content, options.pathExtension = .text content
  reach : ∃ reach, options.navLength = .int reach
  writable : ∀ option ∈ options.printed, option.isWritable = true

/-- The defaults have their own kinds. -/
theorem PageOptions.typed_default : PageOptions.Typed {} :=
  ⟨⟨_, rfl⟩, ⟨_, rfl⟩, ⟨_, rfl⟩, ⟨_, rfl⟩, by decide⟩

namespace PageLinks

variable {options : PageOptions} {figures : Figures} {perPage : Int}

/-! ## The line -/

/-- The line that says from which result to which the page shows, out of how many. -/
def resultsLine (options : PageOptions) (first last total : Int) : String :=
  "<p class=\"text-right text-semibold\">" ++ options.resultsLabel.display ++ s!" {first} "
    ++ options.toLabel.display ++ s!" {last} " ++ options.ofLabel.display ++ s!" {total}</p>"

/-- What stands around the links can be written: the class of the list, and the labels and the
numbers of the line. -/
structure Framed (options : PageOptions) (figures : Figures) (perPage : Int) : Prop where
  list : options.paginationClass.isWritable = true
  results : options.resultsLabel.isWritable = true
  first : Numeral.isWritable (shownResults figures perPage).1 = true
  upTo : options.toLabel.isWritable = true
  last : Numeral.isWritable (shownResults figures perPage).2 = true
  outOf : options.ofLabel.isWritable = true
  total : Numeral.isWritable figures.total = true

/-- The list of links with the line after it. -/
def listing (options : PageOptions) (figures : Figures) (perPage : Int) (items : List Item) :
    String :=
  "<ul class=\"" ++ options.paginationClass.display ++ "\">"
    ++ String.join (items.map Item.html) ++ "</ul>" ++ "<div class=\"heading-elements pt-2 pr-3\">"
    ++ resultsLine options (shownResults figures perPage).1 (shownResults figures perPage).2
      figures.total
    ++ "</div>"

theorem summary_writes (options : PageOptions) (figures : Figures) (perPage : Int) :
    let shown := shownResults figures perPage
    Writes (summary options figures perPage)
      (options.resultsLabel.isWritable = true ∧ Numeral.isWritable shown.1 = true ∧
        options.toLabel.isWritable = true ∧ Numeral.isWritable shown.2 = true ∧
        options.ofLabel.isWritable = true ∧ Numeral.isWritable figures.total = true ∧ True)
      (resultsLine options shown.1 shown.2 figures.total) := by
  unfold summary
  generalize shownResults figures perPage = shown
  obtain ⟨first, last⟩ := shown
  refine (Writes.value _ _).bind ?_
  refine (Writes.number _).bind ?_
  refine (Writes.value _ _).bind ?_
  refine (Writes.number _).bind ?_
  refine (Writes.value _ _).bind ?_
  exact (Writes.number _).bind (.ok _)

theorem html_writes (options : PageOptions) (figures : Figures) (perPage : Int)
    (items : List Item) :
    Writes (html options figures perPage items) (Framed options figures perPage)
      (listing options figures perPage items) := by
  have hhtml : Writes (html options figures perPage items) _
      (listing options figures perPage items) :=
    (Writes.value options.paginationClass Value.display).bind
      ((summary_writes options figures perPage).bind (.ok _))
  refine hhtml.congr ⟨?_, fun h => ?_⟩
  · rintro ⟨hlist, ⟨hresults, hfirst, hto, hlast, hof, htotal, -⟩, -⟩
    exact ⟨hlist, hresults, hfirst, hto, hlast, hof, htotal⟩
  · exact ⟨h.list, ⟨h.results, h.first, h.upTo, h.last, h.outOf, h.total, trivial⟩, trivial⟩

/-! ## What is rendered -/

def href (style : LinkStyle) (url : List Char) (page : Int) : String :=
  String.ofList (url ++ addedBy style url page)

section Render

variable {style : LinkStyle} {reach : Int}

/-- With several pages the list has an item in each place. -/
theorem render_writes (hstyle : options.linkStyle = .ok style) (htext : HasTextExtension style)
    (hreach : reachOf? options.navLength = some reach) (hsome : figures.total ≠ 0)
    (hseveral : 1 < figures.pages) (perPage : Int) (url : String) :
    let shown := places figures (pagesWithin figures reach)
    Writes (render options figures perPage url)
      ((∀ place ∈ shown, place.Writable options figures) ∧ Framed options figures perPage)
      (listing options figures perPage
        (shown.map (Place.item options figures (href style (stripPage style url.toList))))) := by
  intro shown
  have hitems := @items_write options figures reach _ (href style (stripPage style url.toList))
    hreach fun page => pageUrl_writes htext (stripPage style url.toList) page
  unfold render
  rw [if_neg hsome, hstyle]
  simp only [bind, Except.bind]
  rw [if_pos hseveral]
  exact hitems.bind (html_writes options figures perPage _)

/-- With one page the list is empty. -/
theorem render_single_writes (hstyle : options.linkStyle = .ok style) (hsome : figures.total ≠ 0)
    (hsingle : ¬1 < figures.pages) (perPage : Int) (url : String) :
    Writes (render options figures perPage url) (Framed options figures perPage)
      (listing options figures perPage []) := by
  unfold render
  rw [if_neg hsome, hstyle]
  simp only [bind, Except.bind]
  rw [if_neg hsingle]
  exact html_writes options figures perPage []

end Render

/-! ## Pages among few enough records -/

/-- The page shows the results from `first` to `last`, of some, and is one of the pages. All of
these numbers can be written. -/
structure Figures.Names (figures : Figures) (perPage : Int) (first last total : Nat) : Prop where
  shown : shownResults figures perPage = ((first : Int), (last : Int))
  some : 0 < total
  total_eq : figures.total = total
  lowest : 1 ≤ figures.current
  highest : figures.current ≤ figures.pages
  first : first < Numeral.tooLong
  last : last < Numeral.tooLong
  total : total < Numeral.tooLong
  pages : figures.pages < Numeral.tooLong

variable {first last total : Nat}

/-- What is rendered ends with the line about the results. -/
theorem resultsLine_of_render (h : figures.Names perPage first last total) {url written : String}
    (hwritten : render options figures perPage url = .ok written) :
    ∃ list, written = list ++ resultsLine options first last total ++ "</div>" := by
  have hsome := h.some
  have htotal := h.total_eq
  unfold render at hwritten
  rw [if_neg (by omega)] at hwritten
  obtain ⟨style, -, hwritten⟩ := Action.of_attempts_ok hwritten
  obtain ⟨items, hwritten⟩ : ∃ items, html options figures perPage items = .ok written := by
    split at hwritten
    · obtain ⟨items, -, hwritten⟩ := Action.of_attempts_ok hwritten
      exact ⟨items, hwritten⟩
    · exact ⟨[], hwritten⟩
  obtain ⟨-, rfl⟩ := (html_writes options figures perPage items).eq_ok_iff.mp hwritten
  unfold listing
  rw [h.shown, htotal]
  exact ⟨_, rfl⟩

theorem style_of_typed (h : options.Typed) :
    ∃ style, options.linkStyle = .ok style ∧ HasTextExtension style := by
  obtain ⟨name, hname⟩ := h.name
  obtain ⟨transition, htransition⟩ := h.transition
  obtain ⟨extension, hextension⟩ := h.extension
  unfold PageOptions.linkStyle PageOptions.parameterName
  rw [hname, htransition, hextension]
  cases options.pathLinks.truthy with
  | false => exact ⟨.query name, rfl, trivial⟩
  | true =>
    refine ⟨.path name transition (.text extension), ?_, extension, rfl⟩
    cases (Value.text extension).truthy <;> rfl

theorem framed_of_typed (htyped : options.Typed) (h : figures.Names perPage first last total) :
    Framed options figures perPage := by
  have hprinted := htyped.writable
  simp only [PageOptions.printed, List.forall_mem_cons] at hprinted
  obtain ⟨-, -, hlist, -, -, -, -, -, hresults, hto, hof, -⟩ := hprinted
  refine ⟨hlist, hresults, ?_, hto, ?_, hof, ?_⟩
  · rw [h.shown]
    exact Numeral.isWritable_of_lt (Int.natCast_nonneg first) (Int.ofNat_lt.mpr h.first)
  · rw [h.shown]
    exact Numeral.isWritable_of_lt (Int.natCast_nonneg last) (Int.ofNat_lt.mpr h.last)
  · rw [h.total_eq]
    exact Numeral.isWritable_of_lt (Int.natCast_nonneg total) (Int.ofNat_lt.mpr h.total)

/-- Every place has a page among the others, and options that can be printed. -/
theorem writable_of_typed (htyped : options.Typed) (h : figures.Names perPage first last total)
    {reach : Int} {place : Place} (hplace : place ∈ places figures (pagesWithin figures reach)) :
    place.Writable options figures := by
  have hshown := isWindow_pagesWithin figures reach
  have hpage {page : Int} (hlow : 1 ≤ page) (hhigh : page ≤ figures.pages) :
      Numeral.isWritable page = true :=
    Numeral.isWritable_of_lt (by omega) (Int.lt_of_le_of_lt hhigh h.pages)
  have hprinted := htyped.writable
  simp only [PageOptions.printed, List.forall_mem_cons] at hprinted
  obtain ⟨hactive, hdisabled, -, hfirst, hprevious, hnext, hlast, hlabel, -⟩ := hprinted
  refine ⟨fun page htarget => ?_, ?_, ?_⟩
  · obtain ⟨hlow, hhigh, -⟩ := target_mem hshown h.lowest h.highest hplace htarget
    exact hpage hlow hhigh
  · rcases mem_places_iff.mp hplace with ⟨-, rfl | rfl⟩ | rfl | ⟨number, hnumber, rfl⟩ |
      ⟨-, rfl | rfl⟩
    · exact hfirst
    · exact hprevious
    · exact hlabel
    · obtain ⟨hlow, hhigh⟩ := (hshown.2 number).mp hnumber
      exact hpage (by omega) (by omega)
    · exact hnext
    · exact hlast
  · cases place with
    | caption => exact hdisabled
    | page number =>
      show (if number = figures.current then options.activeClass else .text "").isWritable = true
      split
      · exact hactive
      · rfl
    | _ => rfl

theorem render_returns (htyped : options.Typed) (h : figures.Names perPage first last total)
    (url : String) : ∃ written, render options figures perPage url = .ok written := by
  obtain ⟨style, hstyle, htext⟩ := style_of_typed htyped
  obtain ⟨reach, hreach⟩ := htyped.reach
  have hsome : figures.total ≠ 0 := by
    have hsome := h.some
    have htotal := h.total_eq
    omega
  have hframed := framed_of_typed htyped h
  by_cases hseveral : 1 < figures.pages
  · have hreach : reachOf? options.navLength = .some reach := by
      rw [hreach]
      rfl
    exact ⟨_, (render_writes hstyle htext hreach hsome hseveral perPage url).written
      ⟨fun _ hplace => writable_of_typed htyped h hplace, hframed⟩⟩
  · exact ⟨_, (render_single_writes hstyle hsome hseveral perPage url).written hframed⟩

end PageLinks

end SqlToolkit
