import Mathlib.Data.List.Count
import Mathlib.Data.List.Nodup
import Mathlib.Data.List.Sort
import SqlToolkit.Pages.Links
import SqlToolkit.Proofs.Written

/-!
# The places of page links

A list of links has its items in fixed places: the way back, the label, the pages around the current
one, and the way forward. A place says which page its item leads to, and what is written in it. The
list is made if all of this can be written.
-/

namespace SqlToolkit.PageLinks

inductive Place where
  | first
  | previous
  /-- The label before the pages. -/
  | caption
  | page (number : Int)
  | next
  | last
  deriving DecidableEq

def backPlaces (figures : Figures) : List Place :=
  if 1 < figures.current then [.first, .previous] else []

def forwardPlaces (figures : Figures) : List Place :=
  if figures.current < figures.pages then [.next, .last] else []

def places (figures : Figures) (shown : List Int) : List Place :=
  backPlaces figures ++ .caption :: (shown.map .page ++ forwardPlaces figures)

namespace Place

/-- The page that a place should lead to. The label and the current page lead nowhere. -/
def target (figures : Figures) : Place → Option Int
  | first => some 1
  | previous => some (figures.current - 1)
  | caption => none
  | page number => if number = figures.current then none else some number
  | next => some (figures.current + 1)
  | last => some figures.pages

def label (options : PageOptions) : Place → Value
  | first => options.firstMarkup
  | previous => options.previousMarkup
  | caption => options.pageLabel
  | page number => .int number
  | next => options.nextMarkup
  | last => options.lastMarkup

/-- The class of a place; only the label and the current page have one. -/
def css (options : PageOptions) (figures : Figures) : Place → Value
  | caption => options.disabledClass
  | page number => if number = figures.current then options.activeClass else .text ""
  | _ => .text ""

/-- The item in a place, where pages have links. -/
def item (options : PageOptions) (figures : Figures) (link : Int → String) (place : Place) : Item :=
  ⟨(place.target figures).elim "#" link, (place.label options).display, place.css options figures⟩

structure Writable (options : PageOptions) (figures : Figures) (place : Place) : Prop where
  target : ∀ page, place.target figures = some page → Numeral.isWritable page = true
  label : (place.label options).isWritable = true
  css : (place.css options figures).isWritable = true

end Place

/-- The pages within a reach of the current one, in order. -/
def IsWindow (figures : Figures) (reach : Int) (shown : List Int) : Prop :=
  shown.Pairwise (· < ·) ∧ ∀ page, page ∈ shown ↔
    max 1 (figures.current - reach) ≤ page ∧ page ≤ min figures.pages (figures.current + reach)

def reachOf? : Value → Option Int
  | .int reach => some reach
  | .bool reach => some (if reach then 1 else 0)
  | _ => none

variable {options : PageOptions} {figures : Figures} {reach : Int} {shown : List Int}

theorem isWindow_pagesWithin (figures : Figures) (reach : Int) :
    IsWindow figures reach (pagesWithin figures reach) := by
  constructor
  · refine List.Pairwise.map _ (fun a b (h : a < b) => ?_) List.pairwise_lt_range
    show _ + (a : Int) < _ + (b : Int)
    omega
  · intro page
    simp only [pagesWithin, pageRange, List.mem_map, List.mem_range]
    constructor
    · rintro ⟨step, hstep, rfl⟩
      have hcast : Int.ofNat step = (step : Int) := rfl
      omega
    · rintro ⟨hlow, hhigh⟩
      refine ⟨(page - max 1 (figures.current - reach)).toNat, by omega, ?_⟩
      show _ + (((page - max 1 (figures.current - reach)).toNat : Nat) : Int) = page
      omega

/-- There is one window. -/
theorem IsWindow.unique {other : List Int} (h : IsWindow figures reach shown)
    (hother : IsWindow figures reach other) : shown = other :=
  h.1.eq_of_mem_iff hother.1 fun page => (h.2 page).trans (hother.2 page).symm

theorem shownPages_of_reachOf? (h : reachOf? options.navLength = some reach) :
    shownPages figures options.navLength = .ok (pagesWithin figures reach) := by
  cases hlength : options.navLength with
  | int number =>
    rw [hlength] at h
    cases h
    rfl
  | bool number =>
    rw [hlength] at h
    cases h
    rfl
  | _ =>
    rw [hlength] at h
    cases h

/-! ## Items that are made -/

section Items

variable {link : Int → Attempt String} {href : Int → String}

theorem newItem_writes (href : String) (label css : Value) :
    Writes (newItem href label css) (css.isWritable = true ∧ label.isWritable = true)
      ⟨href, label.display, css⟩ := by
  have hitem : Writes (newItem href label css)
      (css.isWritable = true ∧ label.isWritable = true ∧ True) ⟨href, label.display, css⟩ :=
    (Writes.value css Value.display).bind ((Writes.value label Value.display).bind (.ok _))
  exact hitem.congr (by simp)

/-- A link is made in a place that leads to a page. -/
theorem linkItem_writes {page : Int}
    (hlink : Writes (link page) (Numeral.isWritable page = true) (href page)) {place : Place}
    (htarget : place.target figures = some page)
    (hcss : place.css options figures = .text "") :
    Writes (linkItem link page (place.label options)) (place.Writable options figures)
      (place.item options figures href) := by
  have hitem : Writes (linkItem link page (place.label options)) _
      ⟨href page, (place.label options).display, .text ""⟩ :=
    hlink.bind (newItem_writes (href page) (place.label options) (.text ""))
  rw [Place.item, htarget, hcss]
  refine hitem.congr ⟨fun ⟨hpage, hclass, hlabel⟩ => ⟨?_, hlabel, hcss ▸ hclass⟩, fun h => ?_⟩
  · rintro other hother
    cases htarget.symm.trans hother
    exact hpage
  · exact ⟨h.target page htarget, rfl, h.label⟩

/-- An item without a link is made in a place that leads nowhere. -/
theorem newItem_place_writes {place : Place} (htarget : place.target figures = none) :
    Writes (newItem "#" (place.label options) (place.css options figures))
      (place.Writable options figures) (place.item options figures href) := by
  rw [Place.item, htarget]
  refine (newItem_writes _ _ _).congr ⟨fun ⟨hclass, hlabel⟩ => ⟨fun page hpage => ?_, hlabel,
    hclass⟩, fun h => ⟨h.css, h.label⟩⟩
  cases htarget.symm.trans hpage

theorem pageItem_writes
    (hlink : ∀ page, Writes (link page) (Numeral.isWritable page = true) (href page)) (page : Int) :
    Writes (pageItem options link figures.current page)
      ((Place.page page).Writable options figures)
      ((Place.page page).item options figures href) := by
  unfold pageItem
  split
  · next hcurrent =>
    have hcss : (Place.page page).css options figures = options.activeClass := if_pos hcurrent
    rw [← hcss]
    exact newItem_place_writes (if_pos hcurrent)
  · next hother =>
    have htarget : (Place.page page).target figures = some page := if_neg hother
    have hcss : (Place.page page).css options figures = .text "" := if_neg hother
    exact linkItem_writes (hlink page) htarget hcss

theorem backItems_write
    (hlink : ∀ page, Writes (link page) (Numeral.isWritable page = true) (href page)) :
    Writes (backItems options figures link)
      (∀ place ∈ backPlaces figures, place.Writable options figures)
      ((backPlaces figures).map (Place.item options figures href)) := by
  have hprevious := @linkItem_writes options figures link href _ (hlink _) .previous rfl rfl
  have hfirst := @linkItem_writes options figures link href _ (hlink _) .first rfl rfl
  unfold backItems backPlaces
  split
  · have hitems : Writes (do
          let previous ← linkItem link (figures.current - 1) options.previousMarkup
          let first ← linkItem link 1 options.firstMarkup
          return [first, previous])
        (Place.previous.Writable options figures ∧ Place.first.Writable options figures ∧ True)
        ([.first, .previous].map (Place.item options figures href)) :=
      hprevious.bind (hfirst.bind (.ok _))
    exact hitems.congr (by simp [and_comm])
  · exact (Writes.ok []).congr (by simp)

theorem forwardItems_write
    (hlink : ∀ page, Writes (link page) (Numeral.isWritable page = true) (href page)) :
    Writes (forwardItems options figures link)
      (∀ place ∈ forwardPlaces figures, place.Writable options figures)
      ((forwardPlaces figures).map (Place.item options figures href)) := by
  have hnext := @linkItem_writes options figures link href _ (hlink _) .next rfl rfl
  have hlast := @linkItem_writes options figures link href _ (hlink _) .last rfl rfl
  unfold forwardItems forwardPlaces
  split
  · have hitems : Writes (do
          let next ← linkItem link (figures.current + 1) options.nextMarkup
          let last ← linkItem link figures.pages options.lastMarkup
          return [next, last])
        (Place.next.Writable options figures ∧ Place.last.Writable options figures ∧ True)
        ([.next, .last].map (Place.item options figures href)) :=
      hnext.bind (hlast.bind (.ok _))
    exact hitems.congr (by simp)
  · exact (Writes.ok []).congr (by simp)

/-- The items are made if what stands in their places can be written, and are those of the places in
order. -/
theorem items_write (h : reachOf? options.navLength = some reach)
    (hlink : ∀ page, Writes (link page) (Numeral.isWritable page = true) (href page)) :
    let places := places figures (pagesWithin figures reach)
    Writes (items options figures link) (∀ place ∈ places, place.Writable options figures)
      (places.map (Place.item options figures href)) := by
  intro all
  have haround := Writes.mapM fun page (_ : page ∈ pagesWithin figures reach) =>
    @pageItem_writes options figures link href hlink page
  have hcaption := @newItem_place_writes options figures href .caption rfl
  have hback := @backItems_write options figures link href hlink
  have hforward := @forwardItems_write options figures link href hlink
  have hmap : all.map (Place.item options figures href) =
      (backPlaces figures).map (Place.item options figures href) ++
        Place.caption.item options figures href ::
          ((pagesWithin figures reach).map
              (fun page => (Place.page page).item options figures href) ++
            (forwardPlaces figures).map (Place.item options figures href)) := by
    simp only [all, places, List.map_append, List.map_cons, List.map_map]
    rfl
  have hitems : Writes (items options figures link)
      ((∀ page ∈ pagesWithin figures reach, (Place.page page).Writable options figures) ∧
        Place.caption.Writable options figures ∧
        (∀ place ∈ backPlaces figures, place.Writable options figures) ∧
        (∀ place ∈ forwardPlaces figures, place.Writable options figures) ∧ True)
      (all.map (Place.item options figures href)) := by
    rw [items, shownPages_of_reachOf? h, hmap]
    exact haround.bind (hcaption.bind (hback.bind (hforward.bind (.ok _))))
  refine hitems.congr ?_
  simp only [all, places, List.forall_mem_append, List.forall_mem_cons, List.forall_mem_map]
  tauto

end Items

theorem mem_places_iff {place : Place} :
    place ∈ places figures shown ↔
      (1 < figures.current ∧ (place = .first ∨ place = .previous)) ∨ place = .caption ∨
        (∃ page ∈ shown, place = .page page) ∨
          figures.current < figures.pages ∧ (place = .next ∨ place = .last) := by
  have hpage : (∃ page ∈ shown, Place.page page = place) ↔ ∃ page ∈ shown, place = .page page := by
    simp only [eq_comm]
  unfold places backPlaces forwardPlaces
  rw [List.mem_append, List.mem_cons, List.mem_append, List.mem_map, hpage]
  by_cases hback : 1 < figures.current <;> by_cases hforward : figures.current < figures.pages <;>
    simp [hback, hforward]

/-- No place leads outside the pages or to the current one. -/
theorem target_mem (hshown : IsWindow figures reach shown) (hfirst : 1 ≤ figures.current)
    (hlast : figures.current ≤ figures.pages) {place : Place}
    (hplace : place ∈ places figures shown)
    {page : Int} (hpage : place.target figures = some page) :
    1 ≤ page ∧ page ≤ figures.pages ∧ page ≠ figures.current := by
  rcases mem_places_iff.mp hplace with ⟨hmore, rfl | rfl⟩ | rfl | ⟨number, hnumber, rfl⟩ |
    ⟨hmore, rfl | rfl⟩
  · cases hpage
    omega
  · cases hpage
    omega
  · cases hpage
  · obtain ⟨hlow, hhigh⟩ := (hshown.2 number).mp hnumber
    simp only [Place.target] at hpage
    split at hpage
    · cases hpage
    · cases hpage
      omega
  · cases hpage
    omega
  · cases hpage
    omega

/-- The current page has one item. -/
theorem count_current (hshown : IsWindow figures reach shown) (hreach : 0 ≤ reach)
    (hfirst : 1 ≤ figures.current) (hlast : figures.current ≤ figures.pages) :
    (places figures shown).count (.page figures.current) = 1 := by
  have hmem : figures.current ∈ shown := (hshown.2 _).mpr (by omega)
  have hnodup : shown.Nodup := hshown.1.imp Int.ne_of_lt
  have hinjective : Function.Injective Place.page := fun _ _ => Place.page.inj
  have hcount : (shown.map Place.page).count (.page figures.current) = 1 := by
    rw [List.count_map_of_injective _ _ hinjective, List.count_eq_one_of_mem hnodup hmem]
  unfold places backPlaces forwardPlaces
  rw [List.count_append, List.count_cons, List.count_append, hcount]
  split <;> split <;> simp

/-- Only the label and the current page lead nowhere. -/
theorem target_eq_none_iff {place : Place} :
    place.target figures = none ↔ place = .caption ∨ place = .page figures.current := by
  cases place <;> simp [Place.target]

end SqlToolkit.PageLinks
