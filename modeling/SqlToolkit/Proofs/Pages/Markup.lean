import SqlToolkit.Pages.Links
import SqlToolkit.Proofs.Text.Pieces

/-!
# Links read out of their markup

Whoever reads the list of links finds an item by its tags, its class and the address of its link
between quotes, and its label before the tag that ends the link. All items are found again as long
as nothing that stands in them ends them early.
-/

namespace SqlToolkit.PageLinks

open SqlToolkit.Text

/-- An item as a reader of the markup finds it. -/
structure Seen where
  css : List Char
  href : List Char
  label : List Char
  deriving DecidableEq

def itemTag : List Char := "<li class=\"".toList

/-- What stands between the class of an item and the address of its link. -/
def linkTag : List Char := "><a class=\"page-link\" href=\"".toList

def linkEnd : List Char := "</a>".toList

def itemEnd : List Char := "</li>".toList

def listTag : List Char := "<ul class=\"".toList

namespace Seen

def markup (seen : Seen) : List Char :=
  itemTag ++ (seen.css ++ '"' :: (linkTag ++ (seen.href ++ '"' :: '>' :: (seen.label
    ++ (linkEnd ++ itemEnd)))))

/-- Nothing that stands in the item ends it early. -/
structure Plain (seen : Seen) : Prop where
  css : '"' ∉ seen.css
  href : '"' ∉ seen.href
  label : ¬ linkEnd <:+: seen.label

end Seen

/-- The markup of a list: its class, its items and what follows it. -/
def listMarkup (css : List Char) (items : List Seen) (rest : List Char) : List Char :=
  listTag ++ (css ++ '"' :: '>' :: (items.flatMap Seen.markup ++ ("</ul>".toList ++ rest)))

def Item.seen (item : Item) : Seen where
  css := (if item.css.truthy then "page-item " ++ item.css.display else "page-item").toList
  href := item.href.toList
  label := item.label.toList

theorem toList_html (item : Item) : item.html.toList = item.seen.markup := by
  unfold Item.html Seen.markup Item.seen
  simp only [String.toList_append, List.append_assoc]
  rfl

/-! ## The reader -/

/-- Reads an item, and answers with what follows it. -/
def readItem? (chars : List Char) : Option (Seen × List Char) := do
  let (css, rest) ← cutAtChar? '"' (← dropText? itemTag chars)
  let (href, rest) ← cutAtChar? '"' (← dropText? linkTag rest)
  let (label, rest) ← cutAt? (dropText? linkEnd) (← dropText? ['>'] rest)
  return (⟨css, href, label⟩, ← dropText? itemEnd rest)

theorem length_of_cutAt? {stop front back chars : List Char}
    (h : cutAt? (dropText? stop) chars = some (front, back)) : back.length ≤ chars.length := by
  obtain ⟨read, rfl, hread⟩ := of_search h
  rw [dropText?_eq_some_iff.mp hread]
  simp
  omega

theorem length_of_dropText? {want rest chars : List Char} (h : dropText? want chars = some rest) :
    chars.length = want.length + rest.length := by
  rw [dropText?_eq_some_iff.mp h, List.length_append]

theorem length_of_readItem? {chars rest : List Char} {seen : Seen}
    (h : readItem? chars = some (seen, rest)) : rest.length < chars.length := by
  unfold readItem? at h
  simp only [Option.bind_eq_bind, Option.bind_eq_some_iff, Prod.exists] at h
  obtain ⟨first, hitem, css, second, hcss, third, hlink, href, fourth, hhref, fifth, hlabelled,
    label, sixth, hlabel, seventh, hend, hseen⟩ := h
  cases hseen
  have hfirst := length_of_dropText? hitem
  have hsecond := length_of_cutAt? hcss
  have hthird := length_of_dropText? hlink
  have hfourth := length_of_cutAt? hhref
  have hfifth := length_of_dropText? hlabelled
  have hsixth := length_of_cutAt? hlabel
  have hseventh := length_of_dropText? hend
  have htag : 0 < itemTag.length := by decide
  omega

def readItems (chars : List Char) : List Seen :=
  match h : readItem? chars with
  | some (seen, rest) =>
    have : rest.length < chars.length := length_of_readItem? h
    seen :: readItems rest
  | none => []
termination_by chars.length

def readList (chars : List Char) : List Seen :=
  match (dropText? listTag chars).bind (cutAtChar? '"') with
  | some (_, rest) => readItems (rest.drop 1)
  | none => []

/-! ## What is read -/

theorem readItem?_markup {seen : Seen} (h : seen.Plain) (rest : List Char) :
    readItem? (seen.markup ++ rest) = some (seen, rest) := by
  have hcss := cutAtChar?_append h.css
    (linkTag ++ (seen.href ++ '"' :: '>' :: (seen.label ++ (linkEnd ++ (itemEnd ++ rest)))))
  have hhref := cutAtChar?_append h.href ('>' :: (seen.label ++ (linkEnd ++ (itemEnd ++ rest))))
  have hlabel : cutAt? (dropText? linkEnd) (seen.label ++ (linkEnd ++ (itemEnd ++ rest))) =
      some (seen.label, itemEnd ++ rest) := cutAt?_append (by decide) h.label (itemEnd ++ rest)
  have hdrop (want more : List Char) : dropText? want (want ++ more) = some more :=
    dropText?_eq_some_iff.mpr rfl
  have hopen (more : List Char) : dropText? ['>'] ('>' :: more) = some more := hdrop ['>'] more
  unfold readItem? Seen.markup
  simp only [List.append_assoc, List.cons_append, hdrop, hcss, hhref, hopen, hlabel,
    Option.bind_eq_bind, Option.bind_some]
  rfl

theorem readItems_of_none {chars : List Char} (h : readItem? chars = none) :
    readItems chars = [] := by
  rw [readItems]
  split
  · next hsome => cases h.symm.trans hsome
  · rfl

theorem readItems_of_some {chars rest : List Char} {seen : Seen}
    (h : readItem? chars = some (seen, rest)) : readItems chars = seen :: readItems rest := by
  rw [readItems]
  split
  · next hsome =>
    cases h.symm.trans hsome
    rfl
  · next hnone => cases h.symm.trans hnone

theorem readItems_markup {items : List Seen} (h : ∀ seen ∈ items, seen.Plain) {rest : List Char}
    (hrest : readItem? rest = none) :
    readItems (items.flatMap Seen.markup ++ rest) = items := by
  induction items with
  | nil => exact readItems_of_none hrest
  | cons seen items ih =>
    have hread := readItem?_markup (h seen List.mem_cons_self) (items.flatMap Seen.markup ++ rest)
    rw [List.flatMap_cons, List.append_assoc, readItems_of_some hread,
      ih fun other hother => h other (List.mem_cons_of_mem seen hother)]

theorem readList_listMarkup {css : List Char} (hcss : '"' ∉ css) {items : List Seen}
    (h : ∀ seen ∈ items, seen.Plain) (rest : List Char) :
    readList (listMarkup css items rest) = items := by
  have hopen : dropText? listTag (listMarkup css items rest) = some _ :=
    dropText?_eq_some_iff.mpr rfl
  have hend : readItem? ("</ul>".toList ++ rest) = none := rfl
  unfold readList
  rw [hopen, Option.bind_some, cutAtChar?_append hcss]
  exact readItems_markup h hend

end SqlToolkit.PageLinks
