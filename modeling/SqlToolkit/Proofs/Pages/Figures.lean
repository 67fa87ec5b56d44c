import SqlToolkit.Connection.Scripted
import SqlToolkit.Proofs.Pages.Selecting
import SqlToolkit.Proofs.Written

/-!
# The figures of a page

The page that is shown is the one that is asked for, moved to the nearest that exists, and its
records are selected by a limit with an offset. The figures are those of one selection as a whole: a
selection that fails, wherever it does, has those of an empty result, and one that returns has what
the connection reported.
-/

namespace SqlToolkit

/-! ## The page that is asked for -/

namespace PageNumber

/-- The page that is forced or, if none is, asked for. A whole number or a truth value can be
forced. -/
def asked? (forced requested : Value) : Option Int :=
  match forced with
  | .null => some (parse requested)
  | .int page => some page
  | .bool forced => some (if forced then 1 else 0)
  | _ => none

/-- A page in the range of those that are shown is kept. -/
theorem clamp_eq_self_of_le_max {page pages : Int} (low : 1 ≤ page) (high : page ≤ max 1 pages) :
    clamp page pages = page := by
  unfold clamp
  split <;> omega

/-- A page is the nearest one to that which is asked for. -/
structure Chosen.Nearest (page : Chosen) (asked pages : Int) : Prop where
  number : page.number = clamp asked pages
  whole : ∀ number, page ≠ .broken number
  shown : page.shown = .int page.number ∨ page.shown = .bool true ∧ page.number = 1

/-- A page that is asked for leads to the nearest one. -/
theorem choose_of_asked {forced requested : Value} {asked : Int}
    (h : asked? forced requested = some asked) (pages : Int) :
    ∃ page, choose forced requested pages = .ok page ∧ page.Nearest asked pages := by
  have whole (asked : Int) : (Chosen.whole (clamp asked pages)).Nearest asked pages :=
    ⟨rfl, nofun, .inl rfl⟩
  cases forced with
  | null => cases h; exact ⟨_, rfl, whole _⟩
  | int forced => cases h; exact ⟨_, rfl, whole _⟩
  | bool forced =>
    cases h
    unfold choose
    dsimp only
    split
    · next htrue =>
      obtain ⟨rfl, hpages⟩ : forced = true ∧ 1 ≤ pages := by simpa using htrue
      exact ⟨.truth, rfl, (clamp_eq_self (Int.le_refl 1) hpages).symm, nofun, .inr ⟨rfl, rfl⟩⟩
    · exact ⟨_, rfl, whole _⟩
  | _ => cases h

/-- If a page is chosen, a page was asked for, or a number was forced that need not be whole. -/
theorem nearest_of_choose {forced requested : Value} {pages : Int} {page : Chosen}
    (hforced : ∀ spelling, forced ≠ .float spelling)
    (h : choose forced requested pages = .ok page) :
    ∃ asked, asked? forced requested = some asked ∧ page.Nearest asked pages := by
  obtain ⟨asked, hasked⟩ : ∃ asked, asked? forced requested = some asked := by
    cases forced with
    | float spelling => exact absurd rfl (hforced spelling)
    | null | int forced | bool forced => exact ⟨_, rfl⟩
    | _ => cases h
  obtain ⟨nearest, hchosen, hnearest⟩ := choose_of_asked hasked pages
  cases h.symm.trans hchosen
  exact ⟨asked, hasked, hnearest⟩

end PageNumber

/-! ## The records before a page -/

namespace Pager

/-- The limit of a page skips the records of the pages before it. -/
theorem pageLimit_writes {page : PageNumber.Chosen} (hwhole : ∀ number, page ≠ .broken number)
    {perPage offset : Nat} (h : (offset : Int) = (page.number - 1) * perPage) :
    Writes (pageLimit page perPage) (offset < Numeral.tooLong ∧ perPage < Numeral.tooLong)
      s!"{offset},{perPage}" := by
  have hoffset : page.offset perPage = Numeral.write (offset : Int) := by
    rw [h]
    cases page with
    | broken number => exact absurd rfl (hwhole number)
    | _ => rfl
  have hnatural (number : Nat) : Writes (Numeral.write (number : Int))
      (number < Numeral.tooLong) (toString number) := by
    rw [Numeral.write_natCast]
    exact ⟨fun hshort => if_pos hshort, fun hlong => if_neg hlong⟩
  have hlimit : Writes (pageLimit page perPage)
      (offset < Numeral.tooLong ∧ perPage < Numeral.tooLong ∧ True) s!"{offset},{perPage}" := by
    unfold pageLimit
    rw [hoffset]
    exact (hnatural offset).bind ((hnatural perPage).bind (.ok _))
  exact hlimit.congr (by rw [and_true])

end Pager

def PageLinks.Figures.Writable (figures : PageLinks.Figures) : Prop :=
  Numeral.isWritable figures.current = true ∧ Numeral.isWritable figures.pages = true ∧
    Numeral.isWritable figures.fetched = true ∧ Numeral.isWritable figures.total = true

instance (figures : PageLinks.Figures) : Decidable figures.Writable :=
  inferInstanceAs (Decidable (_ ∧ _ ∧ _ ∧ _))

namespace Pager

open PageLinks (Figures)

/-- The line about the figures is written exactly if all of them can be. -/
theorem pageDetail_writes {page : PageNumber.Chosen} {asked : Int} {figures : Figures}
    (hpage : page.Nearest asked figures.pages) (hcurrent : figures.current = page.number) :
    ∃ line, Writes (pageDetail page figures) figures.Writable line := by
  have hshown : page.shown.isWritable = Numeral.isWritable figures.current := by
    rw [hcurrent]
    rcases hpage.shown with hshown | ⟨hshown, hone⟩
    · rw [hshown]
      rfl
    · rw [hshown, hone]
      decide +kernel
  have hdetail : Writes (pageDetail page figures) _ _ :=
    (Writes.value page.shown Value.display).bind <| (Writes.number figures.pages).bind <|
      (Writes.number figures.fetched).bind <| (Writes.number figures.total).bind (.ok _)
  exact ⟨_, hdetail.congr (by rw [hshown, and_true, Figures.Writable])⟩

/-! ## The statements that are sent -/

variable {σ : Type} [Connection σ]

def Counts (facade : Facade σ) (selection : Facade.Selection) (exchange : Exchange) : Prop :=
  ∃ entries columns, Builder.settingEntries selection.parameters = .ok entries ∧
    columnText selection.fields = .ok columns ∧
    facade.outgoing (counted selection entries columns facade.builder.dialect) =
      .ok (exchange.sql, exchange.values)

/-- The exchange is the SELECT of a selection, with a limit of this offset and count in the place
of its own. -/
def Lists (facade : Facade σ) (selection : Facade.Selection) (offset count : Nat)
    (exchange : Exchange) : Prop :=
  ∃ entries descriptor sql placeholders,
    Builder.settingEntries selection.parameters = .ok entries ∧
    (selection.page (Entries.insert (.text "limit") (.text s!"{offset},{count}")
      entries)).composed = .ok descriptor ∧
    descriptor.rendered facade.builder.dialect = .ok (sql, placeholders) ∧
    sql = descriptor.limitedSql facade.builder.dialect
      (facade.builder.dialect.limitText ⟨some offset, count⟩) ∧
    PreparedStatement.request (Connection.parser σ) facade.client.paramstyle sql placeholders =
      .ok (exchange.sql, exchange.values)

/-- What is sent for a page is its SELECT with the limit that its settings spell. -/
theorem limited_of_outgoing {facade : Facade σ} {selection : Facade.Selection}
    (hnamed : selection.Named) {entries : Value.Entries}
    (hentries : Builder.settingEntries selection.parameters = .ok entries) {limit : String}
    (hne : limit ≠ "") {sending : String × Option Arguments}
    (h : facade.outgoing
      (selection.page (Entries.insert (.text "limit") (.text limit) entries)).composed =
        .ok sending) :
    ∃ descriptor bounds sql placeholders,
      (selection.page (Entries.insert (.text "limit") (.text limit) entries)).composed =
          .ok descriptor ∧
        Limit.parse (.text limit) = .ok bounds ∧
        descriptor.rendered facade.builder.dialect = .ok (sql, placeholders) ∧
        sql = descriptor.limitedSql facade.builder.dialect
          (facade.builder.dialect.limitText bounds) ∧
        PreparedStatement.request (Connection.parser σ) facade.client.paramstyle sql
          placeholders = .ok sending := by
  obtain ⟨sql, placeholders, hrendered, hrequest⟩ := Facade.outgoing_eq_ok_iff.mp h
  obtain ⟨descriptor, hd, hrendered⟩ := Action.of_attempts_ok hrendered
  obtain ⟨given, hgives⟩ := Facade.Selection.gives_of_composed hd
  obtain ⟨bounds, hbounds⟩ := hasLimit_page hnamed hentries hne descriptor hd
  obtain ⟨hlimit, -⟩ := limit_of_page hnamed hentries hd
  refine ⟨descriptor, bounds, sql, placeholders, hd, hlimit ▸ hbounds, hrendered, ?_, hrequest⟩
  obtain ⟨text, hsql, hrendered⟩ := Action.of_attempts_ok hrendered
  obtain ⟨bound, -, hrendered⟩ := Action.of_attempts_ok hrendered
  cases hrendered
  obtain ⟨-, limit, htext, rfl⟩ := Descriptor.sql_select_eq_ok hgives.kind hsql
  cases (Descriptor.limitText_of_parse hbounds).symm.trans htext
  rfl

/-! ## What a selected page shows -/

/-- What a pager shows of a selection follows from what the connection answered: to the statement
that counts the records, to the SELECT of the page, and to the same SELECT again. -/
structure ShowsAnswers (pager final : Pager σ) (selection : Facade.Selection) (requested : Value)
    (count listed again : Exchange) : Prop where
  counts : Counts pager.facade selection count
  total : count.Reports final.figures.total
  pages : pageCount final.figures.total pager.perPage = .ok final.figures.pages
  lowest : 1 ≤ final.figures.current
  highest : final.figures.current ≤ max 1 final.figures.pages
  /-- The page that is asked for is shown if it exists. -/
  asked : ∃ page, PageNumber.asked? pager.forcedPage requested = some page ∧
    (1 ≤ page → page ≤ max 1 final.figures.pages → final.figures.current = page)
  lists : ∃ offset : Nat, (offset : Int) = (final.figures.current - 1) * pager.perPage ∧
    Lists pager.facade selection offset pager.perPage listed
  repeats : again.Repeats listed
  fetched : final.figures.fetched = again.rows.length
  shown : final.shownPage = .int final.figures.current ∨
    final.shownPage = .bool true ∧ final.figures.current = 1

variable {selection : Facade.Selection} {debug requested : Value} {pager : Pager σ}

theorem showsAnswers_of_selects (hnamed : selection.Named)
    (hforced : ∀ spelling, pager.forcedPage ≠ .float spelling) {run : PageRun} {final : Pager σ}
    (h : run.Selects pager selection requested final.client)
    (hfigures : final.figures = run.figures)
    (hshown : final.shownPage = run.page.shown) :
    ShowsAnswers pager final selection requested run.count run.listed run.again := by
  obtain ⟨asked, hasked, hnearest⟩ := PageNumber.nearest_of_choose hforced h.page
  have hlow : 1 ≤ run.page.number := hnearest.number ▸ PageNumber.one_le_clamp asked run.pages
  have hhigh : run.page.number ≤ max 1 run.pages :=
    hnearest.number ▸ PageNumber.clamp_le asked run.pages
  -- the page is at least the first one, so its offset is a natural number
  obtain ⟨offset, hoffset⟩ : ∃ offset : Nat,
      (offset : Int) = (run.page.number - 1) * pager.perPage := by
    refine ⟨(run.page.number - 1).toNat * pager.perPage, ?_⟩
    rw [Int.natCast_mul, Int.toNat_of_nonneg (by omega)]
  have hwritten : run.limit = s!"{offset},{pager.perPage}" :=
    ((pageLimit_writes hnearest.whole hoffset).eq_ok_iff.mp h.limit).2
  have hcounted := h.counted
  obtain ⟨columns, hcolumns, hcounts⟩ := hcounted
  have hlisted := h.listed
  rw [PageRun.limited, hwritten] at hlisted
  refine ⟨⟨run.entries, columns, h.entries, hcolumns, hcounts⟩, ?_, ?_, ?_, ?_,
    ⟨asked, hasked, fun hfirst hlast => ?_⟩, ⟨offset, ?_, ?_⟩, h.repeats, ?_, ?_⟩
  · rw [hfigures]; exact h.reports
  · rw [hfigures]; exact h.pages
  · rw [hfigures]; exact hlow
  · rw [hfigures]; exact hhigh
  · rw [hfigures] at hlast ⊢
    exact hnearest.number.trans (PageNumber.clamp_eq_self_of_le_max hfirst hlast)
  · rw [hfigures]; exact hoffset
  · obtain ⟨descriptor, bounds, sql, placeholders, hd, hbounds, hrendered, hsql, hrequest⟩ :=
      limited_of_outgoing hnamed h.entries (hwritten ▸ pageLimit_ne_empty h.limit) hlisted
    obtain ⟨-, rfl⟩ := Limit.parse_pair_iff.mp hbounds
    exact ⟨run.entries, descriptor, sql, placeholders, h.entries, hd, hrendered, hsql, hrequest⟩
  · rw [hfigures]; rfl
  · rw [hfigures, hshown]; exact hnearest.shown

/-- What a pager shows was answered in three exchanges. -/
def ShowsExchanged (pager final : Pager σ) (selection : Facade.Selection) (requested : Value) :
    Prop :=
  ∃ count listed again, pager.client.Exchanges [count, listed, again] final.client ∧
    ShowsAnswers pager final selection requested count listed again

/-- A connection that counts twelve records and answers twice with the same five. -/
def twelveRecords : Scripted :=
  let page : ResultSet :=
    { columns := some ["a"], rows := [[.int 6], [.int 7], [.int 8], [.int 9], [.int 10]] }
  { responses :=
      [{ result := { columns := some ["rowsCount"], rows := [[.int 12]] } }, { result := page },
        { result := page }] }

def onTwelveRecords : Pager Scripted :=
  { facade := { builder := { client := { connection := twelveRecords }, dialect := .sqlite } }
    perPage := 5 }

def allRecords : Facade.Selection := { table := .text "t" }

theorem named_allRecords : allRecords.Named := by
  intro entries h
  cases h
  exact ⟨List.nodup_nil, fun _ hkey => by cases hkey⟩

def limitedRecords (limit : String) : Descriptor where
  fields := "*"
  table := .text "t"
  parameters := { limit := .text limit }

section Limited

variable {limit : String} {bounds : Limit} (h : Limit.parse (.text limit) = .ok bounds)

include h

theorem composed_page_allRecords :
    (allRecords.page [(.text "limit", .text limit)]).composed = .ok (limitedRecords limit) := by
  have hset : (Value.text limit).isUnset = false := by
    cases hempty : (Value.text limit).isUnset with
    | false => rfl
    | true =>
      rw [String.isEmpty_iff.mp hempty] at h
      cases h
  have hchecked : Builder.checkLimit (.text limit) = .ok () := by
    unfold Builder.checkLimit
    rw [if_neg (by rw [hset]; exact Bool.false_ne_true), h]
    rfl
  show (Builder.checkLimit (.text limit) >>= fun _ => _) = _
  rw [hchecked]
  rfl

theorem rendered_limitedRecords :
    (limitedRecords limit).rendered .sqlite =
      .ok ((limitedRecords limit).limitedSql .sqlite (Dialect.sqlite.limitText bounds), []) := by
  unfold Descriptor.rendered
  rw [Descriptor.sql_of_select rfl,
    if_pos (show (limitedRecords limit).table.truthy = true from rfl),
    Descriptor.limitText_of_parse h]
  rfl

end Limited

/-- No marker can begin in the SELECT of some records. -/
theorem not_mem_limitedRecords {mark : Char} (hmark : mark = '?' ∨ mark = ':') (limit : String)
    (offset size : Nat) :
    mark ∉ ((limitedRecords limit).limitedSql .sqlite
      (Dialect.sqlite.limitText ⟨some offset, size⟩)).toList := by
  have hnumeral (n : Nat) : mark ∉ (toString n).toList := by
    intro hmem
    have hdigit := Numeral.isDigit_of_mem_toString hmem
    rcases hmark with rfl | rfl
    · cases hdigit
    · cases hdigit
  have hselected : (limitedRecords limit).selected = "* FROM t" := rfl
  have hlimit : Dialect.sqlite.limitText ⟨some offset, size⟩ =
      " LIMIT " ++ toString size ++ " OFFSET " ++ toString offset := rfl
  unfold Descriptor.limitedSql
  rw [hselected, hlimit]
  show mark ∉ ("SELECT " ++ "* FROM t" ++ _).toList
  simp only [String.toList_append, List.mem_append, not_or]
  have hsize := hnumeral size
  have hoffset := hnumeral offset
  rcases hmark with rfl | rfl
  · exact ⟨⟨by decide, by decide⟩, ⟨⟨by decide, hsize⟩, by decide⟩, hoffset⟩
  · exact ⟨⟨by decide, by decide⟩, ⟨⟨by decide, hsize⟩, by decide⟩, hoffset⟩

/-- A pager with so many records on a page, and a connection that counts some records and gives
none. -/
def onRecords (total size : Nat) : Pager Scripted :=
  let page : Response := { result := { columns := some ["a"] } }
  let count : Response := { result := { columns := some ["rowsCount"], rows := [[.int total]] } }
  { facade :=
      { builder :=
          { client := { connection := { responses := [count, page, page] } }, dialect := .sqlite } }
    perPage := size }

/-- The first of ten pages is selected, and its line is written last. -/
theorem select_onRecords {total size : Nat} (hsize : size < Numeral.tooLong)
    (hpages : pageCount total size = .ok 10) :
    let selecting : Action (Pager Scripted) Unit := select allRecords (.bool false) .null
    selecting.outcome (onRecords total size) =
        (pageDetail (.whole 1) ⟨total, 10, 1, 0⟩).map (fun _ => ()) ∧
      (selecting.after (onRecords total size)).figures = ⟨total, 10, 1, 0⟩ := by
  have hzero : 0 < Numeral.tooLong := Nat.zero_lt_of_lt hsize
  obtain ⟨limit, hlimit⟩ : ∃ limit, s!"{0},{size}" = limit := ⟨_, rfl⟩
  have hparse : Limit.parse (.text limit) = .ok ⟨some 0, size⟩ :=
    hlimit ▸ Limit.parse_pair_iff.mpr ⟨⟨hzero, hsize⟩, rfl⟩
  obtain ⟨sql, hlisted⟩ : ∃ sql, (onRecords total size).facade.outgoing
      (allRecords.page [(.text "limit", .text limit)]).composed = .ok (sql, none) := by
    have hplain := PreparedStatement.request_of_no_marks (Connection.parser Scripted) .qmark
      (not_mem_limitedRecords (.inl rfl) limit 0 size)
      (not_mem_limitedRecords (.inr rfl) limit 0 size)
    refine ⟨_, Facade.outgoing_eq_ok_iff.mpr ⟨_, [], ?_, hplain⟩⟩
    rw [composed_page_allRecords hparse]
    exact rendered_limitedRecords hparse
  let count : Exchange := ⟨"SELECT COUNT(*) AS rowsCount FROM t", none,
    { columns := some ["rowsCount"], rows := [[.int total]] }⟩
  let listed : Exchange := ⟨sql, none, { columns := some ["a"] }⟩
  obtain ⟨client, hexchanged⟩ : ∃ client,
      (onRecords total size).client.Exchanges [count, listed, listed] client :=
    ⟨_, .cons rfl (.cons rfl (.cons rfl (.nil _)))⟩
  have hwritten : pageLimit (.whole 1) size = .ok limit := by
    have hnone : ((0 : Nat) : Int) = ((PageNumber.Chosen.whole 1).number - 1) * size := by
      simp [PageNumber.Chosen.number]
    rw [(pageLimit_writes (fun _ h => by cases h) hnone).written ⟨hzero, hsize⟩, ← hlimit]
  let run : PageRun := ⟨[], total, 10, .whole 1, limit, count, listed, listed⟩
  have hcounted : (onRecords total size).facade.outgoing (counted allRecords [] "*" .sqlite) =
      .ok (count.sql, none) := rfl
  have hreports : count.Reports total := ⟨.int total, [], rfl, rfl⟩
  have hselects : run.Selects (onRecords total size) allRecords .null client :=
    ⟨rfl, ⟨"*", rfl, hcounted⟩, hreports, hpages, rfl, hwritten, hlisted, ⟨rfl, rfl⟩, hexchanged⟩
  have hquiet : ¬(onRecords total size).facade.Captures (.bool false) := by
    rintro (⟨mode, hmode, henabled⟩ | ⟨mode, hmode, -⟩ | hdefault)
    · cases hmode
      cases henabled
    · cases hmode
    · cases hdefault
  obtain ⟨houtcome, -, hfigures, -⟩ := select_of_selects named_allRecords
    ⟨fun columns _ => Facade.debugs_of_not_captures ⟨.off, rfl⟩ hquiet _,
      Facade.debugs_of_not_captures ⟨.off, rfl⟩ hquiet _⟩ hselects
  exact ⟨houtcome, hfigures⟩

/-- Ten pages of this size have too many records for their number to be written. -/
def longSize : Nat := Nat.pow 10 4299

theorem longSize_lt : longSize < Numeral.tooLong := by decide +kernel

theorem not_writable_tooLong : ¬Figures.Writable ⟨Numeral.tooLong, 10, 1, 0⟩ := by
  rintro ⟨-, -, -, htotal⟩
  rw [Numeral.isWritable_natCast] at htotal
  exact absurd (of_decide_eq_true htotal) (Nat.lt_irrefl _)

end Pager

end SqlToolkit
