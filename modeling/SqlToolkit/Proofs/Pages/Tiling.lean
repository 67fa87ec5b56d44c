import Mathlib.Data.List.Intervals
import SqlToolkit.Proofs.Number.CeilDiv
import SqlToolkit.Proofs.Pages.Figures
import SqlToolkit.Proofs.Pages.Source
import SqlToolkit.Proofs.Pages.Summary

/-!
# Pages tile the records

The number of pages is the exact ceiling of a quotient, though the quotient is rounded before, and
the offsets are multiples of the page size. So the windows of the pages follow each other without a
gap from the first record to the last, and the line about the results names the same positions,
counted from one.
-/

namespace SqlToolkit

open SqlToolkit.PageLinks

/-- Intervals of which each begins where the last one ends make up one interval. -/
theorem flatMap_Ico {ends : Nat → Nat} (h : Monotone ends) (count : Nat) :
    ((List.range' 1 count).flatMap fun step => List.Ico (ends (step - 1)) (ends step)) =
      List.Ico (ends 0) (ends count) := by
  induction count with
  | zero => exact (List.Ico.eq_nil_of_le (Nat.le_refl _)).symm
  | succ count ih =>
    rw [List.range'_1_concat, List.flatMap_append, ih, List.flatMap_singleton,
      Nat.add_sub_cancel_left, Nat.add_comm 1 count,
      List.Ico.append_consecutive (h (Nat.zero_le _)) (h (Nat.le_succ _))]

/-- A number up to `2 ^ 53` is written. -/
theorem Numeral.lt_of_le_two_pow {n : Nat} (h : n ≤ 2 ^ 53) : n < tooLong := by
  refine lt_tooLong (by decide : 16 ≤ maxDigits) ?_
  calc n ≤ 2 ^ 53 := h
    _ < Nat.pow 10 16 := by decide

namespace Pager

/-! ## Windows -/

/-- The positions, from zero, of the records that the limit of a page selects. -/
def window (perPage total page : Nat) : List Nat :=
  List.Ico ((page - 1) * perPage) (min ((page - 1) * perPage + perPage) total)

/-- The first result on a page, counted from one. -/
def firstResult (perPage page : Nat) : Nat := (page - 1) * perPage + 1

def lastResult (perPage total page : Nat) : Nat := min (page * perPage) total

section Windows

variable {perPage total page : Nat}

theorem mul_eq_offset_add (hlow : 1 ≤ page) :
    page * perPage = (page - 1) * perPage + perPage := by
  obtain ⟨before, rfl⟩ := Nat.exists_eq_add_of_le' hlow
  rw [Nat.add_sub_cancel, Nat.succ_mul]

/-- Fewer records stand before a page than there are. -/
theorem offset_lt (hsize : 0 < perPage) (hlow : 1 ≤ page) (hhigh : page ≤ total ⌈/⌉ perPage) :
    (page - 1) * perPage < total := by
  rw [Nat.mul_comm]
  exact Binary64.lt_of_lt_ceilDiv hsize (by omega)

/-- All records stand on the pages. -/
theorem total_le (hsize : 0 < perPage) (total : Nat) :
    total ≤ (total ⌈/⌉ perPage) * perPage := by
  rw [Nat.mul_comm]
  exact (ceilDiv_le_iff_le_mul hsize).mp (Nat.le_refl _)

/-- No window is empty, and each ends with the last result on its page. -/
theorem length_window (hsize : 0 < perPage) (hlow : 1 ≤ page)
    (hhigh : page ≤ total ⌈/⌉ perPage) :
    0 < (window perPage total page).length ∧
      (page - 1) * perPage + (window perPage total page).length =
        lastResult perPage total page := by
  have hoffset := offset_lt hsize hlow hhigh
  rw [window, List.Ico.length, lastResult, mul_eq_offset_add hlow]
  omega

theorem monotone_lastResult (perPage total : Nat) : Monotone (lastResult perPage total) :=
  fun _ _ h => min_le_min_right total (Nat.mul_le_mul_right perPage h)

/-- What stands before a page ends with the last result on the page before it. -/
theorem offset_eq_lastResult (hsize : 0 < perPage) (hlow : 1 ≤ page)
    (hhigh : page ≤ total ⌈/⌉ perPage) :
    (page - 1) * perPage = lastResult perPage total (page - 1) :=
  (Nat.min_eq_left (Nat.le_of_lt (offset_lt hsize hlow hhigh))).symm

theorem lastResult_last (hsize : 0 < perPage) (total : Nat) :
    lastResult perPage total (total ⌈/⌉ perPage) = total :=
  Nat.min_eq_right (total_le hsize total)

/-- The windows of the pages make up the positions of all records. -/
theorem flatMap_window (hsize : 0 < perPage) (total : Nat) :
    (List.range' 1 (total ⌈/⌉ perPage)).flatMap (window perPage total) = List.range total := by
  calc (List.range' 1 (total ⌈/⌉ perPage)).flatMap (window perPage total)
    _ = (List.range' 1 (total ⌈/⌉ perPage)).flatMap fun page =>
          List.Ico (lastResult perPage total (page - 1)) (lastResult perPage total page) := by
        refine List.flatMap_congr fun page hmem => ?_
        obtain ⟨hlow, hhigh⟩ := List.mem_range'_1.mp hmem
        rw [← offset_eq_lastResult hsize hlow (by omega), lastResult, mul_eq_offset_add hlow]
        rfl
    _ = List.Ico (lastResult perPage total 0) (lastResult perPage total (total ⌈/⌉ perPage)) :=
        flatMap_Ico (monotone_lastResult perPage total) _
    _ = List.range total := by
        rw [lastResult_last hsize, lastResult, Nat.zero_mul, Nat.zero_min, List.Ico.zero_bot]

/-- The results on the pages make up all results. -/
theorem flatMap_results (hsize : 0 < perPage) (total : Nat) :
    ((List.range' 1 (total ⌈/⌉ perPage)).flatMap fun page =>
        List.Ico (firstResult perPage page) (lastResult perPage total page + 1)) =
      List.Ico 1 (total + 1) := by
  calc ((List.range' 1 (total ⌈/⌉ perPage)).flatMap fun page =>
        List.Ico (firstResult perPage page) (lastResult perPage total page + 1))
    _ = (List.range' 1 (total ⌈/⌉ perPage)).flatMap fun page =>
          List.Ico (lastResult perPage total (page - 1) + 1)
            (lastResult perPage total page + 1) := by
        refine List.flatMap_congr fun page hmem => ?_
        obtain ⟨hlow, hhigh⟩ := List.mem_range'_1.mp hmem
        rw [firstResult, ← offset_eq_lastResult hsize hlow (by omega)]
    _ = List.Ico (lastResult perPage total 0 + 1)
          (lastResult perPage total (total ⌈/⌉ perPage) + 1) :=
        flatMap_Ico (fun _ _ h => Nat.succ_le_succ (monotone_lastResult perPage total h)) _
    _ = List.Ico 1 (total + 1) := by
        rw [lastResult_last hsize, lastResult, Nat.zero_mul, Nat.zero_min]

/-- The line about the results names the results on the page, in the form for one page and in that
for several. -/
theorem shownResults_eq (hsize : 0 < perPage) (hlow : 1 ≤ page)
    (hhigh : page ≤ total ⌈/⌉ perPage) :
    shownResults
        ⟨total, (total ⌈/⌉ perPage : Nat), page, (window perPage total page).length⟩ perPage =
      ((firstResult perPage page : Int), (lastResult perPage total page : Int)) := by
  obtain ⟨hlength, hends⟩ := length_window hsize hlow hhigh
  unfold shownResults firstResult
  dsimp only
  split
  · have hbefore : (perPage : Int) * ((page : Int) - 1) = ((page - 1) * perPage : Nat) := by
      rw [Int.natCast_mul, Int.natCast_sub hlow, Int.mul_comm]
      rfl
    rw [hbefore, ← hends]
    refine Prod.ext rfl ?_
    dsimp only
    omega
  · next hsingle =>
    have hpage : page = total ⌈/⌉ perPage := by omega
    have hfirst : page = 1 := by omega
    rw [hpage, lastResult_last hsize, ← hpage, hfirst, Nat.sub_self, Nat.zero_mul]
    rfl

end Windows

/-! ## Pages of a connection -/

variable {σ : Type} [Connection σ]

/-- The connection answers as one does that has these records: it reports how many there are, and
gives the records that the limit of the page selects. -/
structure AnswersPage (pager : Pager σ) (selection : Facade.Selection)
    (records : List (List Value)) (page : Nat) (count listed again : Exchange)
    (final : Client σ) : Prop where
  counts : Counts pager.facade selection count
  reports : count.Reports records.length
  lists : Lists pager.facade selection ((page - 1) * pager.perPage) pager.perPage listed
  repeats : again.Repeats listed
  rows : again.rows = (records.drop ((page - 1) * pager.perPage)).take pager.perPage
  exchanged : pager.client.Exchanges [count, listed, again] final

variable {pager : Pager σ} {selection : Facade.Selection} {debug requested : Value}
  {records : List (List Value)} {page : Nat} {count listed again : Exchange} {final : Client σ}

theorem pageCount_eq {total perPage : Nat} (hsize : 1 ≤ perPage) (hmax : total ≤ 2 ^ 53)
    (hsizeMax : perPage ≤ 2 ^ 53) :
    pageCount total perPage = .ok ((total ⌈/⌉ perPage : Nat) : Int) := by
  unfold pageCount
  rw [Binary64.ceilDiv?_eq hsize hmax hsizeMax]

theorem length_rows (h : pager.AnswersPage selection records page count listed again final) :
    again.rows.length = (window pager.perPage records.length page).length := by
  rw [h.rows, window, List.Ico.length, List.length_take, List.length_drop]
  omega

theorem outgoing_of_lists {facade : Facade σ} {offset size : Nat} {exchange : Exchange}
    (h : Lists facade selection offset size exchange) :
    ∃ entries, Builder.settingEntries selection.parameters = .ok entries ∧
      facade.outgoing (selection.page (Entries.insert (.text "limit") (.text s!"{offset},{size}")
        entries)).composed = .ok (exchange.sql, exchange.values) := by
  obtain ⟨entries, descriptor, sql, placeholders, hentries, hd, hrendered, -, hrequest⟩ := h
  refine ⟨entries, hentries, Facade.outgoing_eq_ok_iff.mpr ⟨sql, placeholders, ?_, hrequest⟩⟩
  rw [hd]
  exact hrendered

/-- No more pages than records. -/
theorem ceilDiv_le_self {total perPage : Nat} (hsize : 1 ≤ perPage) :
    total ⌈/⌉ perPage ≤ total :=
  (ceilDiv_le_iff_le_mul hsize).mpr (Nat.le_mul_of_pos_left total hsize)

theorem writable_figures {total perPage page : Nat} (hsize : 1 ≤ perPage) (hmax : total ≤ 2 ^ 53)
    (hhigh : page ≤ total ⌈/⌉ perPage) :
    Figures.Writable ⟨total, (total ⌈/⌉ perPage : Nat), page,
      (window perPage total page).length⟩ := by
  have hpages := @ceilDiv_le_self total perPage hsize
  have hwritable {n : Nat} (h : n ≤ total) : Numeral.isWritable (n : Int) = true :=
    Numeral.isWritable_of_lt (Int.natCast_nonneg n)
      (Int.ofNat_lt.mpr (Numeral.lt_of_le_two_pow (Nat.le_trans h hmax)))
  have hlength : (window perPage total page).length ≤ total := by
    rw [window, List.Ico.length]
    omega
  exact ⟨hwritable (Nat.le_trans hhigh hpages), hwritable hpages, hwritable hlength,
    hwritable (Nat.le_refl total)⟩

/-- A page that is asked for is selected if it is answered. -/
theorem selects_of_answersPage (hsize : 1 ≤ pager.perPage) (hsizeMax : pager.perPage ≤ 2 ^ 53)
    (hmax : records.length ≤ 2 ^ 53) (hlow : 1 ≤ page)
    (hhigh : page ≤ records.length ⌈/⌉ pager.perPage)
    (hasked : PageNumber.asked? pager.forcedPage requested = some (page : Int))
    (h : pager.AnswersPage selection records page count listed again final) :
    ∃ run : PageRun, run.Selects pager selection requested final ∧
      run.figures = ⟨records.length, (records.length ⌈/⌉ pager.perPage : Nat), page,
        (window pager.perPage records.length page).length⟩ ∧
      ∃ line, pageDetail run.page run.figures = .ok line := by
  obtain ⟨entries, columns, hentries, hcolumns, hcounts⟩ := h.counts
  obtain ⟨given, hgiven, hlisted⟩ := outgoing_of_lists h.lists
  cases hgiven.symm.trans hentries
  obtain ⟨chosen, hchosen, hnearest⟩ :=
    PageNumber.choose_of_asked hasked (records.length ⌈/⌉ pager.perPage : Nat)
  have hnumber : chosen.number = page :=
    hnearest.number.trans (PageNumber.clamp_eq_self (by omega) (by omega))
  have hoffset : (((page - 1) * pager.perPage : Nat) : Int) =
      (chosen.number - 1) * pager.perPage := by
    rw [hnumber, Int.natCast_mul, Int.natCast_sub hlow]
    rfl
  have hlimit : pageLimit chosen pager.perPage =
      .ok s!"{(page - 1) * pager.perPage},{pager.perPage}" := by
    have hbefore := offset_lt hsize hlow hhigh
    exact (pageLimit_writes hnearest.whole hoffset).written
      ⟨Numeral.lt_of_le_two_pow (by omega), Numeral.lt_of_le_two_pow hsizeMax⟩
  let run : PageRun := ⟨entries, records.length, (records.length ⌈/⌉ pager.perPage : Nat), chosen,
    s!"{(page - 1) * pager.perPage},{pager.perPage}", count, listed, again⟩
  have hfigures : run.figures = ⟨records.length, (records.length ⌈/⌉ pager.perPage : Nat), page,
      (window pager.perPage records.length page).length⟩ := by
    rw [PageRun.figures, ← hnumber, ← length_rows h]
  obtain ⟨line, hdetail⟩ := @pageDetail_writes chosen page run.figures hnearest rfl
  refine ⟨run, ⟨hentries, ⟨columns, hcolumns, hcounts⟩, h.reports,
    pageCount_eq hsize hmax hsizeMax, hchosen, hlimit, hlisted, h.repeats, h.exchanged⟩, hfigures,
    line, hdetail.written ?_⟩
  rw [hfigures]
  exact writable_figures hsize hmax hhigh

/-- A page shows its window, and what is printed under it ends with the line about the results on
it. It is printed for every URL if the options have their kinds. -/
structure ShowsWindow (pager shown : Pager σ) (total page : Nat) : Prop where
  figures : shown.figures = ⟨total, (total ⌈/⌉ pager.perPage : Nat), page,
    (window pager.perPage total page).length⟩
  line : ∀ url written, shown.links url = .ok written → ∃ list, written =
    list ++ resultsLine pager.options (firstResult pager.perPage page)
      (lastResult pager.perPage total page) total ++ "</div>"
  printed : pager.options.Typed → ∀ url, ∃ written, shown.links url = .ok written

/-- **Pages tile the records.** The windows of the pages make up all records and the results on
them all results, and no window is empty. A page that is asked for and answered is selected, has
its window, and says which results those are. -/
theorem pages_tile_records {perPage : Nat} (hsize : 1 ≤ perPage) (hsizeMax : perPage ≤ 2 ^ 53)
    (records : List (List Value)) (hsome : 1 ≤ records.length) (hmax : records.length ≤ 2 ^ 53) :
    let total := records.length
    let pages := List.range' 1 (total ⌈/⌉ perPage)
    pages.flatMap (window perPage total) = List.range total ∧
      (pages.flatMap fun page =>
        List.Ico (firstResult perPage page) (lastResult perPage total page + 1)) =
          List.Ico 1 (total + 1) ∧
      ∀ page ∈ pages, window perPage total page ≠ [] ∧
        ∀ (pager : Pager σ) (selection : Facade.Selection) (debug requested : Value)
          (count listed again : Exchange) (final : Client σ),
          pager.perPage = perPage → selection.Named →
          selection.Debugs pager.facade debug →
          PageNumber.asked? pager.forcedPage requested = some (page : Int) →
          pager.AnswersPage selection records page count listed again final →
          let selecting : Action (Pager σ) Unit := select selection debug requested
          selecting.outcome pager = .ok () ∧ (selecting.after pager).client = final ∧
            pager.ShowsWindow (selecting.after pager) total page := by
  intro total pages
  refine ⟨flatMap_window hsize total, flatMap_results hsize total, fun page hpage => ?_⟩
  obtain ⟨hlow, hhigh⟩ := List.mem_range'_1.mp hpage
  replace hhigh : page ≤ total ⌈/⌉ perPage := by omega
  refine ⟨List.ne_nil_of_length_pos (length_window hsize hlow hhigh).1, ?_⟩
  rintro pager selection debug requested count listed again final rfl hnamed hdebug hasked hanswers
  obtain ⟨run, hselects, hrun, line, hline⟩ :=
    selects_of_answersPage hsize hsizeMax hmax hlow hhigh hasked hanswers
  have hdebugs : Debugs pager.facade debug selection run :=
    ⟨fun _ _ => debugs_of_selection hdebug fun _ _ => source_of_counted,
      debugs_of_selection hdebug fun _ _ => source_of_page⟩
  obtain ⟨houtcome, hclient, hfigures, hperPage, hoptions⟩ :=
    select_of_selects hnamed hdebugs hselects
  rw [hline] at houtcome
  have hnames : run.figures.Names pager.perPage (firstResult pager.perPage page)
      (lastResult pager.perPage total page) total := by
    have hshort {n : Nat} (h : n ≤ total) : n < Numeral.tooLong :=
      Numeral.lt_of_le_two_pow (Nat.le_trans h hmax)
    rw [hrun]
    exact ⟨shownResults_eq hsize hlow hhigh, hsome, rfl, Int.ofNat_le.mpr hlow,
      Int.ofNat_le.mpr hhigh, hshort (offset_lt hsize hlow hhigh),
      hshort (Nat.min_le_right _ _), hshort (Nat.le_refl _),
      Int.ofNat_lt.mpr (hshort (ceilDiv_le_self hsize))⟩
  have hlinks (url : String) : ((select selection debug requested).after pager).links url =
      render pager.options run.figures pager.perPage url := by
    rw [links, hfigures, hperPage, hoptions]
    rfl
  refine ⟨houtcome, hclient, hfigures.trans hrun, fun url written hwritten => ?_,
    fun htyped url => ?_⟩
  · rw [hlinks] at hwritten
    exact resultsLine_of_render hnames hwritten
  · rw [hlinks]
    exact render_returns htyped hnames url

/-- The records from which the twelve are counted and the second five are given. -/
def oneToTwelve : List (List Value) := (List.range 12).map fun before => [.int (before + 1)]

def countOfTwelve : Exchange :=
  ⟨"SELECT COUNT(*) AS rowsCount FROM t", none,
    { columns := some ["rowsCount"], rows := [[.int 12]] }⟩

def sixToTen : Exchange :=
  ⟨"SELECT * FROM t LIMIT 5 OFFSET 5", none,
    { columns := some ["a"], rows := [[.int 6], [.int 7], [.int 8], [.int 9], [.int 10]] }⟩

theorem debugs_allRecords : allRecords.Debugs onTwelveRecords.facade (.bool false) := by
  refine ⟨⟨.off, rfl⟩, fun _ segment values h => ?_⟩
  cases h
  exact nofun

theorem pages_tile_records_sixToTen :
    window 5 12 2 = [5, 6, 7, 8, 9] ∧ firstResult 5 2 = 6 ∧ lastResult 5 12 2 = 10 ∧
      ∃ final, onTwelveRecords.AnswersPage allRecords oneToTwelve 2 countOfTwelve sixToTen sixToTen
          final ∧
        let selecting : Action (Pager Scripted) Unit :=
          select allRecords (.bool false) (.text "2")
        selecting.outcome onTwelveRecords = .ok () ∧
          (selecting.after onTwelveRecords).client = final ∧
          onTwelveRecords.ShowsWindow (selecting.after onTwelveRecords) 12 2 := by
  obtain ⟨final, hexchanged⟩ : ∃ final,
      onTwelveRecords.client.Exchanges [countOfTwelve, sixToTen, sixToTen] final :=
    ⟨_, .cons rfl (.cons rfl (.cons rfl (.nil _)))⟩
  have hanswers : onTwelveRecords.AnswersPage allRecords oneToTwelve 2 countOfTwelve sixToTen
      sixToTen final :=
    ⟨⟨[], "*", rfl, rfl, rfl⟩, ⟨.int 12, [], rfl, rfl⟩, ⟨[], _, _, _, rfl, rfl, rfl, rfl, rfl⟩,
      ⟨rfl, rfl⟩, rfl, hexchanged⟩
  obtain ⟨-, -, hpages⟩ := pages_tile_records (σ := Scripted) (by decide : 1 ≤ 5) (by decide)
    oneToTwelve (by decide) (by decide)
  have htwo : 2 ∈ List.range' 1 (oneToTwelve.length ⌈/⌉ 5) := by decide
  exact ⟨by decide, rfl, rfl, final, hanswers, (hpages 2 htwo).2 onTwelveRecords allRecords
    (.bool false) (.text "2") countOfTwelve sixToTen sixToTen final rfl named_allRecords
    debugs_allRecords (by decide) hanswers⟩

end Pager

end SqlToolkit
