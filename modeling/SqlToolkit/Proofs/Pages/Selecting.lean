import SqlToolkit.Proofs.Pages.Sending

/-!
# How a page is selected

A selection of a page is three exchanges: its records are counted, the records of the page are
fetched, and the same statement is run again to count those. Once the connection has answered all
three, the figures are set; whatever fails before that leaves those of an empty result. Only the
line about the figures is written after them.
-/

namespace SqlToolkit

open SqlToolkit.Action (Keeps)
open SqlToolkit.PageLinks

variable {σ : Type}

/-- The number in the first column of the first row that was answered. -/
def Exchange.Reports (exchange : Exchange) (total : Int) : Prop :=
  ∃ first rest, exchange.firstRow = .tuple (first :: rest) ∧ first.toInteger = .ok total

namespace Pager

/-! ## Steps on the facade -/

theorem after_onFacade {α : Type} (action : Action (Facade σ) α) (pager : Pager σ) :
    (onFacade action).after pager = { pager with facade := action.after pager.facade } :=
  Action.after_on facadePart action pager

theorem outcome_onFacade {α : Type} (action : Action (Facade σ) α) (pager : Pager σ) :
    (onFacade action).outcome pager = action.outcome pager.facade :=
  Action.outcome_on facadePart action pager

theorem after_relabelled {α : Type} (label : Fault → Fault) (action : Action (Pager σ) α)
    (pager : Pager σ) : (relabelled label action).after pager = action.after pager := by
  unfold relabelled
  rw [Action.after_bind_ok (Action.outcome_attempt _ _), Action.attempt_after]
  cases action.outcome pager <;> rfl

/-- Giving faults other names makes no success of them. -/
theorem outcome_relabelled_iff {α : Type} (label : Fault → Fault) {action : Action (Pager σ) α}
    {pager : Pager σ} {result : α} :
    (relabelled label action).outcome pager = .ok result ↔
      action.outcome pager = .ok result := by
  unfold relabelled
  rw [Action.outcome_bind_ok (Action.outcome_attempt _ _), Action.attempt_after]
  cases action.outcome pager with
  | ok given => exact Iff.rfl
  | error fault => exact iff_of_false (fun h => by cases h) fun h => by cases h

def besides (pager : Pager σ) : PageOptions × Nat × Value × Figures × Value :=
  (pager.options, pager.perPage, pager.forcedPage, pager.figures, pager.shownPage)

theorem onFacade_leavesBesides {α : Type} (action : Action (Facade σ) α) :
    Keeps Eq besides (onFacade action) :=
  fun pager => by rw [after_onFacade]; rfl

theorem relabelled_leavesBesides {α : Type} {label : Fault → Fault} {action : Action (Pager σ) α}
    (h : Keeps Eq besides action) : Keeps Eq besides (relabelled label action) :=
  fun pager => by rw [after_relabelled]; exact h pager

variable [Connection σ] {selection : Facade.Selection} {entries : Value.Entries}
  {debug requested : Value} {pager : Pager σ}

/-! ## Counting -/

/-- The records were counted by one exchange. -/
structure Counted (facade : Facade σ) (selection : Facade.Selection) (entries : Value.Entries)
    (total : Int) (exchange : Exchange) (next : Facade σ) : Prop where
  outgoing : ∃ columns, columnText selection.fields = .ok columns ∧
    facade.outgoing (counted selection entries columns facade.builder.dialect) =
      .ok (exchange.sql, exchange.values)
  exchanged : facade.client.Exchanges [exchange] next.client
  dialect : next.builder.dialect = facade.builder.dialect
  reports : exchange.Reports total

theorem count_leavesBesides (selection : Facade.Selection) (entries : Value.Entries)
    (debug : Value) :
    Keeps Eq besides (count selection entries debug : Action (Pager σ) Int) := by
  refine (Keeps.ofAttempt _).bind fun columns =>
    (relabelled_leavesBesides (onFacade_leavesBesides _)).bind fun row => ?_
  split
  · exact Keeps.ofAttempt _
  · exact Keeps.throw _

theorem counted_of_count {total : Int}
    (h : (count selection entries debug).outcome pager = .ok total) :
    ∃ exchange, Counted pager.facade selection entries total exchange
      ((count selection entries debug).after pager).facade := by
  unfold count at h ⊢
  obtain ⟨columns, hcolumns, h⟩ := Action.of_outcome_bind_ok h
  rw [Action.after_bind_ok hcolumns]
  rw [Action.ofAttempt_after] at h ⊢
  rw [Action.outcome_ofAttempt] at hcolumns
  obtain ⟨row, hrow, h⟩ := Action.of_outcome_bind_ok h
  rw [Action.after_bind_ok hrow]
  rw [outcome_relabelled_iff, outcome_onFacade] at hrow
  obtain ⟨exchange, hfetches⟩ := fetches_of_countRow hrow
  rw [after_relabelled, after_onFacade] at h ⊢
  refine ⟨exchange, ?_⟩
  split at h
  · next first rest =>
    rw [Action.outcome_ofAttempt] at h
    rw [Action.ofAttempt_after]
    exact ⟨⟨columns, hcolumns, hfetches.outgoing⟩, hfetches.exchanged, hfetches.dialect,
      first, rest, hfetches.row.symm, h⟩
  · cases h

theorem count_of_answered {columns : String} {exchange : Exchange} {final : Client σ} {total : Int}
    (hdebug : pager.facade.Debugs debug
      (counted selection entries columns pager.facade.builder.dialect))
    (hcolumns : columnText selection.fields = .ok columns)
    (hout : pager.facade.outgoing (counted selection entries columns pager.facade.builder.dialect) =
      .ok (exchange.sql, exchange.values))
    (hexchange : pager.client.Exchanges [exchange] final) (hreports : exchange.Reports total) :
    let counting := count selection entries debug
    counting.outcome pager = .ok total ∧ (counting.after pager).client = final ∧
      pager.facade.Follows (counting.after pager).facade := by
  intro counting
  obtain ⟨hrow, hfinal, hfollows⟩ := countRow_of_answered hdebug hout hexchange
  obtain ⟨first, rest, hfirst, htotal⟩ := hreports
  have hcolumn : (Action.ofAttempt (columnText selection.fields)).outcome pager = .ok columns := by
    rw [Action.outcome_ofAttempt, hcolumns]
  have hcounted : (relabelled .countFailed (onFacade (countRow selection entries columns
      debug))).outcome pager = .ok exchange.firstRow := by
    rw [outcome_relabelled_iff, outcome_onFacade]
    exact hrow
  simp only [counting]
  unfold count
  rw [Action.outcome_bind_ok hcolumn, Action.after_bind_ok hcolumn, Action.ofAttempt_after,
    Action.outcome_bind_ok hcounted, Action.after_bind_ok hcounted, hfirst, after_relabelled,
    after_onFacade]
  dsimp only
  rw [Action.outcome_ofAttempt, Action.ofAttempt_after]
  exact ⟨htotal, hfinal, hfollows⟩

end Pager

/-! ## A whole selection -/

/-- What was worked out for a page, and the three exchanges that were made for it. -/
structure PageRun where
  entries : Value.Entries
  total : Int
  pages : Int
  page : PageNumber.Chosen
  limit : String
  /-- The records were counted. -/
  count : Exchange
  /-- Those of the page were fetched. -/
  listed : Exchange
  /-- The same statement was run again. -/
  again : Exchange

namespace PageRun

open Pager (columnText counted pageCount pageLimit)

def limited (run : PageRun) : Value.Entries :=
  Entries.insert (.text "limit") (.text run.limit) run.entries

def figures (run : PageRun) : Figures :=
  ⟨run.total, run.pages, run.page.number, run.again.rows.length⟩

variable [Connection σ]

/-- The run selects a page of a selection from a pager on, and leads to a client. -/
structure Selects (run : PageRun) (pager : Pager σ) (selection : Facade.Selection)
    (requested : Value) (final : Client σ) : Prop where
  entries : Builder.settingEntries selection.parameters = .ok run.entries
  counted : ∃ columns, columnText selection.fields = .ok columns ∧
    pager.facade.outgoing
        (counted selection run.entries columns pager.facade.builder.dialect) =
      .ok (run.count.sql, run.count.values)
  reports : run.count.Reports run.total
  pages : pageCount run.total pager.perPage = .ok run.pages
  page : PageNumber.choose pager.forcedPage requested run.pages = .ok run.page
  limit : pageLimit run.page pager.perPage = .ok run.limit
  listed : pager.facade.outgoing (selection.page run.limited).composed =
    .ok (run.listed.sql, run.listed.values)
  repeats : run.again.Repeats run.listed
  exchanged : pager.client.Exchanges [run.count, run.listed, run.again] final

end PageRun

namespace Pager

section Runs

variable [Connection σ] {selection : Facade.Selection} {debug requested : Value} {pager : Pager σ}

/-- Everything that a selection does between taking the last figures back and setting new ones. The
result are the new figures and the page that was chosen. -/
def measure (selection : Facade.Selection) (debug requested : Value) :
    Action (Pager σ) (Figures × PageNumber.Chosen) := do
  let entries ← Action.ofAttempt (Builder.settingEntries selection.parameters)
  let total ← count selection entries debug
  let pager ← get
  let pages ← Action.ofAttempt (pageCount total pager.perPage)
  let page ← Action.ofAttempt (PageNumber.choose pager.forcedPage requested pages)
  let limit ← Action.ofAttempt (pageLimit page pager.perPage)
  let fetched ← relabelled .pageFailed (onFacade
    (fetchPage selection (Entries.insert (.text "limit") (.text limit) entries) debug))
  return (⟨total, pages, page.number, fetched⟩, page)

def reset (pager : Pager σ) : Pager σ := { pager with figures := {}, shownPage := .int 1 }

theorem select_eq (selection : Facade.Selection) (debug requested : Value) :
    (select selection debug requested : Action (Pager σ) Unit) = (do
      modify reset
      let (figures, page) ← measure selection debug requested
      modify fun pager => { pager with figures, shownPage := page.shown }
      let _ ← Action.ofAttempt (pageDetail page figures)) := by
  unfold select measure
  simp only [bind_assoc, pure_bind]
  rfl

/-- Until the end only the facade changes. -/
theorem measure_leavesBesides (selection : Facade.Selection) (debug requested : Value) :
    Keeps Eq besides
      (measure selection debug requested : Action (Pager σ) (Figures × PageNumber.Chosen)) :=
  (Keeps.ofAttempt _).bind fun _ => (count_leavesBesides _ _ _).bind fun _ =>
    Keeps.get.bind fun _ => (Keeps.ofAttempt _).bind fun _ => (Keeps.ofAttempt _).bind fun _ =>
      (Keeps.ofAttempt _).bind fun _ =>
        (relabelled_leavesBesides (onFacade_leavesBesides _)).bind fun _ => Keeps.pure _

omit [Connection σ] in
theorem pageLimit_ne_empty {page : PageNumber.Chosen} {perPage : Nat} {limit : String}
    (h : pageLimit page perPage = .ok limit) : limit ≠ "" := by
  obtain ⟨offset, -, h⟩ := Action.of_attempts_ok h
  obtain ⟨size, -, h⟩ := Action.of_attempts_ok h
  cases h
  intro hempty
  have hchars := congrArg String.toList hempty
  simp only [String.toList_append] at hchars
  exact absurd (List.append_eq_nil_iff.mp (List.append_eq_nil_iff.mp hchars).1).2 (by decide)

/-- What a selection measures was answered in three exchanges. -/
theorem selects_of_measure (hnamed : selection.Named) {measured : Figures × PageNumber.Chosen}
    (h : (measure selection debug requested).outcome pager = .ok measured) :
    ∃ run : PageRun, run.Selects pager selection requested
        ((measure selection debug requested).after pager).client ∧
      measured = (run.figures, run.page) := by
  unfold measure at h ⊢
  obtain ⟨entries, hentries⟩ := Action.of_ofAttempt_bind h
  rw [hentries, Action.ofAttempt_ok_bind] at h ⊢
  obtain ⟨total, htotal, h⟩ := Action.of_outcome_bind_ok h
  obtain ⟨count, hcounted⟩ := counted_of_count htotal
  rw [Action.after_bind_ok htotal, Action.after_get_bind]
  have hbesides := count_leavesBesides selection entries debug pager
  -- only the facade is another one after the count
  generalize (Pager.count selection entries debug).after pager = middle at *
  rw [Action.outcome_get_bind] at h
  obtain ⟨pages, hpages⟩ := Action.of_ofAttempt_bind h
  rw [hpages, Action.ofAttempt_ok_bind] at h ⊢
  obtain ⟨page, hpage⟩ := Action.of_ofAttempt_bind h
  rw [hpage, Action.ofAttempt_ok_bind] at h ⊢
  obtain ⟨limit, hwritten⟩ := Action.of_ofAttempt_bind h
  rw [hwritten, Action.ofAttempt_ok_bind] at h ⊢
  obtain ⟨fetched, hfetched, h⟩ := Action.of_outcome_bind_ok h
  rw [Action.after_bind_ok hfetched, Action.after_pure, after_relabelled, after_onFacade]
  rw [outcome_relabelled_iff, outcome_onFacade] at hfetched
  cases h
  obtain ⟨-, hperPage, hforced, -⟩ := by simpa only [besides, Prod.mk.injEq] using hbesides
  rw [← hperPage] at hpages hwritten
  rw [← hforced] at hpage
  obtain ⟨listed, again, houtgoing, hexchanged, hrepeats, hlength⟩ := fetched_of_fetchPage
    (hasLimit_page hnamed hentries (pageLimit_ne_empty hwritten)) hfetched
  rw [Facade.outgoing_congr hcounted.dialect hcounted.exchanged.paramstyle_eq] at houtgoing
  refine ⟨⟨entries, total, pages, page, limit, count, listed, again⟩,
    ⟨hentries, hcounted.outgoing, hcounted.reports, hpages, hpage, hwritten, houtgoing, hrepeats,
      hcounted.exchanged.append hexchanged⟩, ?_⟩
  rw [hlength]
  rfl

/-- The debug mode of a selection allows for both statements of a page. -/
structure Debugs (facade : Facade σ) (debug : Value) (selection : Facade.Selection)
    (run : PageRun) : Prop where
  counting : ∀ columns, columnText selection.fields = .ok columns →
    facade.Debugs debug (counted selection run.entries columns facade.builder.dialect)
  listing : facade.Debugs debug (selection.page run.limited).composed

/-- A selection measures its page if the three exchanges are answered. -/
theorem measure_of_selects (hnamed : selection.Named) {run : PageRun} {final : Client σ}
    (hdebug : Debugs pager.facade debug selection run)
    (h : run.Selects pager selection requested final) :
    (measure selection debug requested).outcome pager = .ok (run.figures, run.page) ∧
      ((measure selection debug requested).after pager).client = final := by
  obtain ⟨columns, hcolumns, hcounts⟩ := h.counted
  obtain ⟨counted, hcount, hpage⟩ :=
    (Client.exchanges_append_iff [run.count] [run.listed, run.again]).mp h.exchanged
  obtain ⟨htotal, hclient, hfollows⟩ :=
    count_of_answered (hdebug.counting columns hcolumns) hcolumns hcounts hcount h.reports
  unfold measure
  rw [h.entries, Action.ofAttempt_ok_bind, Action.outcome_bind_ok htotal,
    Action.after_bind_ok htotal]
  have hbesides := count_leavesBesides selection run.entries debug pager
  generalize (Pager.count selection run.entries debug).after pager = middle at *
  obtain ⟨-, hperPage, hforced, -⟩ := by simpa only [besides, Prod.mk.injEq] using hbesides
  rw [Action.outcome_get_bind, Action.after_get_bind, ← hperPage, ← hforced, h.pages,
    Action.ofAttempt_ok_bind, h.page, Action.ofAttempt_ok_bind, h.limit, Action.ofAttempt_ok_bind]
  have hlisted := h.listed
  rw [← Facade.outgoing_congr hfollows.dialect
    ((congrArg Client.paramstyle hclient).trans hcount.paramstyle_eq)] at hlisted
  obtain ⟨hfetched, hfinal⟩ := fetchPage_of_answered
    (hasLimit_page hnamed h.entries (pageLimit_ne_empty h.limit))
    (hfollows.debugs hdebug.listing) hlisted h.repeats (hclient.symm ▸ hpage)
  rw [← outcome_onFacade, ← outcome_relabelled_iff .pageFailed] at hfetched
  refine ⟨(Action.outcome_bind_ok hfetched).trans rfl, ?_⟩
  rw [Action.after_bind_ok hfetched, Action.after_pure, after_relabelled, after_onFacade]
  exact hfinal

/-! ## The figures -/

/-- What a selection ends with after its page was measured. -/
theorem select_of_measured {measured : Figures × PageNumber.Chosen}
    (h : (measure selection debug requested).outcome pager.reset = .ok measured) :
    let final := (select selection debug requested).after pager
    (select selection debug requested).outcome pager =
        (pageDetail measured.2 measured.1).map (fun _ => ()) ∧
      final.figures = measured.1 ∧ final.shownPage = measured.2.shown ∧
      final.facade = ((measure selection debug requested).after pager.reset).facade ∧
      final.perPage = pager.perPage ∧ final.options = pager.options := by
  have hbesides := measure_leavesBesides selection debug requested pager.reset
  obtain ⟨hoptions, hperPage, -⟩ := by simpa only [besides, Prod.mk.injEq] using hbesides
  have hends : select selection debug requested pager = (do
      let _ ← Action.ofAttempt (pageDetail measured.2 measured.1) : Action (Pager σ) Unit)
        { (measure selection debug requested).after pager.reset with
          figures := measured.1, shownPage := measured.2.shown } := by
    rw [select_eq, Action.bind_of_ok (Action.outcome_modify _ _), Action.after_modify,
      Action.bind_of_ok h]
    exact Action.bind_of_ok (Action.outcome_modify _ _)
  dsimp only
  rw [Action.outcome_congr hends, Action.after_congr hends, Action.after_discard,
    Action.ofAttempt_after]
  refine ⟨?_, rfl, rfl, rfl, hperPage.symm, hoptions.symm⟩
  cases pageDetail measured.2 measured.1 <;> rfl

/-- A selection ends after its three exchanges or before them, without figures. -/
theorem select_ends (hnamed : selection.Named) (debug requested : Value) (pager : Pager σ) :
    let final := (select selection debug requested).after pager
    (∃ fault, (select selection debug requested).outcome pager = .error fault ∧
      final.figures = {} ∧ final.shownPage = .int 1) ∨
    ∃ run : PageRun, run.Selects pager selection requested final.client ∧
      final.figures = run.figures ∧ final.shownPage = run.page.shown ∧
      (select selection debug requested).outcome pager =
        (pageDetail run.page run.figures).map (fun _ => ()) := by
  intro final
  cases hmeasured : (measure selection debug requested).outcome pager.reset with
  | error fault =>
    refine .inl ⟨fault, ?_⟩
    have hbesides := measure_leavesBesides selection debug requested pager.reset
    simp only [besides, Prod.mk.injEq] at hbesides
    simp only [final]
    rw [select_eq, Action.outcome_bind_ok (Action.outcome_modify _ _),
      Action.after_bind_ok (Action.outcome_modify _ _), Action.after_modify,
      Action.outcome_bind_error hmeasured, Action.after_bind_error hmeasured]
    exact ⟨rfl, hbesides.2.2.2.1.symm, hbesides.2.2.2.2.symm⟩
  | ok measured =>
    obtain ⟨run, hselects, rfl⟩ := selects_of_measure hnamed hmeasured
    obtain ⟨houtcome, hfigures, hshown, hfacade, -⟩ := select_of_measured hmeasured
    refine .inr ⟨run, ?_, hfigures, hshown, houtcome⟩
    rw [show final.client = _ from congrArg Facade.client hfacade]
    exact ⟨hselects.entries, hselects.counted, hselects.reports, hselects.pages, hselects.page,
      hselects.limit, hselects.listed, hselects.repeats, hselects.exchanged⟩

theorem select_of_selects (hnamed : selection.Named) {run : PageRun} {client : Client σ}
    (hdebug : Debugs pager.facade debug selection run)
    (h : run.Selects pager selection requested client) :
    let final := (select selection debug requested).after pager
    (select selection debug requested).outcome pager =
        (pageDetail run.page run.figures).map (fun _ => ()) ∧
      final.client = client ∧ final.figures = run.figures ∧ final.perPage = pager.perPage ∧
      final.options = pager.options := by
  have hreset : run.Selects pager.reset selection requested client :=
    ⟨h.entries, h.counted, h.reports, h.pages, h.page, h.limit, h.listed, h.repeats, h.exchanged⟩
  have hdebug : Debugs pager.reset.facade debug selection run := hdebug
  obtain ⟨hmeasured, hclient⟩ := measure_of_selects hnamed hdebug hreset
  obtain ⟨houtcome, hfigures, -, hfacade, hperPage, hoptions⟩ := select_of_measured hmeasured
  exact ⟨houtcome, (congrArg Facade.client hfacade).trans hclient, hfigures, hperPage, hoptions⟩

end Runs

end Pager

end SqlToolkit
