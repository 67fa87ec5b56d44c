import SqlToolkit.Proofs.Builder.Statements
import SqlToolkit.Proofs.Condition.Freshness
import SqlToolkit.Proofs.Pages.Counting
import SqlToolkit.Proofs.Pages.Source

/-!
# Where the records of a page come from

The statement that counts records and the one that fetches those of a page are written in different
ways: the first one lists a count, or counts the rows of a statement inside it, which is executed as
raw SQL with the values copied. Still both are written around one text, which says where the records
come from and under which condition, and both bind the values of that condition, under the same
names. Only the statement of the page is ordered and limited.
-/

namespace SqlToolkit

open SqlToolkit.Connection (answersTo)

namespace Descriptor

variable {descriptor : Descriptor}

/-- What is written of it is written around the source. -/
theorem selected_eq (descriptor : Descriptor) :
    descriptor.selected =
      Query.distinctWord descriptor.parameters.selectDistinct.truthy ++ descriptor.fields ++
        (" FROM " ++ descriptor.source) ++
        clauseText "GROUP BY" descriptor.parameters.groupBy ++
        clauseText "ORDER BY" descriptor.parameters.orderBy := by
  unfold selected distinctText selectBody tailText source Query.distinctWord
  simp only [String.append_assoc]
  rfl

end Descriptor

namespace Facade

variable {σ : Type} [Connection σ] {compose : Action (Builder σ) Unit}
  {composed : Attempt Descriptor} {debug : Value} {facade : Facade σ}

/-- A prepared call sends what its statement sends on the connection of the facade. -/
theorem request_of_prepare (hcompose : Builder.Composes compose composed)
    (h : (prepare compose debug).outcome facade = .ok ()) :
    ((prepare compose debug).after facade).builder.request = facade.outgoing composed := by
  obtain ⟨hrendered, hclient, -⟩ := prepared_of_prepare hcompose h
  unfold Builder.request outgoing
  rw [hrendered, hclient]
  cases composed <;> rfl

/-- A call that composes a read sends its statement, or nothing. -/
theorem runWith_delivers (hcompose : Builder.ComposesRead compose composed)
    (hquiet : Builder.LeavesClient compose) (debug : Value) (facade : Facade σ) :
    ∃ sent, facade.client.Delivers sent ((runWith compose debug).after facade).client ∧
      ∀ statement ∈ sent,
        facade.outgoing composed = .ok (statement.sql, statement.values) := by
  cases hprepared : (prepare compose debug).outcome facade with
  | error fault =>
    have hclient := prepare_leavesClient hquiet debug facade
    refine ⟨[], ?_, fun _ hmem => by cases hmem⟩
    rw [runWith_eq, Action.after_bind_error hprepared, ← hclient]
    exact .nothing rfl rfl
  | ok prepared =>
    obtain ⟨-, hclient, -⟩ := prepared_of_prepare hcompose.composes hprepared
    have hsent := Builder.executeQuery_delivers ((prepare compose debug).after facade).builder
    rw [request_of_prepare hcompose.composes hprepared, hclient] at hsent
    rw [Action.after_congr (runWith_of_prepared hcompose hprepared), after_onBuilder]
    exact ⟨_, hsent, fun statement hmem => Connection.of_mem_answersTo hmem⟩

end Facade

namespace Pager

open Descriptor (clauseText DrawsFrom drawsFrom_of_gives)

variable {σ : Type} {selection : Facade.Selection} {entries : Value.Entries} {dialect : Dialect}
  {columns sql segment : String} {values placeholders : Value.Entries}

/-! ## The texts of the two statements -/

/-- The statement that counts the records of a source. Those that are grouped are counted from
outside. -/
def countText (entries : Value.Entries) (columns fields segment : String) : String :=
  let grouping := groupingOf entries
  if grouping.truthy then
    countOfGroups ("SELECT " ++ Query.distinctWord (asksDistinct entries) ++ fields ++ segment ++
      clauseText "GROUP BY" grouping)
  else "SELECT " ++ countField (asksDistinct entries) columns ++ segment

/-- The statement that fetches the records of a source, in order and within a limit. -/
def pageText (dialect : Dialect) (bounds : Limit) (entries : Value.Entries)
    (fields segment : String) : String :=
  let selected := Query.distinctWord (asksDistinct entries) ++ fields ++ segment ++
    clauseText "GROUP BY" (groupingOf entries) ++ clauseText "ORDER BY" (orderingOf entries)
  match dialect.limitPosition with
  | .afterSelect => "SELECT " ++ dialect.limitText bounds ++ selected
  | .atEnd => "SELECT " ++ selected ++ dialect.limitText bounds

/-- The text counts the records of a source as the settings say. -/
def CountsFrom (selection : Facade.Selection) (entries : Value.Entries) (segment sql : String) :
    Prop :=
  ∃ columns fields, columnText selection.fields = .ok columns ∧
    Builder.fieldList (.text columns) = .ok fields ∧ sql = countText entries columns fields segment

/-- The text fetches the records of a source as the settings say, within a limit. -/
def FetchesFrom (selection : Facade.Selection) (entries : Value.Entries) (limit : String)
    (dialect : Dialect) (segment sql : String) : Prop :=
  ∃ fields bounds, Builder.fieldList selection.fields = .ok fields ∧
    Limit.parse (.text limit) = .ok bounds ∧ sql = pageText dialect bounds entries fields segment

/-- The records are counted by a statement on the source of the selection. -/
theorem countText_of_counted
    (h : counted selection entries columns dialect >>= (·.rendered dialect) =
      .ok (sql, placeholders)) :
    ∃ segment fields, selection.source = .ok (segment, placeholders) ∧
      Builder.fieldList (.text columns) = .ok fields ∧
      sql = countText entries columns fields segment := by
  cases hgroups : (groupingOf entries).truthy with
  | false =>
    rw [counted_of_plain hgroups] at h
    obtain ⟨descriptor, hd, hwritten⟩ := Action.of_attempts_ok h
    obtain ⟨given, hgives⟩ := Facade.Selection.gives_of_composed hd
    obtain ⟨hsql, hsource, -⟩ := written_of_drawsFrom (drawsFrom_of_gives hgives) hwritten
    refine ⟨_, _, hsource, rfl, ?_⟩
    obtain ⟨hfield, hparameters⟩ := parts_of_plainCount hgives
    rw [Descriptor.sql_of_plain hgives.kind hparameters hsql, hfield, countText,
      if_neg (by rw [hgroups]; exact Bool.false_ne_true)]
    simp only [Query.spelled, Query.distinctWord, Bool.false_eq_true, if_false, String.append_assoc,
      String.empty_append]
  | true =>
    obtain ⟨descriptor, hd, hwritten⟩ := Action.of_attempts_ok h
    rw [counted_eq, if_pos hgroups] at hd
    obtain ⟨inner, hinner, hd⟩ := Action.of_attempts_ok hd
    obtain ⟨⟨text, copied⟩, hgrouped, hd⟩ := Action.of_attempts_ok hd
    obtain ⟨hdraws, hfields, hparameters⟩ := drawsFrom_of_grouped hinner
    obtain ⟨hsql, hsource, hcopied⟩ := written_of_drawsFrom hdraws hgrouped
    have hraw : Facade.composedRaw (.text (countOfGroups text)) (.map copied) >>=
        (·.rendered dialect) = .ok (sql, placeholders) := by
      rw [hd]
      exact hwritten
    obtain ⟨rfl, rfl⟩ := rendered_of_raw hraw
    rw [hcopied]
    refine ⟨_, inner.fields, hsource, hfields, ?_⟩
    have hunlimited := Descriptor.sql_of_unlimited hdraws.kind (by rw [hparameters]; rfl) hsql
    rw [hunlimited, Descriptor.selected_eq, hparameters, countText, if_pos hgroups]
    simp only [Value.truthy, clauseText, Bool.false_eq_true, if_false, String.append_assoc,
      String.append_empty]

/-- The records of a page are fetched by a statement on the source of the selection. -/
theorem pageText_of_page (hnamed : selection.Named)
    (hentries : Builder.settingEntries selection.parameters = .ok entries) {limit : String}
    (hne : limit ≠ "")
    (h : (selection.page (Entries.insert (.text "limit") (.text limit) entries)).composed >>=
      (·.rendered dialect) = .ok (sql, placeholders)) :
    ∃ segment fields bounds, selection.source = .ok (segment, placeholders) ∧
      Builder.fieldList selection.fields = .ok fields ∧ Limit.parse (.text limit) = .ok bounds ∧
      sql = pageText dialect bounds entries fields segment := by
  obtain ⟨descriptor, hd, hwritten⟩ := Action.of_attempts_ok h
  obtain ⟨bounds, hbounds⟩ := hasLimit_page hnamed hentries hne descriptor hd
  obtain ⟨given, hgives⟩ := Facade.Selection.gives_of_composed hd
  obtain ⟨hsql, hsource, -⟩ := written_of_drawsFrom (drawsFrom_of_gives hgives) hwritten
  have hparse := hbounds
  rw [(limit_of_page hnamed hentries hd).1] at hparse
  refine ⟨_, descriptor.fields, bounds, hsource, hgives.fields, hparse, ?_⟩
  obtain ⟨hdistinct, hgrouping, hordering⟩ := settings_of_page hnamed hentries hgives
  obtain ⟨-, text, htext, rfl⟩ := Descriptor.sql_select_eq_ok hgives.kind hsql
  cases (Descriptor.limitText_of_parse hbounds).symm.trans htext
  rw [Descriptor.limitedSql, Descriptor.selected_eq, hdistinct, hgrouping, hordering]
  rfl

/-! ## As far as the statement of the page -/

/-- What is worked out for a page before its statement: the settings, the figures and the limit. -/
structure Located where
  entries : Value.Entries
  total : Int
  pages : Int
  page : PageNumber.Chosen
  limit : String

namespace Located

def limited (located : Located) : Value.Entries :=
  Entries.insert (.text "limit") (.text located.limit) located.entries

/-- The statement of the page, as it is written, with the values that it binds. -/
def written (located : Located) (selection : Facade.Selection) (dialect : Dialect) :
    Attempt (String × Value.Entries) :=
  (selection.page located.limited).composed >>= (·.rendered dialect)

end Located

variable [Connection σ] {debug requested : Value} {pager : Pager σ} {located : Located}

/-- Everything that a selection does before it comes to the statement of the page. -/
def approach (selection : Facade.Selection) (debug requested : Value) :
    Action (Pager σ) Located := do
  modify reset
  let entries ← Action.ofAttempt (Builder.settingEntries selection.parameters)
  let total ← count selection entries debug
  let pager ← get
  let pages ← Action.ofAttempt (pageCount total pager.perPage)
  let page ← Action.ofAttempt (PageNumber.choose pager.forcedPage requested pages)
  let limit ← Action.ofAttempt (pageLimit page pager.perPage)
  return ⟨entries, total, pages, page, limit⟩

theorem select_eq_approach (selection : Facade.Selection) (debug requested : Value) :
    (select selection debug requested : Action (Pager σ) Unit) = (do
      let located ← approach selection debug requested
      let fetched ← relabelled .pageFailed
        (onFacade (fetchPage selection located.limited debug))
      let figures : PageLinks.Figures :=
        ⟨located.total, located.pages, located.page.number, fetched⟩
      modify fun pager => { pager with figures, shownPage := located.page.shown }
      let _ ← Action.ofAttempt (pageDetail located.page figures)) := by
  unfold select approach
  simp only [bind_assoc, pure_bind]
  rfl

/-- After the statement of the page nothing more is sent. -/
theorem client_select (h : (approach selection debug requested).outcome pager = .ok located) :
    ((select selection debug requested).after pager).client =
      ((fetchPage selection located.limited debug).after
        ((approach selection debug requested).after pager).facade).client := by
  rw [select_eq_approach, Action.after_bind_ok h, Action.after_bind, after_relabelled,
    after_onFacade]
  split
  · dsimp only
    rw [Action.after_bind_ok (Action.outcome_modify _ _), Action.after_modify, Action.after_discard,
      Action.ofAttempt_after]
    rfl
  · rfl

/-- On the way the records were counted, and nothing else was sent. -/
theorem counted_of_approach (h : (approach selection debug requested).outcome pager = .ok located) :
    let middle := (approach selection debug requested).after pager
    Builder.settingEntries selection.parameters = .ok located.entries ∧
      (∃ exchange, Counted pager.facade selection located.entries located.total exchange
        middle.facade) ∧
      pageLimit located.page pager.perPage = .ok located.limit := by
  intro middle
  have hmiddle : middle = (approach selection debug requested).after pager := rfl
  unfold approach at h hmiddle
  rw [Action.outcome_bind_ok (Action.outcome_modify _ _), Action.after_modify] at h
  rw [Action.after_bind_ok (Action.outcome_modify _ _), Action.after_modify] at hmiddle
  obtain ⟨entries, hentries⟩ := Action.of_ofAttempt_bind h
  rw [hentries, Action.ofAttempt_ok_bind] at h hmiddle
  obtain ⟨total, htotal, h⟩ := Action.of_outcome_bind_ok h
  rw [Action.after_bind_ok htotal, Action.after_get_bind] at hmiddle
  rw [Action.outcome_get_bind] at h
  have hbesides := count_leavesBesides selection entries debug pager.reset
  obtain ⟨exchange, hcounted⟩ := counted_of_count htotal
  generalize (count selection entries debug).after pager.reset = reached at *
  obtain ⟨pages, hpages⟩ := Action.of_ofAttempt_bind h
  rw [hpages, Action.ofAttempt_ok_bind] at h hmiddle
  obtain ⟨page, hpage⟩ := Action.of_ofAttempt_bind h
  rw [hpage, Action.ofAttempt_ok_bind] at h hmiddle
  obtain ⟨limit, hlimit⟩ := Action.of_ofAttempt_bind h
  rw [hlimit, Action.ofAttempt_ok_bind] at h hmiddle
  cases h
  obtain ⟨-, hperPage, -⟩ := by simpa only [besides, Prod.mk.injEq] using hbesides
  rw [hmiddle]
  exact ⟨hentries, ⟨exchange, hcounted⟩, hperPage ▸ hlimit⟩

/-- For a page nothing but its statement is sent. -/
theorem fetchPage_delivers (debug : Value) (facade : Facade σ)
    (hlimit : HasLimit (selection.page entries).composed) :
    ∃ listed, facade.client.Delivers listed
        ((fetchPage selection entries debug).after facade).client ∧
      ∀ statement ∈ listed, facade.outgoing (selection.page entries).composed =
        .ok (statement.sql, statement.values) := by
  obtain ⟨first, hfirst, hasked⟩ := Facade.runWith_delivers (selection.page entries).compose_read
    (selection.page entries).compose_starting.leavesClient debug facade
  rw [fetchPage_eq]
  cases hran : (Facade.runWith (selection.page entries).compose debug).outcome facade with
  | error fault =>
    rw [Action.after_bind_error hran]
    exact ⟨first, hfirst, hasked⟩
  | ok result =>
    obtain ⟨sql, placeholders, listed, hreads⟩ :=
      Facade.reads_of_runWith (selection.page entries).compose_read hran
    have hrequest := hreads.sends.request
    rw [← hreads.sends.exchanged.paramstyle_eq] at hrequest
    have hagain := Builder.countAgain_delivers hrequest
    rw [Action.after_bind_ok hran, Action.after_congr (numRows_of_reads hlimit hreads),
      Facade.after_onBuilder]
    refine ⟨_, hfirst.append hagain, fun statement hmem => ?_⟩
    rcases List.mem_append.mp hmem with hold | hnew
    · exact hasked statement hold
    · rw [← Connection.of_mem_answersTo hnew]
      exact hreads.outgoing

/-- **The records of a page are counted where they are fetched.** Whatever a selection is made of,
once it comes to the statement of its page its records were counted by one statement. This one is
written around the text from which the statement of the page is written, table and condition, and
both bind the values of that condition under the same names. If the records are grouped, they are in
both in the same way; only the statement of the page is ordered and limited. Nothing is sent but the
one and then the other. -/
theorem count_and_page_share_source (hnamed : selection.Named)
    (h : (approach selection debug requested).outcome pager = .ok located) :
    let dialect := pager.facade.builder.dialect
    let style := pager.client.paramstyle
    Builder.settingEntries selection.parameters = .ok located.entries ∧
    ∃ segment values counting count listed,
      selection.source = .ok (segment, values) ∧
      CountsFrom selection located.entries segment counting ∧
      PreparedStatement.request (Connection.parser σ) style counting values =
        .ok (count.sql, count.values) ∧
      pager.client.Delivers (count :: listed)
        ((select selection debug requested).after pager).client ∧
      (∀ sql placeholders, located.written selection dialect = .ok (sql, placeholders) →
        placeholders = values ∧
          FetchesFrom selection located.entries located.limit dialect segment sql) ∧
      ∀ statement ∈ listed, ∃ sql, located.written selection dialect = .ok (sql, values) ∧
        PreparedStatement.request (Connection.parser σ) style sql values =
          .ok (statement.sql, statement.values) := by
  intro dialect style
  obtain ⟨hentries, ⟨exchange, hcounted⟩, hlimit⟩ := counted_of_approach h
  have hne := pageLimit_ne_empty hlimit
  obtain ⟨columns, hcolumns, hcounting⟩ := hcounted.outgoing
  obtain ⟨counting, values, hwritten, hrequest⟩ := Facade.outgoing_eq_ok_iff.mp hcounting
  obtain ⟨segment, fields, hsource, hfields, htext⟩ := countText_of_counted hwritten
  have hpage : ∀ sql placeholders, located.written selection dialect = .ok (sql, placeholders) →
      placeholders = values ∧
        FetchesFrom selection located.entries located.limit dialect segment sql := by
    intro sql placeholders hlisted
    obtain ⟨segment', fields', bounds, hsource', hfields', hbounds, hsql⟩ :=
      pageText_of_page hnamed hentries hne hlisted
    cases hsource.symm.trans hsource'
    exact ⟨rfl, fields', bounds, hfields', hbounds, hsql⟩
  obtain ⟨listed, hlisted, hasked⟩ := fetchPage_delivers debug
    ((approach selection debug requested).after pager).facade
    (hasLimit_page hnamed hentries hne)
  let first : Sent := ⟨exchange.sql, exchange.values,
    (Connection.execute exchange.sql exchange.values pager.client.connection).1⟩
  refine ⟨hentries, segment, values, counting, first, listed, hsource,
    ⟨columns, fields, hcolumns, hfields, htext⟩, hrequest, ?_, hpage, fun statement hmem => ?_⟩
  · rw [client_select h]
    exact hcounted.exchanged.delivers.append hlisted
  · have hsent := hasked statement hmem
    rw [Facade.outgoing_congr hcounted.dialect hcounted.exchanged.paramstyle_eq] at hsent
    obtain ⟨sql, placeholders, hsql, hspelled⟩ := Facade.outgoing_eq_ok_iff.mp hsent
    cases (hpage sql placeholders hsql).1
    exact ⟨sql, hsql, hspelled⟩

/-- The names of users of one color, each of them once and in order. -/
def namesByColor : Facade.Selection where
  table := .text "users"
  fields := .text "name"
  condition := .map [(.text "color", .text "red")]
  parameters := .map [(.text "group_by", .text "name"), (.text "order_by", .text "name")]

theorem named_namesByColor : namesByColor.Named := by
  intro entries hentries
  cases hentries
  refine ⟨by simp [Entries.keys], fun key hkey _ => ?_⟩
  rcases List.mem_cons.mp hkey with rfl | hkey
  · exact ⟨_, rfl⟩
  · rw [List.mem_singleton.mp hkey]
    exact ⟨_, rfl⟩

def onTwoNames : Pager Scripted :=
  let names : ResultSet := { columns := some ["name"], rows := [[.text "ann"], [.text "bob"]] }
  let connection : Scripted :=
    { responses := [{ result := { columns := some ["rowsCount"], rows := [[.int 2]] } },
        { result := names }, { result := names }] }
  { facade := { builder := { client := { connection }, dialect := .sqlite } } }

theorem count_and_page_share_source_namesByColor :
    let style := onTwoNames.client.paramstyle
    let values := [(Value.text "a_color", Value.text "red")]
    ∃ located counting count listed,
      (approach namesByColor (.bool false) .null).outcome onTwoNames = .ok located ∧
      CountsFrom namesByColor located.entries " FROM users WHERE color = :a_color" counting ∧
      PreparedStatement.request (Connection.parser Scripted) style counting values =
        .ok (count.sql, count.values) ∧
      onTwoNames.client.Delivers (count :: listed)
        ((select namesByColor (.bool false) .null).after onTwoNames).client ∧
      ∀ sql placeholders,
        located.written namesByColor .sqlite = .ok (sql, placeholders) →
          placeholders = values ∧ FetchesFrom namesByColor located.entries located.limit .sqlite
            " FROM users WHERE color = :a_color" sql := by
  intro style values
  have hcomes : ((approach namesByColor (.bool false) .null).outcome onTwoNames).isOk = true := by
    decide +kernel
  cases houtcome : (approach namesByColor (.bool false) .null).outcome onTwoNames with
  | error fault =>
    rw [houtcome] at hcomes
    cases hcomes
  | ok located =>
    obtain ⟨-, segment, bound, counting, count, listed, hsource, hcounts, hrequest, hdelivers,
      hpage, -⟩ := count_and_page_share_source named_namesByColor houtcome
    have hown : namesByColor.source = .ok (" FROM users WHERE color = :a_color", values) := rfl
    cases hown.symm.trans hsource
    exact ⟨located, counting, count, listed, rfl, hcounts, hrequest, hdelivers, hpage⟩

end Pager

end SqlToolkit
