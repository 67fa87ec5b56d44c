import SqlToolkit.Proofs.Pages.Tiling
import SqlToolkit.Proofs.Statement.Selecting

/-!
# What is counted and what is selected

The statement that counts records and the one that selects them have their source and its values in
common, so each is a query on the same rows. When all columns or one of them are selected, both are
read from their texts. The count is that of the rows the other one returns, unless it returns
distinct rows: then a count of all rows includes those that are repeated, and a count of the values
of a column leaves out NULL.
-/

namespace SqlToolkit

open SqlToolkit.Text

/-! ## The texts of fields -/

/-- A text of fields, the blanks around it aside, stands for all columns or for one. -/
inductive Query.Names (columns : String) : Selected → Prop where
  | all (h : trim columns = "*") : Names columns .all
  | column (h : Query.IsColumn (trim columns).toList) : Names columns (.column (trim columns))

namespace Query.Names

variable {columns : String} {selected : Selected}

theorem spells (h : Names columns selected) : Spells (trim columns).toList selected := by
  cases h with
  | all h =>
    rw [h]
    exact spells_all
  | column h =>
    have hspells := spells_column h
    rw [String.ofList_toList] at hspells
    exact hspells

/-- It is one item: no list of several, and not nothing. -/
theorem isItem (h : Names columns selected) :
    (trim columns).toList ≠ [] ∧ ',' ∉ (trim columns).toList := by
  cases h with
  | all h => rw [h]; decide
  | column h => exact ⟨h.1.1, fun hmem => absurd (h.1.2 ',' hmem) (by decide)⟩

end Query.Names

/-- What is not blank is kept by trimming. -/
theorem Text.mem_trim {c : Char} {text : String} (hc : isBlank c = false) (h : c ∈ text.toList) :
    c ∈ (trim text).toList := by
  obtain ⟨before, after, hchars, hb, ha⟩ := exists_trimChars text.toList
  rw [hchars, List.mem_append, List.mem_append] at h
  rw [trim, String.toList_ofList]
  rcases h with h | h | h
  · exact absurd (hb c h) (by rw [hc]; exact Bool.false_ne_true)
  · exact h
  · exact absurd (ha c h) (by rw [hc]; exact Bool.false_ne_true)

namespace Pager

def tallyFor (distinct : Bool) : Selected → Tally
  | .column name => if distinct then .values true name else .rows
  | _ => .rows

/-- The field of a statement that counts. -/
def countField (distinct : Bool) (columns : String) : String :=
  "COUNT(" ++ countedExpression distinct columns ++ ") AS rowsCount"

theorem countFields_eq (distinct : Bool) (columns : String) :
    CountFields.sql (.map [(.text (countedExpression distinct columns), .text "rowsCount")]) =
      countField distinct columns := by
  simp only [CountFields.sql, CountFields.ofValue, CountFields.Count.sql, countField, List.map_cons,
    List.map_nil, Value.display_text, String.intercalate_singleton]
  show "COUNT(" ++ countedExpression distinct columns ++ ") AS " ++ "rowsCount" = _
  rw [String.append_assoc]
  rfl

theorem spells_countField {columns : String} {selected : Selected}
    (h : Query.Names columns selected) (distinct : Bool) :
    Query.Spells (countField distinct columns).toList
      (.count (tallyFor distinct selected)) := by
  unfold countField countedExpression
  cases h with
  | all h =>
    have hstar : (trim columns != "*") = false := by rw [h]; rfl
    rw [hstar, Bool.and_false]
    exact Query.spells_countRows
  | column h =>
    have hname : (trim columns != "*") = true := by
      rw [bne_iff_ne]
      intro heq
      rw [heq] at h
      exact absurd (h.1.2 '*' List.mem_cons_self) (by decide)
    rw [hname]
    cases distinct with
    | false => exact Query.spells_countRows
    | true =>
      have hcolumn : Query.IsColumn (trimChars columns.toList) := by
        rwa [trim, String.toList_ofList] at h
      have hspells := Query.spells_countValues hcolumn
      simpa [tallyFor, trim] using hspells

/-- Fields that are one item are given as a text or in a collection of one text. -/
theorem items_of_columnText {fields : Value} {columns : String}
    (hcolumns : columnText fields = .ok columns) (hne : (trim columns).toList ≠ [])
    (hcomma : ',' ∉ (trim columns).toList) :
    fields = .text columns ∨
      (∀ content, fields ≠ .text content) ∧ Rows.items fields = .ok [.text columns] := by
  unfold columnText at hcolumns
  split at hcolumns
  · cases hcolumns
    exact .inl rfl
  · next hother =>
    refine .inr ⟨fun content heq => hother content heq, ?_⟩
    obtain ⟨items, hitems, hcolumns⟩ := Action.of_attempts_ok hcolumns
    obtain ⟨texts, htexts, hcolumns⟩ := Action.of_attempts_ok hcolumns
    cases hcolumns
    rw [hitems]
    cases forall₂_of_mapM htexts with
    | nil => exact absurd rfl hne
    | @cons text item texts items hitem hrest =>
      cases hrest with
      | nil =>
        split at hitem
        · cases hitem
          rw [String.intercalate_singleton]
        · cases hitem
      | @cons second other texts items _ _ =>
        refine absurd (Text.mem_trim (by decide) ?_) hcomma
        rw [String.intercalate_cons_cons]
        simp [String.toList_append]

/-- A field list of one text is that text without the blanks around it. -/
theorem fieldList_of_text {fields : Value} {columns : String}
    (hfields : fields = .text columns ∨
      (∀ content, fields ≠ .text content) ∧ Rows.items fields = .ok [.text columns])
    (hne : (trim columns).toList ≠ []) : Builder.fieldList fields = .ok (trim columns) := by
  have hempty : (trim columns).isEmpty = false := by
    cases hempty : (trim columns).isEmpty with
    | false => rfl
    | true => exact absurd (by rw [String.isEmpty_iff.mp hempty]; rfl) hne
  have hwritten : Descriptor.listed [trim columns] = trim columns := String.intercalate_singleton
  have hlist : (Except.ok (if (Descriptor.listed [trim columns]).isEmpty then "*"
      else Descriptor.listed [trim columns]) : Attempt String) = .ok (trim columns) := by
    rw [hwritten, hempty]
    rfl
  unfold Builder.fieldList
  rcases hfields with rfl | ⟨hother, hitems⟩
  · exact hlist
  · split
    · exact absurd rfl (hother _)
    · rw [hitems]
      exact hlist

/-- A field list that is all columns or one of them is written as that. -/
theorem fieldList_of_names {fields : Value} {columns : String} {selected : Selected}
    (hcolumns : columnText fields = .ok columns) (h : Query.Names columns selected) :
    Builder.fieldList fields = .ok (trim columns) := by
  obtain ⟨hne, hcomma⟩ := h.isItem
  exact fieldList_of_text (items_of_columnText hcolumns hne hcomma) hne

end Pager

/-! ## Two statements on the same rows -/

namespace Descriptor

variable {descriptor : Descriptor} {dialect : Dialect}

theorem spelled_eq (descriptor : Descriptor) :
    "SELECT " ++ descriptor.distinctText ++ descriptor.selectBody =
      Query.spelled descriptor.parameters.selectDistinct.truthy descriptor.fields
        descriptor.source := by
  unfold distinctText selectBody Query.spelled Query.distinctWord source
  simp only [String.append_assoc]
  rfl

/-- A SELECT without settings is what it selects and its source. -/
theorem sql_of_plain (hkind : descriptor.kind = .select) (hplain : descriptor.parameters = {})
    {sql : String} (h : descriptor.sql dialect = .ok sql) :
    sql = Query.spelled false descriptor.fields descriptor.source := by
  have htail : descriptor.tailText = "" := by
    unfold tailText
    rw [hplain]
    rfl
  have hspelled := descriptor.spelled_eq
  rw [hplain] at hspelled
  rw [sql_of_unlimited hkind (by rw [hplain]; rfl) h, selected, htail, String.append_empty,
    ← String.append_assoc]
  exact hspelled

end Descriptor

namespace Pager

variable {σ : Type} [Connection σ] {selection : Facade.Selection} {entries : Value.Entries}

/-- What counts a selection and what selects it, whatever their fields and settings, have their
source and its values in common. -/
theorem source_of_gives {first second : Facade.Selection} {given given' : Value.Entries}
    {counting listing : Descriptor} (hc : first.Gives given counting)
    (hl : second.Gives given' listing) (htable : first.table = second.table)
    (hcondition : first.condition = second.condition) :
    counting.source = listing.source ∧ counting.boundPlaceholders = listing.boundPlaceholders := by
  have hsame : counting.table = listing.table := by
    have htables := hc.table
    rw [htable] at htables
    exact Except.ok.inj (htables.symm.trans hl.table)
  have hclauses : counting.clause = listing.clause := by
    have hclause := hc.clause
    rw [hcondition] at hclause
    exact congrArg Prod.snd (hclause.symm.trans hl.clause)
  refine ⟨by rw [Descriptor.source, Descriptor.source, hsame, hclauses], ?_⟩
  unfold Descriptor.boundPlaceholders Descriptor.valuePlaceholders
  rw [hc.values, hl.values, hc.placeholders, hl.placeholders, hclauses]

/-- The exchange is the query with these values, in the form of the driver. -/
def Poses (facade : Facade σ) (query : Query) (values : Value.Entries) (exchange : Exchange) :
    Prop :=
  ∃ sql, Query.read? sql = some query ∧
    PreparedStatement.request (Connection.parser σ) facade.client.paramstyle sql values =
      .ok (exchange.sql, exchange.values)

/-- The exchange is the query with these values, with a limit and perhaps an order. -/
def PosesPage (facade : Facade σ) (query : Query) (values : Value.Entries) (exchange : Exchange) :
    Prop :=
  ∃ (descriptor : Descriptor) (bounds : Limit),
    Query.read? ("SELECT " ++ descriptor.distinctText ++ descriptor.selectBody) = some query ∧
      descriptor.tailText = Descriptor.clauseText "ORDER BY" descriptor.parameters.orderBy ∧
      PreparedStatement.request (Connection.parser σ) facade.client.paramstyle
          (descriptor.limitedSql facade.builder.dialect
            (facade.builder.dialect.limitText bounds)) values =
        .ok (exchange.sql, exchange.values)

variable {facade : Facade σ} {columns : String} {selected : Selected} {count listed : Exchange}

theorem fieldList_countField (distinct : Bool) (columns : String) :
    Builder.fieldList (.text (countField distinct columns)) =
      .ok (countField distinct columns) := by
  have hchars : (countField distinct columns).toList = "COUNT(".toList ++
      ((countedExpression distinct columns).toList ++ ") AS rowsCount".toList) := by
    simp [countField, String.toList_append]
  have hlast : (countField distinct columns).toList.reverse = ") AS rowsCount".toList.reverse ++
      ((countedExpression distinct columns).toList.reverse ++ "COUNT(".toList.reverse) := by
    rw [hchars, List.reverse_append, List.reverse_append, List.append_assoc]
  have htrim : trim (countField distinct columns) = countField distinct columns := by
    unfold trim
    rw [trimChars_of_stopsAt, String.ofList_toList]
    · rw [hchars]
      exact stopsAt_cons.mpr (by decide)
    · rw [hlast]
      exact stopsAt_cons.mpr (by decide)
  have hne : (trim (countField distinct columns)).toList ≠ [] := by
    rw [htrim, hchars]
    exact nofun
  rw [fieldList_of_text (.inl rfl) hne, htrim]

/-- A count without groups has the field that counts, and no settings. -/
theorem parts_of_plainCount {distinct : Bool} {given : Value.Entries} {descriptor : Descriptor}
    (h : (plainCount selection columns distinct).Gives given descriptor) :
    descriptor.fields = countField distinct columns ∧ descriptor.parameters = {} := by
  constructor
  · have hfields := h.fields
    rw [show (plainCount selection columns distinct).fields = .text (CountFields.sql
      (.map [(.text (countedExpression distinct columns), .text "rowsCount")])) from rfl,
      countFields_eq, fieldList_countField] at hfields
    exact (Except.ok.inj hfields).symm
  · have hsettings : given = [] := (Except.ok.inj h.settings).symm
    have hupdated := h.parameters
    rw [hsettings] at hupdated
    exact (congrArg Prod.snd hupdated).symm

/-- Records are counted by a query of their source. -/
theorem poses_of_counted (hselected : Query.Names columns selected)
    (hplain : (groupingOf entries).truthy = false)
    (h : facade.outgoing (counted selection entries columns facade.builder.dialect) =
      .ok (count.sql, count.values)) :
    let distinct := asksDistinct entries
    ∃ descriptor values, (∃ given, (plainCount selection columns distinct).Gives given descriptor) ∧
      descriptor.boundPlaceholders = .ok values ∧
      Poses facade ⟨false, .count (tallyFor distinct selected), descriptor.source⟩ values
        count := by
  intro distinct
  rw [counted_of_plain hplain] at h
  obtain ⟨sql, values, hrendered, hrequest⟩ := Facade.outgoing_eq_ok_iff.mp h
  obtain ⟨descriptor, hd, hrendered⟩ := Action.of_attempts_ok hrendered
  obtain ⟨text, hsql, hrendered⟩ := Action.of_attempts_ok hrendered
  obtain ⟨bound, hbound, hrendered⟩ := Action.of_attempts_ok hrendered
  cases hrendered
  obtain ⟨given, hgives⟩ := Facade.Selection.gives_of_composed hd
  obtain ⟨hfield, hparameters⟩ := parts_of_plainCount hgives
  refine ⟨descriptor, values, ⟨given, hgives⟩, hbound, sql, ?_, hrequest⟩
  rw [Descriptor.sql_of_plain hgives.kind hparameters hsql, hfield]
  exact Query.read?_spelled (spells_countField hselected distinct) false descriptor.source

/-- A setting that does not count as true at first does so just if the value given for it does. -/
theorem truthy_of_or {setting initial : Value} {given : Option Value}
    (h : some setting = given.or (some initial)) (hinitial : initial.truthy = false) :
    setting.truthy = (given.getD .null).truthy := by
  cases given with
  | none =>
    rw [Option.some.inj h]
    exact hinitial
  | some value =>
    rw [Option.some.inj h]
    rfl

/-- A setting that is null at first is what is given for it. -/
theorem setting_of_or {setting : Value} {given : Option Value}
    (h : some setting = given.or (some .null)) : setting = given.getD .null := by
  cases given <;> exact Option.some.inj h

/-- The statement of a page is distinct, grouped and ordered as the settings say. -/
theorem settings_of_page (hnamed : selection.Named)
    (hentries : Builder.settingEntries selection.parameters = .ok entries) {limit : String}
    {given : Value.Entries} {descriptor : Descriptor}
    (h : (selection.page (Entries.insert (.text "limit") (.text limit) entries)).Gives given
      descriptor) :
    descriptor.parameters.selectDistinct.truthy = asksDistinct entries ∧
      descriptor.parameters.groupBy = groupingOf entries ∧
      descriptor.parameters.orderBy = orderingOf entries := by
  obtain ⟨hnodup, hnames⟩ := hnamed entries hentries
  have hgiven := h.parameters
  cases h.settings
  have hset (name : String) (hname : name ∈ parameterNames) (hother : name ≠ "limit") :
      descriptor.parameters.get? name =
        (Entries.get? (.text name) entries).or (({} : Parameters).get? name) :=
    (Parameters.get?_of_page hnodup hnames hgiven hname).trans (if_neg hother)
  exact ⟨truthy_of_or (hset "select_distinct" (by decide) (by decide)) rfl,
    setting_of_or (hset "group_by" (by decide) (by decide)),
    setting_of_or (hset "order_by" (by decide) (by decide))⟩

/-- The records of a page are selected by a query of their source. -/
theorem posesPage_of_listed (hnamed : selection.Named)
    (hentries : Builder.settingEntries selection.parameters = .ok entries)
    (hcolumns : columnText selection.fields = .ok columns)
    (hselected : Query.Names columns selected)
    (hplain : (groupingOf entries).truthy = false)
    {limit : String} (hne : limit ≠ "")
    (h : facade.outgoing
      (selection.page (Entries.insert (.text "limit") (.text limit) entries)).composed =
        .ok (listed.sql, listed.values)) :
    let distinct := asksDistinct entries
    ∃ descriptor values,
      (∃ settings given, (selection.page settings).Gives given descriptor) ∧
      descriptor.boundPlaceholders = .ok values ∧
      PosesPage facade ⟨distinct, selected, descriptor.source⟩ values listed := by
  intro distinct
  obtain ⟨descriptor, bounds, sql, values, hd, -, hrendered, hsql, hrequest⟩ :=
    limited_of_outgoing hnamed hentries hne h
  obtain ⟨given, hgives⟩ := Facade.Selection.gives_of_composed hd
  obtain ⟨text, -, hrendered⟩ := Action.of_attempts_ok hrendered
  obtain ⟨bound, hbound, hrendered⟩ := Action.of_attempts_ok hrendered
  cases hrendered
  obtain ⟨hdistinct, hgrouping, -⟩ := settings_of_page hnamed hentries hgives
  have hgroups : descriptor.parameters.groupBy.truthy = false := by
    rw [hgrouping]
    exact hplain
  have htail : descriptor.tailText =
      Descriptor.clauseText "ORDER BY" descriptor.parameters.orderBy := by
    rw [Descriptor.tailText, Descriptor.clauseText, hgroups]
    exact String.empty_append
  have hfield : descriptor.fields = trim columns :=
    Except.ok.inj (hgives.fields.symm.trans (fieldList_of_names hcolumns hselected))
  refine ⟨descriptor, values, ⟨_, _, hgives⟩, hbound, descriptor, bounds, ?_, htail,
    hsql ▸ hrequest⟩
  rw [descriptor.spelled_eq, hdistinct, hfield]
  exact Query.read?_spelled hselected.spells distinct descriptor.source

/-! ## The count and the number of rows -/

variable {pager : Pager σ}

theorem countValue?_eq_rowCount_iff (hselected : Query.Names columns selected) {distinct : Bool}
    {source : String} {R V : Type} [DecidableEq R] [DecidableEq V] (contents : Contents R V)
    (values : Value.Entries) :
    Query.countValue? ⟨false, .count (tallyFor distinct selected), source⟩ contents values =
        some (Query.rowCount ⟨distinct, selected, source⟩ contents values) ↔
      distinct = false ∨ Query.CountsAll ⟨distinct, selected, source⟩ contents values := by
  cases hselected with
  | all => exact Query.countRows_eq_iff_all
  | column =>
    cases distinct with
    | false => exact iff_of_true Query.countRows_eq_column (.inl rfl)
    | true =>
      rw [or_iff_right (by decide : ¬ true = false)]
      exact Query.countValues_eq_iff_column

/-- **The records are counted as they are selected, but for repeated rows and NULL.** A selection of
all columns or of one that is not grouped and returns made a query that counts, and one whose rows
are those of the page and of all others. The count is the number of rows of that, whatever the
tables hold, exactly if they need not be distinct, or there are no two rows that are the same, or in
the one column that is selected there is no NULL. -/
theorem count_is_number_of_rows_iff (debug requested : Value) (hnamed : selection.Named)
    (hentries : Builder.settingEntries selection.parameters = .ok entries)
    (hplain : (groupingOf entries).truthy = false)
    (hcolumns : columnText selection.fields = .ok columns)
    (hselected : Query.Names columns selected)
    (h : (select selection debug requested).outcome pager = .ok ()) :
    let distinct := asksDistinct entries
    let final := (select selection debug requested).after pager
    ∃ counting listing values count listed again,
      pager.client.Exchanges [count, listed, again] final.client ∧
        Poses pager.facade counting values count ∧ count.Reports final.figures.total ∧
        PosesPage pager.facade listing values listed ∧ again.Repeats listed ∧
        listing.distinct = distinct ∧ listing.selected = selected ∧
        ∀ {R V : Type} [DecidableEq R] [DecidableEq V] (contents : Contents R V),
          counting.countValue? contents values = some (listing.rowCount contents values) ↔
            distinct = false ∨ listing.CountsAll contents values := by
  intro distinct final
  obtain ⟨run, hselects, hfigures⟩ : ∃ run : PageRun,
      run.Selects pager selection requested final.client ∧ final.figures = run.figures := by
    rcases select_ends hnamed debug requested pager with
      ⟨fault, hfails, -⟩ | ⟨run, hselects, hfigures, -⟩
    · cases hfails.symm.trans h
    · exact ⟨run, hselects, hfigures⟩
  cases hselects.entries.symm.trans hentries
  obtain ⟨own, hown, hcounts⟩ := hselects.counted
  cases hown.symm.trans hcolumns
  obtain ⟨counting, values, ⟨given, hcounting⟩, hbound, hposes⟩ :=
    poses_of_counted hselected hplain hcounts
  obtain ⟨listing, others, ⟨settings, given', hlisting⟩, hbound', hposesPage⟩ :=
    posesPage_of_listed hnamed hentries hcolumns hselected hplain
      (pageLimit_ne_empty hselects.limit) hselects.listed
  obtain ⟨hsource, hvalues⟩ := source_of_gives hcounting hlisting rfl rfl
  cases hbound.symm.trans (hvalues.trans hbound')
  rw [hsource] at hposes
  refine ⟨_, _, values, run.count, run.listed, run.again, hselects.exchanged, hposes, ?_,
    hposesPage, hselects.repeats, rfl, rfl,
    fun contents => countValue?_eq_rowCount_iff hselected contents values⟩
  rw [hfigures]
  exact hselects.reports

def distinctly : Value := .map [(.text "select_distinct", .bool true)]

theorem named_of_distinctly {selection : Facade.Selection} (h : selection.parameters = distinctly) :
    selection.Named := by
  intro entries hentries
  rw [h] at hentries
  cases hentries
  refine ⟨List.nodup_singleton _, fun key hkey _ => ?_⟩
  cases List.mem_singleton.mp hkey
  exact ⟨_, rfl⟩

def distinctNumbers : Facade.Selection :=
  { table := .text "t", fields := .text "a", parameters := distinctly }

def numbers : Contents Nat Nat := ⟨fun _ _ => List.range 12, fun _ row => some row⟩

theorem count_is_number_of_rows_iff_numbers :
    ∃ counting listing values count listed again,
      onTwelveRecords.client.Exchanges [count, listed, again]
          ((select distinctNumbers (.bool false) (.text "2")).after onTwelveRecords).client ∧
        Poses onTwelveRecords.facade counting values count ∧
        PosesPage onTwelveRecords.facade listing values listed ∧
        counting.countValue? numbers values = some (listing.rowCount numbers values) := by
  have hcolumn : Query.Names "a" (.column "a") :=
    .column ⟨.of_all (by decide) (by decide), by decide⟩
  have hselect : (select distinctNumbers (.bool false) (.text "2")).outcome onTwelveRecords =
      .ok () := by
    have hreturns : ((select distinctNumbers (.bool false) (.text "2")).outcome
        onTwelveRecords).isOk = true := by decide +kernel
    cases houtcome : (select distinctNumbers (.bool false) (.text "2")).outcome onTwelveRecords with
    | ok => rfl
    | error fault =>
      rw [houtcome] at hreturns
      cases hreturns
  obtain ⟨counting, listing, values, count, listed, again, hexchanged, hposes, -, hposesPage, -, -,
    hselected, hcounts⟩ := count_is_number_of_rows_iff (.bool false) (.text "2")
      (named_of_distinctly rfl) rfl rfl rfl hcolumn hselect
  refine ⟨counting, listing, values, count, listed, again, hexchanged, hposes, hposesPage,
    (hcounts numbers).mpr (.inr ?_)⟩
  unfold Query.CountsAll
  rw [hselected]
  exact fun _ _ => Option.some_ne_none _

def distinctRecords : Facade.Selection := { table := .text "t", parameters := distinctly }

/-- A table with one row twice. -/
def twins : Contents Nat Nat := ⟨fun _ _ => [1, 1], fun _ row => some row⟩

def twinCount : Exchange :=
  ⟨"SELECT COUNT(*) AS rowsCount FROM t", none,
    { columns := some ["rowsCount"], rows := [[.int 2]] }⟩

def twinPage : Exchange :=
  ⟨"SELECT DISTINCT * FROM t LIMIT 10 OFFSET 0", none,
    { columns := some ["a"], rows := [[.int 1]] }⟩

def onTwins : Pager Scripted :=
  let answered (exchange : Exchange) : Response := { result := exchange.answer }
  let connection : Scripted := { responses := [twinCount, twinPage, twinPage].map answered }
  { facade := { builder := { client := { connection }, dialect := .sqlite } } }

/-- A row that is there twice is counted twice, and selected once. -/
theorem repeated_rows_are_counted :
    let selecting : Action (Pager Scripted) Unit := select distinctRecords (.bool false) .null
    let final := selecting.after onTwins
    let counting : Query := ⟨false, .count .rows, "t"⟩
    let listing : Query := ⟨true, .all, "t"⟩
    selecting.outcome onTwins = .ok () ∧
      onTwins.client.Exchanges [twinCount, twinPage, twinPage] final.client ∧
      Poses onTwins.facade counting [] twinCount ∧ PosesPage onTwins.facade listing [] twinPage ∧
      counting.countValue? twins [] = some 2 ∧ listing.rowCount twins [] = 1 ∧
      final.figures.total = 2 ∧ final.figures.fetched = 1 := by
  obtain ⟨client, hexchanged⟩ : ∃ client,
      onTwins.client.Exchanges [twinCount, twinPage, twinPage] client :=
    ⟨_, .cons rfl (.cons rfl (.cons rfl (.nil _)))⟩
  have hcounted : onTwins.facade.outgoing (counted distinctRecords
      [(.text "select_distinct", .bool true)] "*" onTwins.facade.builder.dialect) =
        .ok (twinCount.sql, none) := rfl
  have hlisted : onTwins.facade.outgoing (distinctRecords.page
      [(.text "select_distinct", .bool true), (.text "limit", .text "0,10")]).composed =
        .ok (twinPage.sql, none) := rfl
  have hlimit : pageLimit (.whole 1) 10 = .ok "0,10" := by
    have hnone : ((0 : Nat) : Int) = ((PageNumber.Chosen.whole 1).number - 1) * (10 : Nat) := rfl
    have hshort {n : Nat} (h : n ≤ 2 ^ 53) : n < Numeral.tooLong := Numeral.lt_of_le_two_pow h
    exact (pageLimit_writes (fun _ h => by cases h) hnone).written
      ⟨hshort (Nat.zero_le _), hshort (by decide)⟩
  let run : PageRun :=
    ⟨[(.text "select_distinct", .bool true)], 2, 1, .whole 1, "0,10", twinCount, twinPage, twinPage⟩
  have hselects : run.Selects onTwins distinctRecords .null client :=
    ⟨rfl, ⟨"*", rfl, hcounted⟩, ⟨.int 2, [], rfl, rfl⟩,
      pageCount_eq (by decide) (by decide) (by decide), rfl, hlimit, hlisted, ⟨rfl, rfl⟩,
      hexchanged⟩
  have hsilent : ¬onTwins.facade.Captures (.bool false) := by
    rintro (⟨mode, hmode, henabled⟩ | ⟨mode, hmode, -⟩ | henabled)
    · cases hmode
      cases henabled
    · cases hmode
    · cases henabled
  have hdebugs (composed : Attempt Descriptor) : onTwins.facade.Debugs (.bool false) composed :=
    Facade.debugs_of_not_captures ⟨.off, rfl⟩ hsilent composed
  obtain ⟨hreturns, hclient, hfigures, -⟩ :=
    select_of_selects (named_of_distinctly rfl) ⟨fun _ _ => hdebugs _, hdebugs _⟩ hselects
  obtain ⟨line, hdetail⟩ := @pageDetail_writes run.page 1 run.figures ⟨rfl, nofun, .inl rfl⟩ rfl
  rw [hdetail.written (by decide +kernel)] at hreturns
  dsimp only
  rw [hclient, hfigures]
  exact ⟨hreturns, hexchanged, ⟨twinCount.sql, by decide +kernel, rfl⟩,
    ⟨{ table := .text "t", parameters := { selectDistinct := .bool true } }, ⟨some 0, 10⟩,
      by decide +kernel, rfl, rfl⟩, rfl, rfl, rfl, rfl⟩

end Pager

end SqlToolkit
