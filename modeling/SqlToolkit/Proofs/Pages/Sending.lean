import SqlToolkit.Pages.Pager
import SqlToolkit.Proofs.Facade.Reading
import SqlToolkit.Proofs.Statement.Limited

/-!
# The statements of a page

The records are counted by one statement, and those of a page are fetched by another, which is run
again to count them: a SELECT with a limit has no counting form, so nothing else is sent. Each
statement is made of the selection and its settings alone.
-/

namespace SqlToolkit

open SqlToolkit.Action (Keeps)

variable {σ : Type}

/-! ## The settings of a page -/

namespace Parameters

variable {parameters changed final : Parameters} {entries : Value.Entries} {name : String}

/-- Setting a parameter sets it and leaves the others as they are. -/
theorem get?_of_set {key : String} {value : Value} (h : parameters.set key value = .ok changed) :
    changed.get? name = if key = name then some value else parameters.get? name := by
  unfold set set? at h
  by_cases heq : key = name
  · subst heq
    rw [if_pos rfl]
    split at h
    · next hset => split at hset <;> cases hset <;> cases h <;> rfl
    · cases h
  · rw [if_neg heq]
    split at h
    · next hset =>
      cases h
      split at hset <;> cases hset <;> unfold get? <;> split <;>
        first | rfl | exact absurd rfl heq
    · cases h

/-- An accepted update sets a parameter to the value that is given under its name, if there is one
and the name is given once. -/
theorem get?_of_updated (hnodup : (Entries.keys entries).Nodup)
    (hnames : ∀ key ∈ Entries.keys entries, key.display = name → key.IsText)
    (h : parameters.update entries = (.ok (), final)) :
    final.get? name = (Entries.get? (.text name) entries).or (parameters.get? name) := by
  induction entries generalizing parameters with
  | nil => cases h; rfl
  | cons entry rest ih =>
    obtain ⟨key, value⟩ := entry
    obtain ⟨hnew, hrest⟩ := List.nodup_cons.mp hnodup
    have hsharp := Value.sharp_text name
    unfold update at h
    cases hkey : parameters.setKey key value with
    | error fault => rw [hkey] at h; cases h
    | ok changed =>
      rw [hkey] at h
      have hset := set_of_setKey hkey
      rw [ih hrest (fun other ho => hnames other (List.mem_cons_of_mem _ ho)) h, get?_of_set hset]
      by_cases hname : key.display = name
      · obtain ⟨content, rfl⟩ := hnames key List.mem_cons_self hname
        rw [Value.display_text] at hname
        subst hname
        rw [if_pos (Value.display_text content), Entries.get?_of_not_mem_sharp hsharp hnew,
          (Entries.get?_cons_of_sharp hsharp _ value rest).1 rfl]
        rfl
      · have hne : key ≠ .text name := fun heq => hname (heq ▸ rfl)
        rw [if_neg hname, (Entries.get?_cons_of_sharp hsharp key value rest).2 hne]

end Parameters

/-- No setting is given twice, and only a text reads as the name of a parameter. -/
def Facade.Selection.Named (selection : Facade.Selection) : Prop :=
  ∀ entries, Builder.settingEntries selection.parameters = .ok entries →
    (Entries.keys entries).Nodup ∧
      ∀ key ∈ Entries.keys entries, key.display ∈ parameterNames → key.IsText

/-- The parameters of a page are the settings with the limit of the page among them. -/
theorem Parameters.get?_of_page {entries : Value.Entries} (hnodup : (Entries.keys entries).Nodup)
    (hnames : ∀ key ∈ Entries.keys entries, key.display ∈ parameterNames → key.IsText)
    {limit : String} {final : Parameters}
    (h : ({} : Parameters).update (Entries.insert (.text "limit") (.text limit) entries) =
      (.ok (), final)) {name : String} (hname : name ∈ parameterNames) :
    final.get? name = if name = "limit" then some (.text limit)
      else (Entries.get? (.text name) entries).or (({} : Parameters).get? name) := by
  have hkeys : ∀ key ∈ Entries.keys (Entries.merge entries [(.text "limit", .text limit)]),
      key.display = name → key.IsText :=
    Entries.forall_keys_merge (fun key hkey heq => hnames key hkey (heq ▸ hname))
      fun key hkey _ => by
        rw [List.mem_singleton.mp hkey]
        exact ⟨"limit", rfl⟩
  rw [get?_of_updated (Entries.nodup_keys_insert_of_sharp (Value.sharp_text "limit") _ hnodup) hkeys
    h]
  by_cases heq : name = "limit"
  · rw [if_pos heq, heq, Entries.get?_insert_self_of_sharp (Value.sharp_text "limit")]
    rfl
  · have hne : Value.text "limit" ≠ .text name := fun htext => heq (Value.text.inj htext).symm
    rw [if_neg heq, Entries.get?_insert_of_ne_sharp (Value.sharp_text name) hne]

/-! ## What is sent -/

namespace Facade.Selection

def page (selection : Facade.Selection) (entries : Value.Entries) : Facade.Selection :=
  { selection with parameters := .map entries }

/-- The statement whose rows are the groups of a selection. -/
def grouped (selection : Facade.Selection) (columns : String) (grouping : Value)
    (distinct : Bool) : Attempt Descriptor := do
  let fields ← Builder.fieldList (.text columns)
  let table ← Builder.tableExpression selection.table
  let condition := Condition.Clause.set {} selection.condition []
  condition.1
  return {
    fields, table, clause := condition.2
    parameters := { groupBy := grouping, selectDistinct := .bool distinct } }

end Facade.Selection

namespace Pager

def plainCount (selection : Facade.Selection) (columns : String) (distinct : Bool) :
    Facade.Selection :=
  { selection with
    fields := .text (CountFields.sql
      (.map [(.text (countedExpression distinct columns), .text "rowsCount")]))
    parameters := .null }

/-- The text that counts the rows of another statement. -/
def countOfGroups (inner : String) : String :=
  s!"SELECT COUNT(*) AS rowsCount FROM ({inner}) grouped_rows"

/-- The statement that counts the records of a selection with the given settings. -/
def counted (selection : Facade.Selection) (entries : Value.Entries) (columns : String)
    (dialect : Dialect) : Attempt Descriptor :=
  let distinct := ((Entries.get? (.text "select_distinct") entries).getD .null).truthy
  let grouping := (Entries.get? (.text "group_by") entries).getD .null
  if grouping.truthy then do
    let (inner, placeholders) ← (← selection.grouped columns grouping distinct).rendered dialect
    Facade.composedRaw (.text (countOfGroups inner)) (.map placeholders)
  else (plainCount selection columns distinct).composed

def asksDistinct (entries : Value.Entries) : Bool :=
  ((Entries.get? (.text "select_distinct") entries).getD .null).truthy

/-- What the records are to be grouped by; null if that is not given. -/
def groupingOf (entries : Value.Entries) : Value :=
  (Entries.get? (.text "group_by") entries).getD .null

/-- What the records are to be ordered by; null if that is not given. -/
def orderingOf (entries : Value.Entries) : Value :=
  (Entries.get? (.text "order_by") entries).getD .null

theorem counted_eq (selection : Facade.Selection) (entries : Value.Entries) (columns : String)
    (dialect : Dialect) :
    counted selection entries columns dialect =
      if (groupingOf entries).truthy then do
        let written ← (← selection.grouped columns (groupingOf entries)
          (asksDistinct entries)).rendered dialect
        Facade.composedRaw (.text (countOfGroups written.1)) (.map written.2)
      else (plainCount selection columns (asksDistinct entries)).composed := rfl

theorem counted_of_plain {selection : Facade.Selection} {entries : Value.Entries}
    (h : (groupingOf entries).truthy = false) (columns : String) (dialect : Dialect) :
    counted selection entries columns dialect =
      (plainCount selection columns (asksDistinct entries)).composed := by
  rw [counted_eq, if_neg (by rw [h]; exact Bool.false_ne_true)]

theorem counted_of_grouped {selection : Facade.Selection} {entries : Value.Entries}
    {columns inner : String} {dialect : Dialect} {placeholders : Value.Entries}
    (h : (groupingOf entries).truthy = true)
    (hwritten : selection.grouped columns (groupingOf entries) (asksDistinct entries) >>=
      (·.rendered dialect) = .ok (inner, placeholders)) :
    counted selection entries columns dialect =
      Facade.composedRaw (.text (countOfGroups inner)) (.map placeholders) := by
  obtain ⟨descriptor, hd, hrendered⟩ := Action.of_attempts_ok hwritten
  rw [counted_eq, if_pos h, hd]
  show (descriptor.rendered dialect >>= _) = _
  rw [hrendered]
  rfl

/-! ## Counting -/

/-- Composes the statement whose rows are the groups of a selection. -/
def composeGroups (selection : Facade.Selection) (columns : String) (grouping : Value)
    (distinct : Bool) : Action (Builder σ) Unit := do
  Builder.select (.text columns)
  Builder.fromTable selection.table
  Builder.filter selection.condition
  Builder.groupBy grouping
  Builder.distinct (.bool distinct)

theorem composeGroups_composes (selection : Facade.Selection) (columns : String)
    (grouping : Value) (distinct : Bool) :
    Builder.Composes (composeGroups selection columns grouping distinct : Action (Builder σ) Unit)
      (selection.grouped columns grouping distinct) := by
  intro builder
  unfold composeGroups Facade.Selection.grouped Action.outcome Action.after
  simp only [bind, EStateM.bind, Builder.select_eq]
  cases Builder.fieldList (.text columns) with
  | error fault => exact ⟨rfl, fun descriptor h => by cases h⟩
  | ok fields =>
  simp only [Builder.fromTable_eq]
  cases Builder.tableExpression selection.table with
  | error fault => exact ⟨rfl, fun descriptor h => by cases h⟩
  | ok table =>
  simp only [Builder.filter_eq selection.condition
    { builder.cleared with descriptor := { fields, table } } rfl]
  cases (Condition.Clause.set {} selection.condition []).1 with
  | error fault => exact ⟨rfl, fun descriptor h => by cases h⟩
  | ok accepted => exact ⟨rfl, fun descriptor h => by cases h; rfl⟩

theorem groupedStatement_eq (selection : Facade.Selection) (columns : String) (grouping : Value)
    (distinct : Bool) (builder : Builder σ) :
    let groups : Action (Builder σ) (String × Value.Entries) := groupedStatement selection.table
      columns selection.condition grouping distinct
    groups.outcome builder =
        selection.grouped columns grouping distinct >>= (·.rendered builder.dialect) ∧
      ∀ written, groups.outcome builder = .ok written →
        (groups.after builder).client = builder.client ∧
          (groups.after builder).dialect = builder.dialect ∧
          (groups.after builder).debugDefault = builder.debugDefault := by
  intro groups
  have hsplit : groups = (do
      composeGroups selection columns grouping distinct
      Action.ofAttempt (← get).rendered) := by
    show _ = (composeGroups selection columns grouping distinct >>= fun _ => get >>= fun builder =>
      Action.ofAttempt builder.rendered)
    have hrendered (builder : Builder σ) :
        (Action.ofAttempt builder.rendered : Action (Builder σ) _) = (do
          let sql ← Action.ofAttempt builder.sql
          return (sql, ← Action.ofAttempt builder.placeholders)) := by
      unfold Builder.rendered
      cases builder.sql with
      | error fault => rfl
      | ok sql => cases builder.placeholders <;> rfl
    unfold composeGroups
    simp only [bind_assoc, hrendered]
    rfl
  obtain ⟨houtcome, hafter⟩ := composeGroups_composes selection columns grouping distinct builder
  rw [hsplit]
  cases hd : selection.grouped columns grouping distinct with
  | error fault =>
    rw [hd] at houtcome
    refine ⟨Action.outcome_bind_error houtcome, fun written h => ?_⟩
    cases (Action.outcome_bind_error houtcome).symm.trans h
  | ok descriptor =>
    rw [hd] at houtcome
    have hcomposed := hafter descriptor hd
    rw [Action.outcome_bind_ok houtcome, Action.after_bind_ok houtcome, hcomposed,
      Action.outcome_bind_ok (Action.outcome_get _), Action.after_bind_ok (Action.outcome_get _),
      Action.outcome_ofAttempt, Action.ofAttempt_after]
    exact ⟨rfl, fun written _ => ⟨rfl, rfl, rfl⟩⟩

theorem isRead_countOfGroups (parser : SqlParser) (inner : String) :
    parser.isRead (countOfGroups inner) = true := by
  have hbegins : (countOfGroups inner).toList =
      Statement.selecting ("OUNT(*) AS rowsCount FROM (".toList ++ inner.toList ++
        ") grouped_rows".toList) := by
    show ("SELECT COUNT(*) AS rowsCount FROM (" ++ inner ++ ") grouped_rows").toList = _
    simp [Statement.selecting]
  exact Statement.isRead_selecting parser hbegins

/-- The values of a statement whose rows are groups are those of its condition, under names. -/
theorem keyed_of_grouped {selection : Facade.Selection} {columns : String} {grouping : Value}
    {distinct : Bool} {dialect : Dialect} {inner : String} {placeholders : Value.Entries}
    (h : selection.grouped columns grouping distinct >>= (·.rendered dialect) =
      .ok (inner, placeholders)) : (Value.map placeholders).IsKeyedByMarkers := by
  obtain ⟨descriptor, hd, hrendered⟩ := Action.of_attempts_ok h
  obtain ⟨_, -, hrendered⟩ := Action.of_attempts_ok hrendered
  obtain ⟨bound, hbound, hrendered⟩ := Action.of_attempts_ok hrendered
  cases hrendered
  obtain ⟨fields, -, hd⟩ := Action.of_attempts_ok hd
  obtain ⟨table, -, hd⟩ := Action.of_attempts_ok hd
  obtain ⟨⟨⟩, -, hd⟩ := Action.of_attempts_ok hd
  cases hd
  exact Descriptor.boundPlaceholders_keys (fun _ hkey => by cases hkey) hbound

variable [Connection σ] {facade : Facade σ} {selection : Facade.Selection}
  {entries : Value.Entries} {columns : String} {debug : Value}

theorem countRow_eq :
    (countRow selection entries columns debug : Action (Facade σ) Value) =
      if (groupingOf entries).truthy then
        countGroups selection columns (groupingOf entries) (asksDistinct entries) debug
      else (do
        let _ ← Facade.runWith (plainCount selection columns (asksDistinct entries)).compose debug
        Facade.fetch .num) := rfl

theorem countRow_of_plain (h : (groupingOf entries).truthy = false) :
    (countRow selection entries columns debug : Action (Facade σ) Value) = (do
      let _ ← Facade.runWith (plainCount selection columns (asksDistinct entries)).compose debug
      Facade.fetch .num) := by
  rw [countRow_eq, if_neg (by rw [h]; exact Bool.false_ne_true)]

theorem countRow_of_grouped (h : (groupingOf entries).truthy = true) :
    (countRow selection entries columns debug : Action (Facade σ) Value) = (do
      let (inner, placeholders) ← Facade.onBuilder (groupedStatement selection.table columns
        selection.condition (groupingOf entries) (asksDistinct entries))
      let _ ← Facade.runWith
        (Facade.composeRaw (.text (countOfGroups inner)) (.map placeholders)) debug
      Facade.fetch .num) := by
  rw [countRow_eq, if_pos h]
  rfl

omit [Connection σ] in
/-- Composing the statement whose rows are counted makes no call. -/
theorem after_groupedStatement {written : String × Value.Entries} {grouping : Value}
    {distinct : Bool}
    (h : (Facade.onBuilder (groupedStatement selection.table columns selection.condition grouping
      distinct)).outcome facade = .ok written) :
    selection.grouped columns grouping distinct >>= (·.rendered facade.builder.dialect) =
        .ok written ∧
      ∀ {next : Facade σ}, next = (Facade.onBuilder (groupedStatement selection.table columns
          selection.condition grouping distinct)).after facade →
        next.client = facade.client ∧ facade.Follows next := by
  rw [Facade.outcome_onBuilder] at h
  obtain ⟨houtcome, hafter⟩ :=
    groupedStatement_eq selection columns grouping distinct facade.builder
  obtain ⟨hclient, hdialect, hdefault⟩ := hafter written h
  refine ⟨houtcome.symm.trans h, fun {next} hnext => ?_⟩
  rw [hnext, Facade.after_onBuilder]
  exact ⟨hclient, Facade.follows_of_modes hdialect hdefault (.inl rfl)⟩

theorem fetches_of_countRow {row : Value}
    (h : (countRow selection entries columns debug).outcome facade = .ok row) :
    ∃ exchange, facade.Fetches (counted selection entries columns facade.builder.dialect) row
      exchange ((countRow selection entries columns debug).after facade) := by
  cases hgroups : (groupingOf entries).truthy with
  | false =>
    rw [countRow_of_plain hgroups] at h ⊢
    rw [counted_of_plain hgroups]
    exact Facade.fetches_of_firstRow (plainCount selection columns _).compose_read h
  | true =>
    rw [countRow_of_grouped hgroups] at h ⊢
    obtain ⟨⟨inner, placeholders⟩, hinner, h⟩ := Action.of_outcome_bind_ok h
    rw [Action.after_bind_ok hinner]
    obtain ⟨hwritten, hsame⟩ := after_groupedStatement hinner
    obtain ⟨hclient, hfollows⟩ := hsame rfl
    have hdialect := hfollows.dialect
    obtain ⟨exchange, hfetches⟩ := Facade.fetches_of_firstRow
      (Facade.composeRaw_read (isRead_countOfGroups _ inner) (keyed_of_grouped hwritten)) h
    refine ⟨exchange, ?_, hclient ▸ hfetches.exchanged, hfetches.dialect.trans hdialect,
      hfetches.row⟩
    rw [counted_of_grouped hgroups hwritten, ← hfetches.outgoing,
      Facade.outgoing_congr hdialect (congrArg Client.paramstyle hclient)]

/-- The records are counted if the counting statement is answered. -/
theorem countRow_of_answered {exchange : Exchange} {final : Client σ}
    (hdebug : facade.Debugs debug (counted selection entries columns facade.builder.dialect))
    (hout : facade.outgoing (counted selection entries columns facade.builder.dialect) =
      .ok (exchange.sql, exchange.values))
    (hexchange : facade.client.Exchanges [exchange] final) :
    let counting := countRow selection entries columns debug
    counting.outcome facade = .ok exchange.firstRow ∧
      (counting.after facade).client = final ∧ facade.Follows (counting.after facade) := by
  cases hgroups : (groupingOf entries).truthy with
  | false =>
    rw [countRow_of_plain hgroups]
    rw [counted_of_plain hgroups] at hout hdebug
    exact Facade.firstRow_of_answered (plainCount selection columns _).compose_read hdebug hout
      hexchange
  | true =>
    have hwritten : ∃ inner placeholders,
        selection.grouped columns (groupingOf entries) (asksDistinct entries) >>=
          (·.rendered facade.builder.dialect) = .ok (inner, placeholders) := by
      obtain ⟨_, _, hrendered, -⟩ := Facade.outgoing_eq_ok_iff.mp hout
      obtain ⟨descriptor, hd, -⟩ := Action.of_attempts_ok hrendered
      rw [counted_eq, if_pos hgroups] at hd
      obtain ⟨inner, hinner, hd⟩ := Action.of_attempts_ok hd
      obtain ⟨written, hwritten, -⟩ := Action.of_attempts_ok hd
      rw [hinner]
      exact ⟨written.1, written.2, hwritten⟩
    obtain ⟨inner, placeholders, hwritten⟩ := hwritten
    have hinner := (Facade.outcome_onBuilder _ facade).trans
      ((groupedStatement_eq selection columns _ _ facade.builder).1.trans hwritten)
    obtain ⟨hclient, hfollows⟩ := (after_groupedStatement hinner).2 rfl
    rw [counted_of_grouped hgroups hwritten,
      ← Facade.outgoing_congr hfollows.dialect (congrArg Client.paramstyle hclient)] at hout
    rw [counted_of_grouped hgroups hwritten] at hdebug
    dsimp only
    rw [countRow_of_grouped hgroups, Action.outcome_bind_ok hinner, Action.after_bind_ok hinner]
    obtain ⟨hreturns, hfinal, hsame⟩ := Facade.firstRow_of_answered
      (Facade.composeRaw_read (isRead_countOfGroups _ inner) (keyed_of_grouped hwritten))
      (hfollows.debugs hdebug) hout (hclient.symm ▸ hexchange)
    exact ⟨hreturns, hfinal, hfollows.trans hsame⟩

/-! ## Fetching -/

def HasLimit (composed : Attempt Descriptor) : Prop :=
  ∀ descriptor, composed = .ok descriptor →
    ∃ bounds, Limit.parse descriptor.parameters.limit = .ok bounds

omit [Connection σ] in
/-- The limit of a page is the one that was worked out for it. -/
theorem limit_of_page (hnamed : selection.Named)
    (hentries : Builder.settingEntries selection.parameters = .ok entries) {limit : String}
    {descriptor : Descriptor}
    (h : (selection.page (Entries.insert (.text "limit") (.text limit) entries)).composed =
      .ok descriptor) :
    descriptor.parameters.limit = .text limit ∧ Builder.checkLimit (.text limit) = .ok () := by
  obtain ⟨given, hgives⟩ := Facade.Selection.gives_of_composed h
  cases hgives.settings
  obtain ⟨hnodup, hnames⟩ := hnamed entries hentries
  have hchecked := hgives.limit
  rw [Entries.get?_insert_self_of_sharp (Value.sharp_text "limit")] at hchecked
  have hlimit := Parameters.get?_of_page hnodup hnames hgives.parameters
    (by decide : "limit" ∈ parameterNames)
  exact ⟨Option.some.inj (hlimit.trans (if_pos rfl)), hchecked⟩

omit [Connection σ] in
theorem hasLimit_page (hnamed : selection.Named)
    (hentries : Builder.settingEntries selection.parameters = .ok entries) {limit : String}
    (hne : limit ≠ "") :
    HasLimit (selection.page (Entries.insert (.text "limit") (.text limit) entries)).composed := by
  intro descriptor h
  obtain ⟨hlimit, hchecked⟩ := limit_of_page hnamed hentries h
  have hset : (Value.text limit).isUnset = false := by
    cases hempty : limit.isEmpty with
    | false => exact hempty
    | true => exact absurd (String.isEmpty_iff.mp hempty) hne
  unfold Builder.checkLimit at hchecked
  rw [if_neg (by rw [hset]; exact Bool.false_ne_true)] at hchecked
  rw [hlimit]
  cases hparse : Limit.parse (.text limit) with
  | ok bounds => exact ⟨bounds, rfl⟩
  | error fault => rw [hparse] at hchecked; cases hchecked

omit [Connection σ] in
/-- A limited SELECT has no counting form, in any dialect. -/
theorem preventsCount_of_limited {page : Facade.Selection} (hlimit : HasLimit page.composed)
    {dialect : Dialect} {sql : String} {placeholders : Value.Entries}
    (h : page.composed >>= (·.rendered dialect) = .ok (sql, placeholders)) :
    Statement.preventsCount sql.toList = true := by
  obtain ⟨descriptor, hd, hrendered⟩ := Action.of_attempts_ok h
  obtain ⟨text, hsql, hrendered⟩ := Action.of_attempts_ok hrendered
  obtain ⟨bound, -, hrendered⟩ := Action.of_attempts_ok hrendered
  cases hrendered
  obtain ⟨entries, hgives⟩ := Facade.Selection.gives_of_composed hd
  obtain ⟨bounds, hbounds⟩ := hlimit descriptor hd
  obtain ⟨-, limit, htext, rfl⟩ := Descriptor.sql_select_eq_ok hgives.kind hsql
  cases (Descriptor.limitText_of_parse hbounds).symm.trans htext
  exact descriptor.preventsCount_limitedSql dialect bounds

/-- The statement of a page was answered, and answered once more to count its records. -/
structure Fetched (facade : Facade σ) (page : Facade.Selection) (count : Int)
    (listed again : Exchange) (final : Client σ) : Prop where
  outgoing : facade.outgoing page.composed = .ok (listed.sql, listed.values)
  exchanged : facade.client.Exchanges [listed, again] final
  repeats : again.Repeats listed
  count : count = again.rows.length

theorem fetchPage_eq (selection : Facade.Selection) (entries : Value.Entries) (debug : Value) :
    (fetchPage selection entries debug : Action (Facade σ) Int) = (do
      let _ ← Facade.runWith (selection.page entries).compose debug
      Facade.onBuilder Builder.numRows) :=
  rfl

/-- The records of a page are counted by running its statement again. -/
theorem numRows_of_reads {page : Facade.Selection} (hlimit : HasLimit page.composed)
    {sql : String} {placeholders : Value.Entries} {listed : Exchange} {next : Facade σ}
    (h : facade.Reads page.composed sql placeholders listed next) :
    Facade.onBuilder Builder.numRows next =
      Facade.onBuilder (Builder.countAgain sql placeholders) next :=
  Facade.onBuilder_congr
    (Builder.numRows_of_holds h.holds (preventsCount_of_limited hlimit h.rendered))

theorem fetched_of_fetchPage (hlimit : HasLimit (selection.page entries).composed) {count : Int}
    (h : (fetchPage selection entries debug).outcome facade = .ok count) :
    ∃ listed again, Fetched facade (selection.page entries) count listed again
      ((fetchPage selection entries debug).after facade).client := by
  rw [fetchPage_eq] at h ⊢
  obtain ⟨result, hran, hcount⟩ := Action.of_outcome_bind_ok h
  obtain ⟨sql, placeholders, listed, hreads⟩ :=
    Facade.reads_of_runWith (selection.page entries).compose_read hran
  have hagain := numRows_of_reads hlimit hreads
  rw [Action.outcome_congr hagain, Facade.outcome_onBuilder] at hcount
  rw [Action.after_bind_ok hran, Action.after_congr hagain, Facade.after_onBuilder]
  obtain ⟨again, hsends, hlength⟩ := Builder.sends_of_countAgain hcount
  exact ⟨listed, again, hreads.outgoing, (Client.exchanges_append_iff [listed] [again]).mpr
    ⟨_, hreads.sends.exchanged, hsends.exchanged⟩, hreads.sends.repeats hsends, hlength⟩

/-- The page is fetched if its statement is answered twice. -/
theorem fetchPage_of_answered (hlimit : HasLimit (selection.page entries).composed)
    (hdebug : facade.Debugs debug (selection.page entries).composed) {listed again : Exchange}
    {final : Client σ}
    (hout : facade.outgoing (selection.page entries).composed = .ok (listed.sql, listed.values))
    (hrepeats : again.Repeats listed)
    (hexchanges : facade.client.Exchanges [listed, again] final) :
    (fetchPage selection entries debug).outcome facade = .ok (again.rows.length : Int) ∧
      ((fetchPage selection entries debug).after facade).client = final := by
  obtain ⟨middle, hfirst, hsecond⟩ :=
    (Client.exchanges_append_iff [listed] [again]).mp hexchanges
  obtain ⟨⟨result, hran⟩, hmiddle, -, sql, placeholders, hreads⟩ :=
    Facade.runWith_of_answered (selection.page entries).compose_read hdebug hout hfirst
  have hagain := numRows_of_reads hlimit hreads
  have hsends : middle.Sends sql placeholders again final := by
    refine ⟨?_, hsecond⟩
    rw [hfirst.paramstyle_eq, hrepeats.1, hrepeats.2]
    exact hreads.sends.request
  rw [← hmiddle] at hsends
  obtain ⟨hcount, hfinal⟩ := Builder.countAgain_of_sends hsends
  rw [fetchPage_eq, Action.outcome_bind_ok hran, Action.after_bind_ok hran,
    Action.outcome_congr hagain, Action.after_congr hagain, Facade.outcome_onBuilder,
    Facade.after_onBuilder]
  exact ⟨hcount, hfinal⟩

end Pager

end SqlToolkit
