import Mathlib.Data.Set.Defs
import SqlToolkit.Proofs.Dialect.Columns
import SqlToolkit.Proofs.Facade.Reading

/-!
# Looking up column names

A lookup takes the column names of a table from the cache, or introspects the table and stores what
it found. The cache keeps a table under its name in small letters, while the statement that
introspects a table has the name as the dialect spells it. So a lookup may find the names of another
table, unless tables that are kept under one name are introspected by one statement.
-/

namespace SqlToolkit

open SqlToolkit.Action (Keeps)

/-! ## The cache -/

namespace ColumnCache

variable {cache later : ColumnCache} {now : Int} {key : String} {entry : CachedColumns}

/-- All that is kept was kept before or was added. -/
structure Within (later cache : ColumnCache) (added : List CachedColumns) : Prop where
  capacity : later.capacity = cache.capacity
  timeToLive : later.timeToLive = cache.timeToLive
  entries : ∀ entry ∈ later.entries, entry ∈ cache.entries ∨ entry ∈ added

theorem within_self (cache : ColumnCache) : cache.Within cache [] :=
  ⟨rfl, rfl, fun _ h => .inl h⟩

theorem within_clear (cache : ColumnCache) : cache.clear.Within cache [] :=
  ⟨rfl, rfl, fun _ h => by cases h⟩

theorem within_erase (cache : ColumnCache) (key : String) : (cache.erase key).Within cache [] :=
  ⟨rfl, rfl, fun _ h => .inl (List.mem_of_mem_filter h)⟩

theorem within_touch (h : entry ∈ cache.entries) : (cache.touch entry).Within cache [] :=
  ⟨rfl, rfl, fun _ hother => .inl (cache.policy.used_subset entry cache.entries h hother)⟩

theorem within_store {names : List Value} (h : cache.store now key names = .ok later) :
    later.Within cache [⟨key, names, now⟩] := by
  unfold store at h
  split at h
  · cases h
  · cases h
    refine ⟨rfl, rfl, fun other hother => ?_⟩
    refine (List.mem_append.mp hother).imp (fun hkept => ?_) id
    exact List.mem_of_mem_filter (List.mem_of_mem_filter (cache.policy.room_subset _ _ hkept))

/-- What is stored in an empty cache is all that it has. -/
theorem store_of_empty {capacity : Int} (h : 1 ≤ capacity) (timeToLive now : Int) (key : String)
    (names : List Value) (policy : CachePolicy) :
    ({ capacity, timeToLive, policy } : ColumnCache).store now key names =
      .ok { capacity, timeToLive, policy, entries := [⟨key, names, now⟩] } := by
  have hroom : policy.room capacity [] = [] :=
    List.eq_nil_iff_forall_not_mem.mpr fun _ hkept =>
      List.not_mem_nil (policy.room_subset capacity [] hkept)
  unfold store erase
  rw [if_neg (Int.not_lt.mpr h)]
  simp [hroom]

/-- An entry is found while it is alive. -/
theorem find?_of_single (capacity : Int) {timeToLive : Int} {key : String} {names : List Value}
    {storedAt : Int} (policy : CachePolicy) (h : now < storedAt + timeToLive) :
    ({ capacity, timeToLive, policy, entries := [⟨key, names, storedAt⟩] } : ColumnCache).find? now
      key = some ⟨key, names, storedAt⟩ := by
  simp [find?, isAlive, h]

theorem find?_spec (h : cache.find? now key = some entry) :
    entry ∈ cache.entries ∧ entry.table = key ∧ now < entry.storedAt + cache.timeToLive := by
  have hfound := List.find?_some h
  obtain ⟨hkey, halive⟩ := (Bool.and_eq_true _ _).mp hfound
  exact ⟨List.mem_of_find?_eq_some h, eq_of_beq hkey, of_decide_eq_true halive⟩

end ColumnCache

theorem Client.foldCase_of_driver {σ : Type} {client final : Client σ}
    (h : final.driver = client.driver) : final.foldCase = client.foldCase := by
  funext name
  unfold foldCase
  rw [show final.columnCase = client.columnCase from congrArg Prod.snd h]

namespace Facade

variable {σ : Type}

/-! ## Introspection -/

/-- The statement that introspects a table, in the form of the driver. -/
def introspection (parser : SqlParser) (dialect : Dialect) (style : Paramstyle) (table : String) :
    Attempt (String × Option Arguments) := do
  let catalog ← dialect.columnsQuery table
  PreparedStatement.request parser style catalog.sql
    (Descriptor.asPlaceholders catalog.placeholders)

variable [Connection σ]

theorem outgoing_of_catalog {dialect : Dialect} {table : String} {catalog : CatalogQuery}
    (h : dialect.columnsQuery table = .ok catalog) (facade : Facade σ) :
    facade.outgoing (composedRaw (.text catalog.sql)
        (.map (Descriptor.asPlaceholders catalog.placeholders))) =
      PreparedStatement.request (Connection.parser σ) facade.client.paramstyle catalog.sql
        (Descriptor.asPlaceholders catalog.placeholders) := by
  rcases Dialect.columnsQuery_placeholders h with hp | ⟨name, hp⟩
  · rw [hp]
    rfl
  · have hmerge : Entries.merge [] (Descriptor.asPlaceholders [("table_name", .text name)]) =
        Descriptor.asPlaceholders [("table_name", .text name)] :=
      Descriptor.merge_asPlaceholders (List.pairwise_singleton _ _)
    rw [hp, ← hmerge]
    rfl

theorem introspecting_read {dialect : Dialect} {table : String} {catalog : CatalogQuery}
    (h : dialect.columnsQuery table = .ok catalog) :
    Builder.ComposesRead
      (composeRaw (.text catalog.sql) (.map (Descriptor.asPlaceholders catalog.placeholders)) :
        Action (Builder σ) Unit)
      (composedRaw (.text catalog.sql) (.map (Descriptor.asPlaceholders catalog.placeholders))) :=
  composeRaw_read (Dialect.columnsQuery_isRead (Connection.parser σ) h)
    (Descriptor.isKeyedByMarkers_asPlaceholders catalog.placeholders)

omit [Connection σ] in
/-- What an introspection binds is the name of a table, which can be written. -/
theorem introspecting_debugs {dialect : Dialect} {table : String} {catalog : CatalogQuery}
    (h : dialect.columnsQuery table = .ok catalog) (facade : Facade σ) :
    facade.Debugs (.bool false)
      (composedRaw (.text catalog.sql)
        (.map (Descriptor.asPlaceholders catalog.placeholders))) := by
  refine ⟨⟨.off, rfl⟩, fun _ sql placeholders hrendered => ?_⟩
  rcases Dialect.columnsQuery_placeholders h with hnone | ⟨name, hname⟩
  · rw [hnone] at hrendered
    cases hrendered
    exact nofun
  · have hmerge : Entries.merge [] (Descriptor.asPlaceholders [("table_name", .text name)]) =
        Descriptor.asPlaceholders [("table_name", .text name)] :=
      Descriptor.merge_asPlaceholders (List.pairwise_singleton _ _)
    rw [hname] at hrendered
    cases hrendered
    intro entry hentry
    have hmem : entry ∈ Entries.merge []
        (Descriptor.asPlaceholders [("table_name", .text name)]) := hentry
    rw [hmerge] at hmem
    obtain rfl := List.mem_singleton.mp hmem
    exact ⟨rfl, rfl⟩

/-- The backend lists these names for a table: they are read from what it answers to the statement
that introspects the table. -/
def Lists (facade : Facade σ) (table : String) (names : List Value) : Prop :=
  ∃ sql values answer rows,
    introspection (Connection.parser σ) facade.builder.dialect facade.client.paramstyle table =
      .ok (sql, values) ∧
      (Connection.execute sql values facade.client.connection).1 = .ok answer ∧
      answer.listing.all facade.client.foldCase .assoc = .ok rows ∧
      namesIn facade.builder.dialect rows = .ok names

def introspect (table : String) : Action (Facade σ) (List Value) := do
  let facade ← get
  let rows ← columns table .assoc (.bool false)
  Action.ofAttempt (namesIn facade.builder.dialect rows)

variable {facade later : Facade σ} {table : String} {names : List Value}

theorem columns_of_catalog {catalog : CatalogQuery}
    (h : facade.builder.dialect.columnsQuery table = .ok catalog) (mode : FetchMode)
    (debug : Value) :
    columns table mode debug facade = (do
      let _ ← query (.text catalog.sql)
        (.map (Descriptor.asPlaceholders catalog.placeholders)) debug
      fetchAll mode : Action (Facade σ) (List Value)) facade := by
  unfold columns
  rw [Action.get_bind, h, Action.ofAttempt_ok_bind]

omit [Connection σ] in
/-- What is left of an answer can be fetched as it was listed. -/
theorem fetchAll_of_holds {sql : String} {placeholders : Value.Entries} {answer : ResultSet}
    (h : facade.builder.Holds sql placeholders answer) (mode : FetchMode) :
    (fetchAll mode).outcome facade = answer.listing.all facade.client.foldCase mode ∧
      ((fetchAll mode).after facade).client = facade.client ∧
      ((fetchAll mode).after facade).builder.dialect = facade.builder.dialect := by
  have hsilent := (Builder.fetchAll_silent (σ := σ) mode) facade.builder
  unfold fetchAll
  rw [outcome_onBuilder, after_onBuilder, Builder.outcome_fetchAll, h.listing]
  exact ⟨rfl, (congrArg Prod.fst hsilent).symm,
    (congrArg (fun view => view.2.dialect) hsilent).symm⟩

/-- What an introspection finds is what the backend lists. -/
theorem lists_of_introspect (h : (introspect table).outcome facade = .ok names) :
    facade.Lists table names := by
  unfold introspect at h
  rw [Action.outcome_get_bind] at h
  obtain ⟨rows, hcolumns, hnames⟩ := Action.of_outcome_bind_ok h
  rw [Action.outcome_ofAttempt] at hnames
  cases hc : facade.builder.dialect.columnsQuery table with
  | error fault =>
    unfold columns at hcolumns
    rw [Action.outcome_get_bind, hc] at hcolumns
    cases hcolumns
  | ok catalog =>
    rw [Action.outcome_congr (columns_of_catalog hc .assoc _)] at hcolumns
    obtain ⟨result, hquery, hrows⟩ := Action.of_outcome_bind_ok hcolumns
    obtain ⟨sql, placeholders, exchange, hreads⟩ := reads_of_runWith (introspecting_read hc) hquery
    have hsent := hreads.outgoing
    rw [outgoing_of_catalog hc] at hsent
    have hlisted := (fetchAll_of_holds hreads.holds .assoc).1.symm.trans hrows
    rw [Client.foldCase_of_driver hreads.sends.exchanged.driver_eq] at hlisted
    refine ⟨exchange.sql, exchange.values, exchange.answer, rows, ?_, ?_, hlisted, hnames⟩
    · unfold introspection
      rw [hc]
      exact hsent
    · exact Client.executed_of_run (Client.exchanges_singleton_iff.mp hreads.sends.exchanged).1

/-- An introspection whose statement is answered and settled finds what is listed. -/
theorem introspect_of_answered {exchange : Exchange} {final : Client σ} {rows : List Value}
    (hsent : introspection (Connection.parser σ) facade.builder.dialect
      facade.client.paramstyle table =
      .ok (exchange.sql, exchange.values))
    (hexchange : facade.client.Exchanges [exchange] final)
    (hrows : exchange.answer.listing.all facade.client.foldCase .assoc = .ok rows)
    (hnames : namesIn facade.builder.dialect rows = .ok names) :
    (introspect table).outcome facade = .ok names ∧
      ((introspect table).after facade).client = final ∧
      ((introspect table).after facade).builder.dialect = facade.builder.dialect := by
  obtain ⟨catalog, hc, hrequest⟩ := Action.of_attempts_ok hsent
  rw [← outgoing_of_catalog hc] at hrequest
  obtain ⟨⟨result, hran⟩, hfinal, -, sql, placeholders, hreads⟩ :=
    runWith_of_answered (introspecting_read hc) (introspecting_debugs hc facade) hrequest hexchange
  obtain ⟨hfetched, hclient, hdialect⟩ := fetchAll_of_holds hreads.holds .assoc
  rw [Client.foldCase_of_driver hreads.sends.exchanged.driver_eq, hrows] at hfetched
  have hcolumns : (columns table .assoc (.bool false)).outcome facade = .ok rows := by
    rw [Action.outcome_congr (columns_of_catalog hc .assoc _)]
    exact (Action.outcome_bind_ok hran).trans hfetched
  have hafter : (introspect table).after facade =
      (fetchAll .assoc).after ((query (.text catalog.sql)
        (.map (Descriptor.asPlaceholders catalog.placeholders)) (.bool false)).after facade) := by
    unfold introspect
    rw [Action.after_get_bind, Action.after_bind_ok hcolumns, Action.ofAttempt_after,
      Action.after_congr (columns_of_catalog hc .assoc _)]
    exact Action.after_bind_ok hran
  refine ⟨?_, ?_, ?_⟩
  · unfold introspect
    rw [Action.outcome_get_bind, Action.outcome_bind_ok hcolumns, Action.outcome_ofAttempt, hnames]
  · rw [hafter]
    exact hclient.trans hfinal
  · rw [hafter]
    exact hdialect.trans hreads.dialect

/-! ## Lookups -/

/-- What a lookup does with the names that it found. -/
def keep (now : Int) (table : String) (names : List Value) : Action (Facade σ) (List Value) := do
  let cache ← Action.ofAttempt ((← get).cache.store now (cacheKey table) names)
  modify fun facade => { facade with cache }
  return names

theorem columnNames_of_hit {entry : CachedColumns}
    (h : facade.cache.find? facade.now (cacheKey table) = some entry) :
    columnNames table facade =
      .ok entry.names { facade with cache := facade.cache.touch entry } := by
  unfold columnNames
  rw [Action.get_bind, h]
  rfl

theorem columnNames_of_miss (h : facade.cache.find? facade.now (cacheKey table) = none) :
    columnNames table facade = (introspect table >>= keep facade.now table) facade := by
  unfold columnNames introspect
  rw [Action.get_bind, h, bind_assoc, Action.get_bind, bind_assoc]
  rfl

omit [Connection σ] in
/-- A cache without room refuses the names; otherwise they are given as they were found. -/
theorem outcome_keep (now : Int) (table : String) (names : List Value) (facade : Facade σ) :
    (keep now table names).outcome facade =
      if facade.cache.capacity < 1 then .error .badValue else .ok names := by
  unfold keep ColumnCache.store
  rw [Action.outcome_get_bind]
  split
  · rfl
  · rfl

/-! ## What leaves the cache alone -/

/-- The cache with its clock. -/
def shelf (facade : Facade σ) : ColumnCache × Int := (facade.cache, facade.now)

omit [Connection σ] in
theorem onBuilder_leavesShelf {α : Type} (action : Action (Builder σ) α) :
    Keeps Eq shelf (onBuilder action) :=
  fun facade => by rw [after_onBuilder]; rfl

omit [Connection σ] in
theorem prepare_leavesShelf (request : Request σ) : Keeps Eq shelf request.prepare := by
  have htake (debug : Value) : Keeps Eq shelf (takeDebug debug : Action (Facade σ) Value) :=
    fun facade => by rw [after_takeDebug]; rfl
  unfold Request.prepare prepare
  split
  · exact (onBuilder_leavesShelf _).bind fun _ =>
      (htake _).bind fun _ => onBuilder_leavesShelf _
  · exact onBuilder_leavesShelf _

theorem Call.run_leavesShelf {α : Type} (call : Call α) :
    Keeps Eq shelf (call.run : Action (Facade σ) α) := by
  intro facade
  cases h : call.request (σ := σ) facade.builder.dialect with
  | error fault => rw [Action.after, run_of_refused h]
  | ok request =>
    rw [Action.after, run_of_request h, ← Action.after]
    exact (((prepare_leavesShelf request).bind fun _ => onBuilder_leavesShelf _).bind fun result =>
      finish_leaves (fun _ => onBuilder_leavesShelf _) (fun _ => onBuilder_leavesShelf _) call
        result) facade

theorem introspect_leavesShelf (table : String) :
    Keeps Eq shelf (introspect table : Action (Facade σ) (List Value)) :=
  Keeps.get.bind fun _ =>
    Keeps.bind (Call.columns table .assoc (.bool false)).run_leavesShelf fun _ => Keeps.ofAttempt _

/-! ## Sessions -/

/-- What may be done in a session: a step, or setting a debug mode for one call. -/
inductive Move (σ : Type) where
  | step (step : Step σ)
  | setDebugOnce (mode : Value)

def Move.run : Move σ → Action (Facade σ) Unit
  | .step taken => taken.run
  | .setDebugOnce mode => Facade.setDebugOnce mode

def moved (facade : Facade σ) (moves : List (Move σ)) : Facade σ :=
  moves.foldl (fun facade move => move.run.after facade) facade

/-- Column names are looked up of some tables only, and the clock does not go back. -/
def Move.Within (tables : Set String) : Move σ → Prop
  | .step (.columnNames table) => table ∈ tables
  | .step (.advance span) => 0 ≤ span
  | _ => True

/-- Introspections are written and answered in the same way. -/
structure SameCatalog (facade later : Facade σ) : Prop where
  dialect : later.builder.dialect = facade.builder.dialect
  driver : later.client.driver = facade.client.driver
  answers : ∀ table sql values,
    introspection (Connection.parser σ) facade.builder.dialect facade.client.paramstyle table =
      .ok (sql, values) →
      (Connection.execute sql values later.client.connection).1 =
        (Connection.execute sql values facade.client.connection).1

/-- Throughout the moves introspections are answered as they were at first. -/
def Steady (facade : Facade σ) (moves : List (Move σ)) : Prop :=
  ∀ done, done <+: moves → facade.SameCatalog (facade.moved done)

theorem SameCatalog.lists_iff (h : facade.SameCatalog later) :
    later.Lists table names ↔ facade.Lists table names := by
  have hstyle : later.client.paramstyle = facade.client.paramstyle := congrArg Prod.fst h.driver
  unfold Lists
  rw [h.dialect, hstyle, Client.foldCase_of_driver h.driver]
  constructor
  · rintro ⟨sql, values, answer, rows, hsent, hanswer, hrest⟩
    exact ⟨sql, values, answer, rows, hsent, h.answers table sql values hsent ▸ hanswer, hrest⟩
  · rintro ⟨sql, values, answer, rows, hsent, hanswer, hrest⟩
    exact ⟨sql, values, answer, rows, hsent, (h.answers table sql values hsent).trans hanswer,
      hrest⟩

/-- Looking the table up is as good as introspecting it: it returns if that does, and what it
returns is what the backend lists for this table. -/
structure Transparent (facade : Facade σ) (table : String) : Prop where
  returns : ∀ names, (introspect table).outcome facade = .ok names →
    (columnNames table).outcome facade = .ok names
  lists : ∀ names, (columnNames table).outcome facade = .ok names → facade.Lists table names

/-! ## What is cached -/

/-- The cache has the room and the time of the first one, and what it has was listed for a table
that is kept under its name. -/
structure Faithful (tables : Set String) (first later : Facade σ) : Prop where
  capacity : later.cache.capacity = first.cache.capacity
  timeToLive : later.cache.timeToLive = first.cache.timeToLive
  entries : ∀ entry ∈ later.cache.entries, entry.storedAt ≤ later.now ∧
    ∃ table ∈ tables, cacheKey table = entry.table ∧ first.Lists table entry.names

variable {tables : Set String} {first next : Facade σ}

/-- A cache stays faithful if what is added was listed. -/
theorem Faithful.of_within {added : List CachedColumns} (h : Faithful tables first later)
    (hcache : next.cache.Within later.cache added) (hnow : later.now ≤ next.now)
    (hadded : ∀ entry ∈ added, entry.storedAt ≤ next.now ∧
      ∃ table ∈ tables, cacheKey table = entry.table ∧ first.Lists table entry.names) :
    Faithful tables first next where
  capacity := hcache.capacity.trans h.capacity
  timeToLive := hcache.timeToLive.trans h.timeToLive
  entries entry hentry := by
    rcases hcache.entries entry hentry with hold | hnew
    · exact ⟨Int.le_trans (h.entries entry hold).1 hnow, (h.entries entry hold).2⟩
    · exact hadded entry hnew

theorem Faithful.of_within_nil (h : Faithful tables first later)
    (hcache : next.cache.Within later.cache []) (hnow : later.now ≤ next.now) :
    Faithful tables first next :=
  h.of_within hcache hnow fun _ hnone => absurd hnone List.not_mem_nil

theorem Faithful.of_sameShelf (h : Faithful tables first later)
    (hshelf : later.shelf = next.shelf) : Faithful tables first next := by
  obtain ⟨hcache, hnow⟩ := Prod.mk.inj hshelf
  refine h.of_within_nil ?_ (Int.le_of_eq hnow)
  rw [hcache]
  exact ColumnCache.within_self _

theorem Faithful.columnNames (h : Faithful tables first later) (hsame : first.SameCatalog later)
    (htable : table ∈ tables) : Faithful tables first ((columnNames table).after later) := by
  cases hfind : later.cache.find? later.now (cacheKey table) with
  | some entry =>
    rw [Action.after, columnNames_of_hit hfind]
    exact h.of_within_nil (ColumnCache.within_touch (ColumnCache.find?_spec hfind).1)
      (Int.le_refl _)
  | none =>
    rw [Action.after_congr (columnNames_of_miss hfind), Action.after_bind]
    have hshelf := introspect_leavesShelf table later
    split
    · next names hfound =>
      obtain ⟨hcache, hnow⟩ := Prod.mk.inj hshelf
      unfold keep
      rw [Action.after_get_bind]
      rw [← hcache]
      cases hstore : later.cache.store later.now (cacheKey table) names with
      | error fault => exact h.of_sameShelf hshelf
      | ok cache =>
        rw [Action.ofAttempt_ok_bind]
        have hlists : first.Lists table names := hsame.lists_iff.mp (lists_of_introspect hfound)
        refine h.of_within (ColumnCache.within_store hstore) (Int.le_of_eq hnow) ?_
        intro entry hentry
        obtain rfl := List.mem_singleton.mp hentry
        exact ⟨Int.le_of_eq hnow, table, htable, rfl, hlists⟩
    · exact h.of_sameShelf hshelf

/-- What one move keeps. -/
theorem Faithful.move (h : Faithful tables first later) (hsame : first.SameCatalog later)
    {move : Move σ} (hmove : move.Within tables) :
    Faithful tables first (move.run.after later) := by
  cases move with
  | setDebugOnce mode =>
    have hleaves : Keeps Eq shelf (Facade.setDebugOnce mode : Action (Facade σ) Unit) :=
      (Keeps.ofAttempt _).bind fun _ => Keeps.modify fun _ => rfl
    exact h.of_sameShelf (hleaves later)
  | step taken =>
    cases taken with
    | make call =>
      have hleaves : Keeps Eq shelf (do let _ ← call.run : Action (Facade σ) Unit) :=
        call.run_leavesShelf.bind fun _ => Keeps.pure _
      exact h.of_sameShelf (hleaves later)
    | onBuilder action => exact h.of_sameShelf (onBuilder_leavesShelf action later)
    | columnNames table =>
      show Faithful tables first ((do let _ ← Facade.columnNames table).after later)
      rw [Action.after_discard]
      exact h.columnNames hsame hmove
    | forgetColumns table =>
      refine h.of_within_nil ?_ (Int.le_refl _)
      cases table with
      | none => exact ColumnCache.within_clear _
      | some table => exact ColumnCache.within_erase _ _
    | advance span =>
      exact h.of_within_nil (ColumnCache.within_self _) (Int.le_add_of_nonneg_right hmove)

/-- What a session keeps. -/
theorem Faithful.moved {moves : List (Move σ)} (h : Faithful tables first later)
    (hsteady : ∀ done, done <+: moves → first.SameCatalog (later.moved done))
    (hmoves : ∀ move ∈ moves, move.Within tables) :
    Faithful tables first (later.moved moves) := by
  induction moves generalizing later with
  | nil => exact h
  | cons move rest ih =>
    have hnext := h.move (hsteady [] List.nil_prefix) (hmoves move List.mem_cons_self)
    refine ih hnext (fun done hdone => ?_) fun other hother =>
      hmoves other (List.mem_cons_of_mem _ hother)
    exact hsteady (move :: done) (List.cons_prefix_cons.mpr ⟨rfl, hdone⟩)

/-! ## Transparent lookups -/

/-- Each table that can be introspected has room in the cache, and unless all that is stored is over
at once, the tables that are kept under one name with it are introspected by one statement. -/
def KeysTell (parser : SqlParser) (dialect : Dialect) (style : Paramstyle) (tables : Set String)
    (capacity timeToLive : Int) : Prop :=
  ∀ table ∈ tables, ∀ sending, introspection parser dialect style table = .ok sending →
    1 ≤ capacity ∧
      (0 < timeToLive → ∀ other ∈ tables, cacheKey other = cacheKey table →
        introspection parser dialect style other = .ok sending)

/-- Tables that are introspected by one statement are listed alike. -/
theorem Lists.of_introspection {other : String} (h : facade.Lists table names)
    (hother : ∀ sending,
      introspection (Connection.parser σ) facade.builder.dialect facade.client.paramstyle table =
        .ok sending →
        introspection (Connection.parser σ) facade.builder.dialect facade.client.paramstyle other =
          .ok sending) :
    facade.Lists other names := by
  obtain ⟨sql, values, answer, rows, hsent, hrest⟩ := h
  exact ⟨sql, values, answer, rows, hother _ hsent, hrest⟩

theorem Lists.unique {names' : List Value} (h : facade.Lists table names)
    (h' : facade.Lists table names') : names = names' := by
  obtain ⟨sql, values, answer, rows, hsent, hanswer, hrows, hnames⟩ := h
  obtain ⟨sql', values', answer', rows', hsent', hanswer', hrows', hnames'⟩ := h'
  cases hsent.symm.trans hsent'
  cases hanswer.symm.trans hanswer'
  cases hrows.symm.trans hrows'
  exact Except.ok.inj (hnames.symm.trans hnames')

theorem transparent_of_hit {entry : CachedColumns}
    (hfind : facade.cache.find? facade.now (cacheKey table) = some entry)
    (hlists : facade.Lists table entry.names) : facade.Transparent table := by
  have hgiven : (columnNames table).outcome facade = .ok entry.names := by
    rw [Action.outcome, columnNames_of_hit hfind]
  refine ⟨fun names hfound => ?_, fun names hnames => ?_⟩
  · rw [hgiven, hlists.unique (lists_of_introspect hfound)]
  · cases hgiven.symm.trans hnames
    exact hlists

theorem transparent_of_miss (hfind : facade.cache.find? facade.now (cacheKey table) = none)
    (hroom : ∀ names, facade.Lists table names → 1 ≤ facade.cache.capacity) :
    facade.Transparent table := by
  have hmiss := columnNames_of_miss hfind
  have hcache : facade.cache = ((introspect table).after facade).cache :=
    congrArg Prod.fst (introspect_leavesShelf table facade)
  refine ⟨fun names hfound => ?_, fun names hnames => ?_⟩
  · have hcapacity := hroom names (lists_of_introspect hfound)
    rw [Action.outcome_congr hmiss, Action.outcome_bind_ok hfound, outcome_keep, ← hcache,
      if_neg (Int.not_lt.mpr hcapacity)]
  · rw [Action.outcome_congr hmiss] at hnames
    obtain ⟨found, hfound, hkept⟩ := Action.of_outcome_bind_ok hnames
    rw [outcome_keep] at hkept
    split at hkept
    · cases hkept
    · exact Except.ok.inj hkept ▸ lists_of_introspect hfound

theorem Faithful.transparent {capacity timeToLive : Int} {policy : CachePolicy}
    (h : Faithful tables first later) (hcache : first.cache = { capacity, timeToLive, policy })
    (hsame : first.SameCatalog later)
    (htell : KeysTell (Connection.parser σ) first.builder.dialect first.client.paramstyle tables
      capacity timeToLive)
    (htable : table ∈ tables) : later.Transparent table := by
  have hcapacity : later.cache.capacity = capacity := by rw [h.capacity, hcache]
  have htime : later.cache.timeToLive = timeToLive := by rw [h.timeToLive, hcache]
  cases hfind : later.cache.find? later.now (cacheKey table) with
  | some entry =>
    obtain ⟨hmem, hkey, halive⟩ := ColumnCache.find?_spec hfind
    obtain ⟨hstored, other, hother, hsource, hlists⟩ := h.entries entry hmem
    have hpositive : 0 < timeToLive := by
      rw [htime] at halive
      omega
    refine transparent_of_hit hfind (hsame.lists_iff.mpr (hlists.of_introspection ?_))
    intro sending hsent
    exact (htell other hother sending hsent).2 hpositive table htable (hkey.symm.trans hsource.symm)
  | none =>
    refine transparent_of_miss hfind fun names hlists => ?_
    obtain ⟨sql, values, -, -, hsent, -⟩ := hsame.lists_iff.mp hlists
    rw [hcapacity]
    exact (htell table htable _ hsent).1

end Facade

/-! ## A connection that answers by the statement -/

/-- A connection that accepts every statement and answers it from a table of answers. Its statements
are read by a parser. -/
structure Answering (parser : SqlParser) where
  answer : String → Option Arguments → ResultSet

namespace Answering

variable {parser : SqlParser}

instance : Connection (Answering parser) where
  parser := parser
  execute sql values connection := (.ok (connection.answer sql values), connection)
  commit connection := (.ok (), connection)
  rollback connection := (.ok (), connection)
  close := id
  hasOpenWork _ := false

theorem run_answers (client : Client (Answering parser)) (sql : String)
    (values : Option Arguments) :
    (Client.run sql values).outcome client = .ok (client.connection.answer sql values) ∧
      ((Client.run sql values).after client).connection = client.connection := by
  obtain ⟨connection, paramstyle, columnCase, inTransaction, lastRowId, calls⟩ := client
  cases inTransaction <;> exact ⟨rfl, rfl⟩

def facade (answer : String → Option Arguments → ResultSet) (dialect : Dialect)
    (style : Paramstyle) (capacity timeToLive : Int) (policy : CachePolicy) :
    Facade (Answering parser) where
  builder := { client := { connection := ⟨answer⟩, paramstyle := style }, dialect }
  cache := { capacity, timeToLive, policy }

def oneColumn (dialect : Dialect) (name : String) : ResultSet where
  columns := some [dialect.columnNameKey]
  rows := [[.text name]]

theorem oneColumn_listed (dialect : Dialect) (name : String) :
    ∃ rows, (oneColumn dialect name).listing.all id .assoc = .ok rows ∧
      Facade.namesIn dialect rows = .ok [.text name] := by
  cases dialect <;> exact ⟨_, rfl, rfl⟩

section Lookup

open Facade (introspect introspection cacheKey columnNames)

variable {answer : String → Option Arguments → ResultSet} {dialect : Dialect} {style : Paramstyle}
  {capacity timeToLive : Int} {policy : CachePolicy} {table name sql : String}
  {values : Option Arguments}

/-- An introspection finds the name that it is answered, and changes nothing for others. -/
theorem introspect_finds {first : Facade (Answering parser)}
    (hcase : first.client.columnCase = none)
    (hsent : introspection (parser) first.builder.dialect first.client.paramstyle table =
      .ok (sql, values))
    (hanswer : first.client.connection.answer sql values =
      oneColumn first.builder.dialect name) :
    (introspect table).outcome first = .ok [.text name] ∧
      first.SameCatalog ((introspect table).after first) := by
  have hfold : first.client.foldCase = id := by
    funext column
    unfold Client.foldCase
    rw [hcase]
    rfl
  obtain ⟨rows, hrows, hnames⟩ := oneColumn_listed first.builder.dialect name
  obtain ⟨hgiven, hconnection⟩ := run_answers first.client sql values
  let exchange : Exchange := ⟨sql, values, oneColumn first.builder.dialect name⟩
  have hexchange : first.client.Exchanges [exchange]
      ((Client.run sql values).after first.client) :=
    Client.exchanges_singleton_iff.mpr ⟨hgiven.trans (congrArg Except.ok hanswer), rfl⟩
  have hsent' : introspection (parser) first.builder.dialect first.client.paramstyle table =
    .ok (exchange.sql, exchange.values) := hsent
  rw [← hfold] at hrows
  obtain ⟨houtcome, hclient, hdialect⟩ :=
    Facade.introspect_of_answered hsent' hexchange hrows hnames
  refine ⟨houtcome, hdialect, ?_, fun other sql values _ => ?_⟩
  · rw [hclient]
    exact hexchange.driver_eq
  · rw [hclient, hconnection]

/-- After a lookup the names are found for every table with the same key. -/
theorem columnNames_of_sameKey {other : String}
    (hsent : introspection parser dialect style table = .ok (sql, values))
    (hanswer : answer sql values = oneColumn dialect name) (hcapacity : 1 ≤ capacity)
    (htime : 0 < timeToLive) (hkey : cacheKey other = cacheKey table) :
    let first : Facade (Answering parser) :=
      facade answer dialect style capacity timeToLive policy
    let later := first.moved [.step (.columnNames table)]
    first.SameCatalog later ∧ (columnNames other).outcome later = .ok [.text name] := by
  intro first later
  have hfinds : (introspect table).outcome first = .ok [.text name] ∧
    first.SameCatalog ((introspect table).after first) := introspect_finds rfl hsent hanswer
  obtain ⟨hfound, hsame⟩ := hfinds
  have hmiss : first.cache.find? first.now (cacheKey table) = none := rfl
  obtain ⟨hcache, hnow⟩ := Prod.mk.inj (Facade.introspect_leavesShelf table first)
  let entry : CachedColumns := ⟨cacheKey table, [.text name], 0⟩
  have hlater : later = { (introspect table).after first with
      cache := { capacity, timeToLive, policy, entries := [entry] } } := by
    show (do let _ ← columnNames table).after first = _
    rw [Action.after_discard, Action.after_congr (Facade.columnNames_of_miss hmiss),
      Action.after_bind_ok hfound]
    have hstore : ((introspect table).after first).cache.store first.now (cacheKey table)
        [.text name] = .ok { capacity, timeToLive, policy, entries := [entry] } := by
      rw [← hcache]
      exact ColumnCache.store_of_empty hcapacity timeToLive 0 _ _ policy
    unfold Facade.keep
    rw [Action.after_get_bind, hstore]
    rfl
  have hhit : later.cache.find? later.now (cacheKey other) = some entry := by
    rw [hlater, hkey]
    show ColumnCache.find? _ ((introspect table).after first).now _ = _
    rw [← hnow]
    exact ColumnCache.find?_of_single capacity policy (Int.lt_add_of_pos_right 0 htime)
  refine ⟨?_, ?_⟩
  · rw [hlater]
    exact ⟨hsame.dialect, hsame.driver, hsame.answers⟩
  · rw [Action.outcome, Facade.columnNames_of_hit hhit]

end Lookup

end Answering

namespace Facade

/-! ## When lookups are transparent -/

/-- After any session that looks up only the tables and whose introspections are answered in the
same way throughout, looking up any of the tables is as good as introspecting it. The packages that
read statements and manage the room of the cache are given. -/
def LookupsTransparent (parser : SqlParser) (policy : CachePolicy) (dialect : Dialect)
    (style : Paramstyle) (tables : Set String) (capacity timeToLive : Int) : Prop :=
  ∀ (σ : Type) [Connection σ] (first : Facade σ) (moves : List (Move σ)),
    Connection.parser σ = parser → first.builder.dialect = dialect →
      first.client.paramstyle = style → first.cache = { capacity, timeToLive, policy } →
        (∀ move ∈ moves, move.Within tables) → first.Steady moves →
          ∀ table ∈ tables, (first.moved moves).Transparent table

theorem Steady.nil [Connection σ] (first : Facade σ) : first.Steady [] := by
  intro done hdone
  rw [List.prefix_nil.mp hdone]
  exact ⟨rfl, rfl, fun _ _ _ _ => rfl⟩

theorem Steady.single [Connection σ] {first : Facade σ} {move : Move σ}
    (h : first.SameCatalog (first.moved [move])) : first.Steady [move] := by
  intro done hdone
  rcases List.prefix_cons_iff.mp hdone with rfl | ⟨rest, rfl, hrest⟩
  · exact Steady.nil first [] List.prefix_rfl
  · rw [List.prefix_nil.mp hrest]
    exact h

section

variable {parser : SqlParser} {policy : CachePolicy} {dialect : Dialect} {style : Paramstyle}
  {tables : Set String} {capacity timeToLive : Int} {table sql : String}
  {values : Option Arguments}

open Answering (oneColumn introspect_finds columnNames_of_sameKey)

/-- A cache without room would refuse what an introspection finds. -/
theorem LookupsTransparent.room
    (h : LookupsTransparent parser policy dialect style tables capacity timeToLive)
    (htable : table ∈ tables)
    (hsent : introspection parser dialect style table = .ok (sql, values)) : 1 ≤ capacity := by
  by_contra hfull
  let first : Facade (Answering parser) :=
    Answering.facade (fun _ _ => oneColumn dialect "a") dialect style capacity timeToLive policy
  have hfound : (introspect table).outcome first = .ok [.text "a"] :=
    (introspect_finds rfl hsent rfl).1
  have hgiven :=
    (h (Answering parser) first [] rfl rfl rfl rfl (fun _ hnone => absurd hnone List.not_mem_nil)
    (Steady.nil first) table htable).returns _ hfound
  have hcache : first.cache = ((introspect table).after first).cache :=
    congrArg Prod.fst (introspect_leavesShelf table first)
  change (columnNames table).outcome first = _ at hgiven
  have hless : first.cache.capacity < 1 := Int.not_le.mp hfull
  rw [Action.outcome_congr (columnNames_of_miss rfl), Action.outcome_bind_ok hfound, outcome_keep,
    ← hcache, if_pos hless] at hgiven
  cases hgiven

/-- Tables with one key that were introspected by different statements could be listed
differently. -/
theorem LookupsTransparent.sameStatement
    (h : LookupsTransparent parser policy dialect style tables capacity timeToLive)
    (htable : table ∈ tables)
    (hsent : introspection parser dialect style table = .ok (sql, values))
    (htime : 0 < timeToLive) {other : String} (hother : other ∈ tables)
    (hkey : cacheKey other = cacheKey table) :
    introspection parser dialect style other = .ok (sql, values) := by
  classical
  let answer (spelled : String) (bound : Option Arguments) : ResultSet :=
    oneColumn dialect (if spelled = sql ∧ bound = values then "a" else "b")
  have hanswer : answer sql values = oneColumn dialect "a" :=
    congrArg (oneColumn dialect) (if_pos ⟨rfl, rfl⟩)
  let first : Facade (Answering parser) :=
    Answering.facade answer dialect style capacity timeToLive policy
  let move : Move (Answering parser) := .step (.columnNames table)
  obtain ⟨hsame, hgiven⟩ : first.SameCatalog (first.moved [move]) ∧
      (columnNames other).outcome (first.moved [move]) = .ok [.text "a"] :=
    columnNames_of_sameKey hsent hanswer (h.room htable hsent) htime hkey
  have hmoves : ∀ made ∈ [move], made.Within tables := by
    intro made hmade
    rw [List.mem_singleton.mp hmade]
    exact htable
  have hlists :=
    (h (Answering parser) first [move] rfl rfl rfl rfl hmoves (Steady.single hsame) other
    hother).lists _ hgiven
  obtain ⟨spelled, bound, given, rows, hasked, hanswered, hrows, hnames⟩ :=
    hsame.lists_iff.mp hlists
  cases hanswered
  obtain ⟨rows', hrows', hnames'⟩ := Answering.oneColumn_listed dialect
    (if spelled = sql ∧ bound = values then "a" else "b")
  cases hrows.symm.trans hrows'
  have hname := hnames.symm.trans hnames'
  split at hname
  · next heq => rw [← heq.1, ← heq.2]; exact hasked
  · simp at hname

end

/-- Oracle and Firebird are asked for a table in capitals, so there it is enough that tables with
one key have the same name in capitals. -/
theorem keysTell_of_capitals (parser : SqlParser) {dialect : Dialect}
    (h : dialect = .oracle ∨ dialect = .firebird) (style : Paramstyle) {tables : Set String}
    {capacity : Int} (hroom : 1 ≤ capacity) (timeToLive : Int)
    (htables : ∀ table ∈ tables, ∀ other ∈ tables, cacheKey other = cacheKey table →
      Text.upper (Text.trim other) = Text.upper (Text.trim table)) :
    KeysTell parser dialect style tables capacity timeToLive := by
  refine fun table htable sending hsent => ⟨hroom, fun _ other hother hkey => ?_⟩
  have hquery : dialect.columnsQuery other = dialect.columnsQuery table := by
    unfold Dialect.columnsQuery
    rcases h with rfl | rfl
    all_goals
      dsimp only
      rw [htables table htable other hother hkey]
  unfold introspection
  rw [hquery]
  exact hsent

/-- **The cache of column names is transparent just if its keys tell the tables apart.** Whatever is
looked up, forgotten or done otherwise in between, and however entries expire or are evicted,
looking a table up returns the names that introspecting it returns, and only names that the backend
lists for this table; this holds for all backends just if each table that can be introspected has
room in the cache and shares its key with no table that is introspected by another statement. -/
theorem lookups_transparent_iff {parser : SqlParser} {policy : CachePolicy} {dialect : Dialect}
    {style : Paramstyle} {tables : Set String} {capacity timeToLive : Int} :
    LookupsTransparent parser policy dialect style tables capacity timeToLive ↔
      KeysTell parser dialect style tables capacity timeToLive := by
  constructor
  · intro h table htable sending hsent
    obtain ⟨sql, values⟩ := sending
    exact ⟨h.room htable hsent, fun htime other hother hkey =>
      h.sameStatement htable hsent htime hother hkey⟩
  · rintro h σ _ first moves rfl rfl rfl hcache hmoves hsteady table htable
    have hempty : Faithful tables first first :=
      ⟨rfl, rfl, fun entry hentry => by rw [hcache] at hentry; cases hentry⟩
    exact (hempty.moved hsteady hmoves).transparent hcache (hsteady moves List.prefix_rfl) h htable

/-- What a database with the tables `Users` and `users` answers to introspections. -/
def usersInCapitals (sql : String) (_ : Option Arguments) : ResultSet :=
  Answering.oneColumn .mysql (if sql = "SHOW COLUMNS FROM \x60Users\x60" then "id" else "name")

/-- Once `Users` was looked up, its columns are given for `users`. -/
theorem columnNames_of_another_table :
    let first : Facade (Answering .standard) :=
      Answering.facade usersInCapitals .mysql .qmark 100 60000000 .leastRecentlyUsed
    let lookup : Move (Answering .standard) := .step (.columnNames "Users")
    first.Steady [lookup] ∧
      (introspect "users").outcome (first.moved [lookup]) = .ok [.text "name"] ∧
      (columnNames "users").outcome (first.moved [lookup]) = .ok [.text "id"] := by
  intro first lookup
  have hcapital : introspection .standard .mysql .qmark "Users" =
      .ok ("SHOW COLUMNS FROM \x60Users\x60", none) := rfl
  have hsmall : introspection .standard .mysql .qmark "users" =
      .ok ("SHOW COLUMNS FROM \x60users\x60", none) := rfl
  obtain ⟨hsame, hgiven⟩ : first.SameCatalog (first.moved [lookup]) ∧
      (columnNames "users").outcome (first.moved [lookup]) = .ok [.text "id"] :=
    Answering.columnNames_of_sameKey hcapital rfl (by decide) (by decide) (by decide)
  refine ⟨Steady.single hsame, ?_, hgiven⟩
  clear hgiven
  generalize first.moved [lookup] = later at hsame
  have hstyle : later.client.paramstyle = .qmark := congrArg Prod.fst hsame.driver
  have hanswer : later.client.connection.answer "SHOW COLUMNS FROM \x60users\x60" none =
      Answering.oneColumn .mysql "name" :=
    Except.ok.inj (hsame.answers "users" _ none hsmall)
  have hfinds := Answering.introspect_finds (congrArg Prod.snd hsame.driver)
    (by rw [hsame.dialect, hstyle]; exact hsmall) (by rw [hsame.dialect]; exact hanswer)
  exact hfinds.1

end Facade

end SqlToolkit
