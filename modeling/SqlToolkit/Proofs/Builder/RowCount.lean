import SqlToolkit.Proofs.Builder.Counting
import SqlToolkit.Proofs.Pages.Counting
import SqlToolkit.Proofs.Statement.CountingForm

/-!
# The number of rows of the last read

A SELECT of all columns or of one, without a limit, was executed; the statement that counts its rows
is sent and answered as SQL has it. What comes back is the number of the rows that were returned,
except in two cases. Distinct rows of all columns are counted with their repetitions, and the count
of a column leaves out the rows in which it is NULL.
-/

namespace SqlToolkit

open SqlToolkit.Text

/-! ## The SELECT and its counting form -/

/-- Fields that stand for all columns, or for one that is not named by a keyword. -/
inductive Query.Plain (fields : String) : Selected → Prop where
  | all (h : fields = "*") : Plain fields .all
  | column (h : Query.IsColumn fields.toList)
      (hname : Query.isKeyword "FROM" fields.toList = false) : Plain fields (.column fields)

namespace Query.Plain

variable {fields : String} {selected : Selected}

theorem spells (h : Plain fields selected) : Spells fields.toList selected := by
  cases h with
  | all h =>
    rw [h]
    exact spells_all
  | column h =>
    have hspells := spells_column h
    rwa [String.ofList_toList] at hspells

theorem isItem (h : Plain fields selected) : Statement.IsItem fields.toList := by
  cases h with
  | all h =>
    rw [h]
    exact ⟨.of_all (by decide) (by decide), by decide⟩
  | column h hname =>
    exact ⟨⟨h.1.1, fun c hc => by simp [Join.isBlank_of_isColumnChar (h.1.2 c hc)]⟩, hname⟩

theorem not_count (h : Plain fields selected) (tally : Tally) : selected ≠ .count tally := by
  cases h <;> exact Selected.noConfusion

end Query.Plain

namespace Descriptor

/-- A SELECT of all columns or of one, without a limit. -/
structure SelectsPlainly (descriptor : Descriptor) (selected : Selected) : Prop where
  kind : descriptor.kind = .select
  fields : Query.Plain descriptor.fields selected
  unlimited : descriptor.parameters.limit.isUnset = true

def wholeSource (descriptor : Descriptor) : String := descriptor.source ++ descriptor.tailText

def query (descriptor : Descriptor) (selected : Selected) : Query :=
  ⟨descriptor.parameters.selectDistinct.truthy, selected, descriptor.wholeSource⟩

/-- Without groups, an order in which there is no other one is all that is not counted. -/
theorem unordered_wholeSource {descriptor : Descriptor}
    (hgroups : descriptor.parameters.groupBy.truthy = false)
    (horders : descriptor.parameters.orderBy.truthy = true)
    (h : Statement.beforeLast? Statement.dropOrderBy?
      (' ' :: descriptor.parameters.orderBy.display.toList) = none)
    (hsource : dropBlanks descriptor.source.toList ≠ []) :
    Statement.unordered descriptor.wholeSource = trim descriptor.source := by
  have htail : descriptor.tailText = " ORDER BY " ++ descriptor.parameters.orderBy.display := by
    simp [tailText, clauseText, hgroups, horders]
  rw [wholeSource, htail, ← String.append_assoc, Statement.unordered_append h hsource]

/-- A SELECT without a limit is its fields and its source. -/
theorem spelled_of_unlimited {descriptor : Descriptor} (hkind : descriptor.kind = .select)
    (hlimit : descriptor.parameters.limit.isUnset = true) {dialect : Dialect} {sql : String}
    (h : descriptor.sql dialect = .ok sql) :
    sql = Query.spelled descriptor.parameters.selectDistinct.truthy descriptor.fields
      descriptor.wholeSource := by
  have hspelled := descriptor.spelled_eq
  rw [String.append_assoc] at hspelled
  rw [sql_of_unlimited hkind hlimit h, Descriptor.selected, ← String.append_assoc, hspelled,
    Query.spelled, Query.spelled, wholeSource, String.append_assoc]

namespace SelectsPlainly

variable {descriptor : Descriptor} {selected : Selected}

theorem sql_eq (h : descriptor.SelectsPlainly selected) {dialect : Dialect} {sql : String}
    (hsql : descriptor.sql dialect = .ok sql) :
    sql = Query.spelled descriptor.parameters.selectDistinct.truthy descriptor.fields
      descriptor.wholeSource :=
  spelled_of_unlimited h.kind h.unlimited hsql

theorem read?_eq (h : descriptor.SelectsPlainly selected) {dialect : Dialect} {sql : String}
    (hsql : descriptor.sql dialect = .ok sql) :
    Query.read? sql = some (descriptor.query selected) := by
  rw [h.sql_eq hsql]
  exact Query.read?_spelled h.fields.spells _ _

/-- The expression that is counted reads as the tally of what is selected. -/
theorem exists_expression (h : descriptor.SelectsPlainly selected) :
    ∃ counted, descriptor.countExpression? = some counted ∧ counted.isEmpty = false ∧
      Query.Spells ("COUNT(" ++ counted ++ ") AS row_count").toList
        (.count (Query.tallyOf descriptor.parameters.selectDistinct.truthy selected)) := by
  have hlabel : IsRun Join.isColumnChar "row_count".toList := .of_all (by decide) (by decide)
  unfold countExpression?
  rw [h.kind]
  dsimp only
  have hfields := h.fields
  cases hfields with
  | all hall =>
    rw [hall]
    exact ⟨"*", rfl, rfl, @Query.spells_count ['*'] _ _ hlabel fun _ => rfl⟩
  | column hcolumn =>
    obtain ⟨c, more, hchars, hc⟩ := hcolumn.1.exists_cons
    have hstar : (descriptor.fields == "*") = false := by
      rw [beq_eq_false_iff_ne]
      intro heq
      rw [heq] at hcolumn
      exact absurd (hcolumn.1.2 '*' List.mem_cons_self) (by decide)
    refine ⟨descriptor.distinctText ++ descriptor.fields, by rw [hstar]; rfl, ?_, ?_⟩
    · rw [← Bool.not_eq_true, String.isEmpty_iff, ← String.toList_inj, String.toList_append, hchars]
      simp
    · have hcounted (rest : List Char) :
          Query.readTally? ((descriptor.distinctText ++ descriptor.fields).toList ++ ')' :: rest) =
            some (.values descriptor.parameters.selectDistinct.truthy
              (.ofList descriptor.fields.toList), rest) := by
        rw [String.toList_append, List.append_assoc]
        exact Query.readTally?_spelled hcolumn _ rest
      have hspells := Query.spells_count hlabel hcounted
      rw [String.ofList_toList] at hspells
      rw [String.toList_append, String.toList_append, List.append_assoc]
      exact hspells

/-- The counting form is a count of the same source, the order aside. -/
theorem read?_probe (h : descriptor.SelectsPlainly selected) {dialect : Dialect}
    {sql probe : String} (hsql : descriptor.sql dialect = .ok sql)
    (hprobe : Statement.countProbe? sql descriptor.countExpression? = some probe) :
    Query.read? probe = some ⟨false,
      .count (Query.tallyOf descriptor.parameters.selectDistinct.truthy selected),
      Statement.unordered descriptor.wholeSource⟩ := by
  obtain ⟨counted, hexpression, hcounted, hspells⟩ := h.exists_expression
  rw [h.sql_eq hsql, hexpression, Statement.countProbe?_spelled h.fields.isItem hcounted] at hprobe
  split at hprobe
  · cases hprobe
  · cases hprobe
    exact Query.read?_spelled hspells _ _

end SelectsPlainly

end Descriptor

/-! ## Answers -/

/-- The exchange is answered as the contents have it: a SELECT by as many rows as it returns, and a
count by a row with the number. -/
structure Contents.Answers {R V : Type} [DecidableEq R] [DecidableEq V] (contents : Contents R V)
    (query : Query) (values : Value.Entries) (exchange : Exchange) : Prop where
  rows : exchange.rows.length = query.rowCount contents values
  number : ∀ count, query.countValue? contents values = some count →
    ∃ others more, exchange.rows = (.int count :: others) :: more

theorem Contents.Answers.countOf_firstRow {R V : Type} [DecidableEq R] [DecidableEq V]
    {contents : Contents R V} {query : Query} {values : Value.Entries} {exchange : Exchange}
    (h : contents.Answers query values exchange) {count : Nat}
    (hcount : query.countValue? contents values = some count) :
    Builder.countOf exchange.firstRow = .ok (count : Int) := by
  obtain ⟨others, more, hrows⟩ := h.number count hcount
  unfold Exchange.firstRow
  rw [hrows]
  rfl

namespace Builder

variable {σ : Type} [Connection σ] {builder : Builder σ} {selected : Selected}

/-- **A count of rows is that of the rows returned, but for repeated rows and NULL.** A SELECT of
all columns or of one from any source, without a limit, was executed and returned. The statement
that is then sent to count its rows is the SELECT itself, or a count of the same source without its
order. That is accepted, and both are answered as one content of the tables has it. Then counting
returns exactly if the SELECT itself was sent again or the keys of its values can be logged, where
they have to be. It returns the number of the rows that the SELECT returned exactly if besides that
the SELECT itself was sent again, or all columns were selected and the rows need not be distinct, or
no two of its rows are the same, or the one column that was selected is NULL in none of its rows. -/
theorem rows_counted_iff (hselects : builder.descriptor.SelectsPlainly selected)
    {result : ExecutionResult} (h : execute.outcome builder = .ok result) :
    let ready := execute.after builder
    let distinct := builder.descriptor.parameters.selectDistinct.truthy
    let selecting := builder.descriptor.query selected
    ∃ sql values first counting,
      builder.rendered = .ok (sql, values) ∧
      builder.client.Sends sql values first ready.client ∧
      Query.read? sql = some selecting ∧
      Query.read? ((ready.probe? sql).getD sql) = some counting ∧
      (counting = selecting ∨ counting = ⟨false, .count (Query.tallyOf distinct selected),
        Statement.unordered selecting.source⟩) ∧
      ∀ {R V : Type} [DecidableEq R] [DecidableEq V] (contents : Contents R V) (again : Exchange)
        (final : Client σ),
        ready.client.Sends ((ready.probe? sql).getD sql) values again final →
        contents.Answers selecting values first → contents.Answers counting values again →
        (contents.rows counting.source values).Perm (contents.rows selecting.source values) →
        ((∃ count, numRows.outcome ready = .ok count) ↔
          ready.probe? sql = none ∨ Loggable ready.debugMode values none) ∧
        (numRows.outcome ready = .ok (first.rows.length : Int) ↔
          ready.probe? sql = none ∨ Loggable ready.debugMode values none ∧
            ((selected = .all ∧ distinct = false) ∨ selecting.CountsAll contents values)) := by
  intro ready distinct selecting
  obtain ⟨sql, values, first, hread⟩ := hasRead_of_execute (by rw [isRead, hselects.kind]) h
  have hsql : builder.descriptor.sql builder.dialect = .ok sql := (rendered_eq_ok hread.rendered).1
  have hreads := hselects.read?_eq hsql
  refine ⟨sql, values, first, ?_⟩
  cases hprobe : ready.probe? sql with
  | none =>
    refine ⟨selecting, hread.rendered, hread.sends, hreads, hreads, .inl rfl, ?_⟩
    intro R V _ _ contents again final hagain hfirst hsecond _
    have hcount := outcome_numRows_of_no_probe hread.holds hprobe hagain
    rw [hsecond.rows, ← hfirst.rows] at hcount
    exact ⟨iff_of_true ⟨_, hcount⟩ (.inl rfl), iff_of_true hcount (.inl rfl)⟩
  | some probe =>
    have hcounting := hselects.read?_probe hsql (hread.probe?_eq ▸ hprobe)
    refine ⟨_, hread.rendered, hread.sends, hreads, hcounting, .inr rfl, ?_⟩
    intro R V _ _ contents again final hagain hfirst hsecond hperm
    rw [or_iff_right (Option.some_ne_none probe), or_iff_right (Option.some_ne_none probe)]
    by_cases hlogged : Loggable ready.debugMode values none
    · obtain ⟨count, hvalue⟩ := Query.exists_countValue (Query.tallyOf distinct selected)
        selecting.source contents values
      have hcount := outcome_numRows_of_sends hread.holds hprobe (hread.captures hlogged) hagain
      rw [hsecond.countOf_firstRow ((Query.countValue?_of_perm _ hperm).trans hvalue)] at hcount
      have hexact : Query.countValue? ⟨false, .count (Query.tallyOf distinct selected),
          selecting.source⟩ contents values = some (selecting.rowCount contents values) ↔
            (selected = .all ∧ distinct = false) ∨ selecting.CountsAll contents values :=
        Query.countValue?_tallyOf_iff hselects.fields.not_count
      refine ⟨iff_of_true ⟨_, hcount⟩ hlogged, ?_⟩
      rw [and_iff_right hlogged, ← hexact, hvalue, hcount, hfirst.rows, Except.ok.injEq,
        Int.natCast_inj, Option.some.injEq]
    · obtain ⟨fault, hfault⟩ := outcome_numRows_of_not_logged hread.holds hprobe hlogged hagain
      rw [hfault]
      exact ⟨iff_of_false (by simp) hlogged, iff_of_false (by simp) fun hboth => hlogged hboth.1⟩

/-! ### A column without NULL, and one with it -/

/-- A builder for a statement, on a connection that gives these answers. -/
def onAnswers (descriptor : Descriptor) (exchanges : List Exchange) : Builder Scripted where
  client :=
    { connection :=
        { responses := exchanges.map fun exchange => { result := exchange.answer } } }
  dialect := .sqlite
  descriptor := descriptor

def inOrder : Descriptor where
  fields := "a"
  table := .text "t"
  clause := { sql := " WHERE a > 0" }
  parameters := { orderBy := .text "a" }

def orderedRows : Exchange :=
  ⟨"SELECT a FROM t WHERE a > 0 ORDER BY a", none,
    { columns := some ["a"], rows := [[.int 1], [.int 2]] }⟩

def orderedCount : Exchange :=
  ⟨"SELECT COUNT(a) AS row_count FROM t WHERE a > 0", none,
    { columns := some ["row_count"], rows := [[.int 2]] }⟩

/-- Two rows with numbers; without an order they come in another one. -/
def numbersAbove : Contents Nat Nat :=
  ⟨fun source _ => if source = inOrder.wholeSource then [1, 2] else [2, 1], fun _ row => some row⟩

theorem rows_counted_iff_inOrder :
    let builder := onAnswers inOrder [orderedRows, orderedCount]
    builder.descriptor.SelectsPlainly (.column "a") ∧
      (∃ result, execute.outcome builder = .ok result) ∧
      numRows.outcome (execute.after builder) = .ok 2 := by
  intro builder
  have hselects : builder.descriptor.SelectsPlainly (.column "a") :=
    ⟨rfl, .column ⟨.of_all (by decide) (by decide), by decide⟩ (by decide), rfl⟩
  have hrendered : builder.rendered = .ok (orderedRows.sql, []) := rfl
  obtain ⟨client, hsends, final, hagain⟩ :
      ∃ client, builder.client.Sends orderedRows.sql [] orderedRows client ∧
        ∃ final, client.Sends orderedCount.sql [] orderedCount final :=
    ⟨_, ⟨rfl, .cons rfl (.nil _)⟩, _, rfl, .cons rfl (.nil _)⟩
  obtain ⟨⟨result, hreturns⟩, rfl, hhasRead⟩ := execute_of_sends rfl hrendered hsends nofun
  have hprobe : (execute.after builder).probe? orderedRows.sql = some orderedCount.sql := by
    rw [hhasRead.probe?_eq]
    decide +kernel
  have hsource : Statement.unordered (builder.descriptor.query (.column "a")).source =
      "t WHERE a > 0" :=
    (Descriptor.unordered_wholeSource rfl rfl (by decide) (by decide)).trans (by decide)
  obtain ⟨sql, values, first, counting, hr, hfirst, -, hcounting, hform, hcounts⟩ :=
    rows_counted_iff hselects hreturns
  cases hrendered.symm.trans hr
  obtain ⟨rfl, -⟩ := hsends.unique hfirst
  rw [hprobe] at hcounting hcounts
  rcases hform with rfl | rfl
  · exact absurd hcounting (by decide +kernel)
  · rw [hsource] at hcounts
    have htwo : Query.countValue? ⟨false, .count (.values false "a"), "t WHERE a > 0"⟩
        numbersAbove [] = some 2 := by decide +kernel
    obtain ⟨-, hiff⟩ := hcounts numbersAbove orderedCount final hagain ⟨by decide +kernel, nofun⟩
      ⟨rfl, fun count hcount => by cases htwo.symm.trans hcount; exact ⟨[], [], rfl⟩⟩
      (by decide +kernel)
    exact ⟨hselects, ⟨result, hreturns⟩,
      hiff.mpr (.inr ⟨loggable_nil _, .inr fun _ _ => Option.some_ne_none _⟩)⟩

/-- A column of two rows, with NULL in one of them. -/
def withNull : Descriptor where
  fields := "a"
  table := .text "t"

def nullRows : Exchange :=
  ⟨"SELECT a FROM t", none, { columns := some ["a"], rows := [[.int 1], [.null]] }⟩

def nullCount : Exchange :=
  ⟨"SELECT COUNT(a) AS row_count FROM t", none,
    { columns := some ["row_count"], rows := [[.int 1]] }⟩

def nullable : Contents Nat Nat :=
  ⟨fun _ _ => [1, 2], fun _ row => if row = 1 then some 1 else none⟩

/-- The two rows were read, and whatever counts them is answered with one. -/
theorem hasRead_withNull :
    let builder := onAnswers withNull [nullRows, nullCount]
    let ready := execute.after builder
    builder.HasRead ready nullRows.sql [] nullRows ∧
      ready.probe? nullRows.sql = some nullCount.sql ∧
      ∀ probe, PreparedStatement.request (Connection.parser Scripted) ready.client.paramstyle
        probe [] =
          .ok (probe, none) →
        ∃ final, ready.client.Sends probe [] { nullCount with sql := probe } final ∧
          final.calls = ready.client.calls ++ [.execute probe none, .commit] := by
  intro builder ready
  obtain ⟨client, hsends, hcounts⟩ :
      ∃ client, builder.client.Sends nullRows.sql [] nullRows client ∧
        ∀ probe,
          PreparedStatement.request (Connection.parser Scripted) client.paramstyle probe [] =
            .ok (probe, none) →
          ∃ final, client.Sends probe [] { nullCount with sql := probe } final ∧
            final.calls = client.calls ++ [.execute probe none, .commit] :=
    ⟨_, ⟨rfl, .cons rfl (.nil _)⟩, fun _ hprobe => ⟨_, ⟨hprobe, .cons rfl (.nil _)⟩, rfl⟩⟩
  obtain ⟨-, hclient, hread⟩ := execute_of_sends rfl rfl hsends nofun
  have hready : ready.client = client := hclient
  rw [hready]
  refine ⟨hread, ?_, hcounts⟩
  rw [hread.probe?_eq]
  decide +kernel

/-- Of two rows one is counted. -/
theorem null_is_not_counted :
    let builder := onAnswers withNull [nullRows, nullCount]
    let ready := execute.after builder
    let selecting : Query := ⟨false, .column "a", "t"⟩
    let counting : Query := ⟨false, .count (.values false "a"), "t"⟩
    builder.HasRead ready nullRows.sql [] nullRows ∧
      Query.read? nullRows.sql = some selecting ∧ Query.read? nullCount.sql = some counting ∧
      nullable.Answers selecting [] nullRows ∧ nullable.Answers counting [] nullCount ∧
      (∃ final, ready.client.Sends nullCount.sql [] nullCount final) ∧
      numRows.outcome ready = .ok 1 ∧ nullRows.rows.length = 2 := by
  intro builder ready selecting counting
  obtain ⟨hread, hprobe, hcounts⟩ := hasRead_withNull
  obtain ⟨final, hagain, -⟩ := hcounts nullCount.sql rfl
  have hone : counting.countValue? nullable [] = some 1 := by decide +kernel
  refine ⟨hread, by decide +kernel, by decide +kernel, ⟨by decide +kernel, nofun⟩,
    ⟨rfl, fun count hcount => ?_⟩, ⟨final, hagain⟩, ?_, rfl⟩
  · cases hone.symm.trans hcount
    exact ⟨[], [], rfl⟩
  · exact outcome_numRows_of_sends hread.holds hprobe (hread.captures (loggable_nil _)) hagain

end Builder

end SqlToolkit
