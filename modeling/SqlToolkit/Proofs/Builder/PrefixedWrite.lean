import SqlToolkit.Proofs.Builder.Statements
import SqlToolkit.Proofs.Statement.LeadingKeyword
import SqlToolkit.Proofs.Transaction.Lasting
import SqlToolkit.Proofs.Transaction.Settling

/-!
# Writes behind a prefix

`WITH name AS (query)` in front of a statement gives a name to a query, and the statement that uses
it may be a write. `WITH` is among the words that statements which return rows begin with, so the
write is run as a read: it has no transaction of its own, and is committed at once even in a debug
mode. Only where a quoted name follows `WITH` without a gap is the first word another one.
-/

namespace SqlToolkit

namespace Statement

open SqlToolkit.Text SqlToolkit.Lexer

/-! ## Statements behind a prefix -/

abbrev Blanks := { chars : List Char // ∀ c ∈ chars, isBlank c = true }

/-- The marks around a name that is no plain word. -/
inductive NameQuote where
  | double
  | backtick
  | bracket

def NameQuote.opening : NameQuote → Char
  | .double => '"'
  | .backtick => '\x60'
  | .bracket => '['

def NameQuote.closing : NameQuote → Char
  | .double => '"'
  | .backtick => '\x60'
  | .bracket => ']'

/-- The name of a query: a word, or any text between marks, in which the closing mark is doubled. -/
inductive QueryName where
  | word (name : List Char) (run : IsRun isWord name)
  | quoted (quote : NameQuote) (content : List Char)

namespace QueryName

def written : QueryName → List Char
  | .word name _ => name
  | .quoted quote content =>
    quote.opening ::
      ((content.flatMap fun c => if c = quote.closing then [c, c] else [c]) ++ [quote.closing])

def isQuoted : QueryName → Bool
  | .word _ _ => false
  | .quoted _ _ => true

end QueryName

/-- Whether every parenthesis is closed, when some are open already. -/
def closesAll : Nat → List Char → Bool
  | depth, [] => depth == 0
  | depth, c :: rest =>
    if c = '(' then closesAll (depth + 1) rest
    else if c = ')' then
      match depth with
      | 0 => false
      | depth + 1 => closesAll depth rest
    else closesAll depth rest

def writeVerbs : List String := ["INSERT", "UPDATE", "DELETE"]

/-- A write behind a prefix. Words may be written in any case, and blanks may stand between all
parts; they must where two words would run together. -/
structure PrefixedWrite where
  lead : Blanks
  withWord : List Char
  gap : Blanks
  name : QueryName
  nameGap : Blanks
  asWord : List Char
  asGap : Blanks
  query : List Char
  queryGap : Blanks
  verb : String
  verbWord : List Char
  rest : List Char
  isWith : Capitals withWord "WITH".toList
  apart : gap.1 = [] → name.isQuoted = true
  nameApart : nameGap.1 = [] → name.isQuoted = true
  isAs : Capitals asWord "AS".toList
  closed : closesAll 0 query = true
  isVerb : verb ∈ writeVerbs ∧ Capitals verbWord verb.toList
  ends : startsWithWord rest = false

namespace PrefixedWrite

variable (form : PrefixedWrite)

/-- What follows the name. -/
def tail : List Char :=
  form.nameGap.1 ++ form.asWord ++ form.asGap.1 ++ '(' :: form.query ++ ')' :: form.queryGap.1 ++
    form.verbWord ++ form.rest

def sql : String :=
  String.ofList (form.lead.1 ++ (form.withWord ++ (form.gap.1 ++ (form.name.written ++ form.tail))))

theorem toList_sql : form.sql.toList =
    form.lead.1 ++ (form.withWord ++ (form.gap.1 ++ (form.name.written ++ form.tail))) :=
  String.toList_ofList

/-- The mark of a name that follows at once becomes part of the first word, which is then no word
for reads. -/
theorem isRead_of_no_gap (parser : SqlParser) (h : form.gap.1 = []) :
    parser.isRead form.sql = false := by
  have hquoted := form.apart h
  have hsql := form.toList_sql
  rw [h, List.nil_append] at hsql
  cases hname : form.name with
  | word name run =>
    rw [hname] at hquoted
    cases hquoted
  | quoted quote content =>
    rw [hname, QueryName.written, List.cons_append] at hsql
    have hmark : isBlank quote.opening = false ∧ opensComment quote.opening = false ∧
        upperChar quote.opening = [quote.opening] ∧ quote.opening ≠ '(' := by
      cases quote <;> decide +kernel
    obtain ⟨more, hkeyword⟩ := parser.leadingKeyword_of_mark hsql
      (fun c hc => .inl (form.lead.2 c hc)) form.isWith hmark.1 hmark.2.1 hmark.2.2.1 hmark.2.2.2
    have hfifth : ∀ keyword ∈ readKeywords, keyword.toList[4]? ≠ some quote.opening := by
      cases quote <;> decide
    unfold SqlParser.isRead
    refine Bool.eq_false_iff.mpr fun hread => hfifth _ (List.contains_iff_mem.mp hread) ?_
    rw [hkeyword]
    rfl

/-- The prefix is told to be a read exactly if there is a gap after its first word. -/
theorem isRead_sql_iff (parser : SqlParser) :
    parser.isRead form.sql = true ↔ form.gap.1 ≠ [] := by
  refine ⟨fun hread hgap => ?_, fun hgap => ?_⟩
  · cases hread.symm.trans (form.isRead_of_no_gap parser hgap)
  · obtain ⟨c, blanks, hblanks⟩ := List.exists_cons_of_ne_nil hgap
    have hsql := form.toList_sql
    rw [hblanks, List.cons_append] at hsql
    have hc : isBlank c = true := form.gap.2 c (hblanks ▸ List.mem_cons_self)
    rw [SqlParser.isRead, parser.leadingKeyword_of_gap hsql
      (fun c hc => .inl (form.lead.2 c hc)) form.isWith (List.all_eq_true.mp (by decide))
      (by decide) hc]
    rfl

end PrefixedWrite

end Statement

variable {σ : Type} [Connection σ]

/-! ## What a read commits -/

/-- Outside a transaction, a statement of the client is committed just if the connection accepts it
and has open work then. -/
theorem Client.commit_mem_run {client : Client σ} (hclosed : client.inTransaction = false)
    (sql : String) (arguments : Option Arguments) :
    ∃ made, ((run sql arguments).after client).calls = client.calls ++ made ∧
      (.commit ∈ made ↔ (∃ rows, (Connection.execute sql arguments client.connection).1 = .ok rows) ∧
        Connection.hasOpenWork (Connection.execute sql arguments client.connection).2 = true) := by
  cases hwork : Connection.hasOpenWork (Connection.execute sql arguments client.connection).2 with
  | false => exact ⟨_, calls_run_of_idle hwork, by simp⟩
  | true =>
    cases hr : (Connection.execute sql arguments client.connection).1 with
    | ok rows =>
      refine ⟨[.execute sql arguments, .commit], ?_, by simp⟩
      rw [after_run_of_accepted hclosed hwork hr, sendCommit, after_send]
      exact List.append_assoc _ _ _
    | error message =>
      refine ⟨[.execute sql arguments, .rollback], ?_, by simp⟩
      rw [after_run_of_rejected hclosed hwork hr, sendRollback, after_send]
      exact List.append_assoc _ _ _

namespace Builder

variable {builder : Builder σ}

/-- The connection accepts the current statement, and then has work that a commit keeps. -/
def LeavesWork (builder : Builder σ) : Prop :=
  ∃ spelled values rows, builder.request = .ok (spelled, values) ∧
    (Connection.execute spelled values builder.client.connection).1 = .ok rows ∧
    Connection.hasOpenWork (Connection.execute spelled values builder.client.connection).2 = true

theorem not_leavesWork_of_refused {fault : Fault} (h : builder.request = .error fault) :
    ¬builder.LeavesWork := by
  rintro ⟨spelled, values, rows, hrequest, -⟩
  cases h.symm.trans hrequest

theorem leavesWork_iff {spelled : String} {values : Option Arguments}
    (h : builder.request = .ok (spelled, values)) :
    builder.LeavesWork ↔
      (∃ rows, (Connection.execute spelled values builder.client.connection).1 = .ok rows) ∧
        Connection.hasOpenWork
          (Connection.execute spelled values builder.client.connection).2 = true := by
  constructor
  · rintro ⟨_, _, rows, hrequest, hrows, hwork⟩
    cases h.symm.trans hrequest
    exact ⟨⟨rows, hrows⟩, hwork⟩
  · rintro ⟨⟨rows, hrows⟩, hwork⟩
    exact ⟨spelled, values, rows, h, hrows, hwork⟩

/-- Outside a transaction, a statement that is run as a read is committed whenever it leaves work,
whatever the debug mode. -/
theorem commit_mem_of_read (hread : isRead (Connection.parser σ) builder.descriptor = true)
    (hclosed : builder.client.inTransaction = false) :
    ∃ made, (execute.after builder).client.calls = builder.client.calls ++ made ∧
      (.commit ∈ made ↔ builder.LeavesWork) := by
  rw [Action.after_congr (execute_of_read hread)]
  cases h : builder.rendered with
  | error fault =>
    have hrequest : builder.request = .error fault := by
      rw [request, h]
      rfl
    refine ⟨[], ?_, iff_of_false List.not_mem_nil (not_leavesWork_of_refused hrequest)⟩
    rw [Action.after, executeQuery_of_refused h, List.append_nil]
  | ok written =>
    obtain ⟨sql, placeholders⟩ := written
    have hrequest := request_of_rendered h
    rw [client_executeQuery h]
    cases hq : PreparedStatement.request (Connection.parser σ) builder.client.paramstyle
      sql placeholders with
    | error fault =>
      rw [hq] at hrequest
      refine ⟨[], ?_, iff_of_false List.not_mem_nil (not_leavesWork_of_refused hrequest)⟩
      rw [Action.after, PreparedStatement.run_of_refused hq, List.append_nil]
    | ok sending =>
      obtain ⟨spelled, values⟩ := sending
      rw [PreparedStatement.after_run_of_request hq, leavesWork_iff (hrequest.trans hq)]
      exact Client.commit_mem_run hclosed spelled values

/-! ## How an execution is told -/

/-- All that the action returns is told to be a read, or nothing is. -/
def Tells (read : Bool) (action : Action (Builder σ) ExecutionResult) : Prop :=
  ∀ builder result, action.outcome builder = .ok result → result.isRead = read

omit [Connection σ] in
theorem Tells.bind {α : Type} {read : Bool} {action : Action (Builder σ) α}
    {next : α → Action (Builder σ) ExecutionResult} (h : ∀ x, Tells read (next x)) :
    Tells read (action >>= next) := by
  intro builder result hresult
  obtain ⟨x, -, hnext⟩ := Action.of_outcome_bind_ok hresult
  exact h x _ _ hnext

omit [Connection σ] in
theorem tells_pure (result : ExecutionResult) :
    Tells result.isRead (pure result : Action (Builder σ) ExecutionResult) := by
  intro builder returned h
  cases h
  rfl

theorem executeQuery_tells : Tells true (executeQuery (σ := σ)) := by
  unfold executeQuery
  exact .bind fun _ => .bind fun _ => .bind fun _ => .bind fun _ => .bind fun _ => .bind fun _ =>
    tells_pure _

theorem executeStatement_tells : Tells false (executeStatement (σ := σ)) := by
  unfold executeStatement
  refine .bind fun builder => .bind fun sql => .bind fun placeholders => ?_
  dsimp only
  split
  · exact .bind fun _ => .bind fun _ => tells_pure _
  · exact .bind fun _ => .bind fun _ => .bind fun _ => tells_pure _

/-- What an execution returns says whether the statement was run as a read. -/
theorem isRead_of_execute {result : ExecutionResult} (h : execute.outcome builder = .ok result) :
    result.isRead = isRead (Connection.parser σ) builder.descriptor := by
  cases hread : isRead (Connection.parser σ) builder.descriptor with
  | true =>
    rw [Action.outcome_congr (execute_of_read hread)] at h
    exact executeQuery_tells builder result h
  | false =>
    rw [outcome_execute_of_write hread] at h
    exact executeStatement_tells builder result h

/-- A write in a debug mode is held back or rolled back. -/
theorem commit_not_mem_of_write (hwrite : isRead (Connection.parser σ) builder.descriptor = false)
    (hd : builder.debugMode.enabled = true) :
    ∃ made, (execute.after builder).client.calls = builder.client.calls ++ made ∧
      .commit ∉ made := by
  rw [after_execute_of_write hwrite]
  cases h : builder.rendered with
  | error fault => exact ⟨[], by rw [client_of_refused h, List.append_nil], List.not_mem_nil⟩
  | ok written =>
    obtain ⟨sql, placeholders⟩ := written
    cases howns : builder.ownsTransaction sql with
    | false =>
      have hheld : builder.holdsBack sql = true := by rw [holdsBack, hd, howns]; rfl
      exact ⟨[], by rw [client_of_held h hheld, List.append_nil], List.not_mem_nil⟩
    | true =>
      obtain ⟨made, hcalls, hown⟩ := executeStatement_ownWrite h howns
      refine ⟨made, hcalls, ?_⟩
      rcases (made_of_ownWrite hd hown).1 with rfl | ⟨spelled, values, rfl⟩ <;> simp

/-! ## The write behind the prefix -/

/-- **A write behind a prefix is run as a write only if no gap follows `WITH`.** Then it has a
transaction of its own wherever a write has one. Behind every other prefix it is run as a read, and
what it returns says so. Outside a transaction and in a debug mode, it is committed exactly if it is
such a read that the connection accepts and that leaves work. -/
theorem prefixed_write_run_as_write_iff (form : Statement.PrefixedWrite)
    (hkind : builder.descriptor.kind = .raw) (hsql : builder.descriptor.rawSql = .text form.sql) :
    (isRead (Connection.parser σ) builder.descriptor = false ↔ form.gap.1 = []) ∧
    (∀ result, execute.outcome builder = .ok result →
      (result.isRead = false ↔ form.gap.1 = [])) ∧
    (builder.client.inTransaction = false → builder.debugMode.enabled = true →
      ∃ made, (execute.after builder).client.calls = builder.client.calls ++ made ∧
        (.commit ∈ made ↔ form.gap.1 ≠ [] ∧ builder.LeavesWork)) ∧
    (builder.client.inTransaction = false → Statement.commitsImplicitly form.sql = false →
      form.gap.1 = [] → ∀ placeholders, builder.placeholders = .ok placeholders →
        ∃ made, (execute.after builder).client.calls = builder.client.calls ++ made ∧
          OwnWrite builder made (execute.outcome builder)) := by
  have hraw : isRead (Connection.parser σ) builder.descriptor =
      (Connection.parser σ).isRead form.sql := isRead_raw _ hkind hsql
  have hpath : isRead (Connection.parser σ) builder.descriptor = false ↔ form.gap.1 = [] := by
    rw [hraw, Bool.eq_false_iff, Ne, form.isRead_sql_iff, not_not]
  refine ⟨hpath, fun result hresult => ?_, fun hclosed hd => ?_, fun hclosed hkeeps hgap => ?_⟩
  · rw [isRead_of_execute hresult, hpath]
  · by_cases hgap : form.gap.1 = []
    · obtain ⟨made, hcalls, hnot⟩ := commit_not_mem_of_write (hpath.mpr hgap) hd
      exact ⟨made, hcalls, iff_of_false hnot fun hboth => hboth.1 hgap⟩
    · have hread : isRead (Connection.parser σ) builder.descriptor = true :=
        hraw.trans ((form.isRead_sql_iff _).mpr hgap)
      obtain ⟨made, hcalls, hcommit⟩ := commit_mem_of_read hread hclosed
      exact ⟨made, hcalls, hcommit.trans (iff_and_self.mpr fun _ => hgap)⟩
  · intro placeholders hplaceholders
    have hwrite := hpath.mpr hgap
    have htext : builder.sql = .ok form.sql := by
      unfold sql Descriptor.sql
      rw [hkind, hsql]
      rfl
    have hrendered : builder.rendered = .ok (form.sql, placeholders) := by
      unfold rendered
      rw [htext, hplaceholders]
      rfl
    have howns : builder.ownsTransaction form.sql = true := by
      rw [ownsTransaction, hclosed, hkeeps]
      rfl
    rw [after_execute_of_write hwrite, outcome_execute_of_write hwrite]
    exact executeStatement_ownWrite hrendered howns

def prefixedDelete : Statement.PrefixedWrite where
  lead := ⟨[], nofun⟩
  withWord := "WITH".toList
  gap := ⟨[' '], List.all_eq_true.mp rfl⟩
  name := .word ['x'] ⟨List.cons_ne_nil _ _, List.all_eq_true.mp rfl⟩
  nameGap := ⟨[' '], List.all_eq_true.mp rfl⟩
  asWord := "AS".toList
  asGap := ⟨[' '], List.all_eq_true.mp rfl⟩
  query := "SELECT 1".toList
  queryGap := ⟨[' '], List.all_eq_true.mp rfl⟩
  verb := "DELETE"
  verbWord := "DELETE".toList
  rest := " FROM t".toList
  isWith := ⟨by decide, List.all_eq_true.mp rfl, by decide⟩
  apart := nofun
  nameApart := nofun
  isAs := ⟨by decide, List.all_eq_true.mp rfl, by decide⟩
  closed := by decide
  isVerb := ⟨by decide, by decide, List.all_eq_true.mp rfl, by decide⟩
  ends := by decide

def prefixedDeleteInDebugMode : Builder Scripted :=
  (rawQuery (.text prefixedDelete.sql)).after
    { client := { connection := {} }, dialect := .sqlite, debugDefault := .silent }

theorem prefixed_write_run_as_write_iff_delete :
    prefixedDeleteInDebugMode.descriptor.kind = .raw ∧
      prefixedDeleteInDebugMode.descriptor.rawSql = .text prefixedDelete.sql ∧
      isRead (Connection.parser Scripted) prefixedDeleteInDebugMode.descriptor ≠ false ∧
      ∃ made, (execute.after prefixedDeleteInDebugMode).client.calls =
          prefixedDeleteInDebugMode.client.calls ++ made ∧ .commit ∈ made := by
  have hgap : prefixedDelete.gap.1 ≠ [] := List.cons_ne_nil _ _
  have hwork : prefixedDeleteInDebugMode.LeavesWork :=
    ⟨prefixedDelete.sql, none, {}, rfl, rfl, rfl⟩
  obtain ⟨hpath, -, hdebug, -⟩ :=
    @prefixed_write_run_as_write_iff Scripted _ prefixedDeleteInDebugMode prefixedDelete rfl rfl
  obtain ⟨made, hcalls, hcommit⟩ := hdebug rfl rfl
  exact ⟨rfl, rfl, fun hwrite => hgap (hpath.mp hwrite), made, hcalls, hcommit.mpr ⟨hgap, hwork⟩⟩

/-- The deletion is committed in a debug mode, outside every transaction. -/
theorem prefixed_delete_committed_in_debugMode :
    prefixedDelete.sql = "WITH x AS (SELECT 1) DELETE FROM t" ∧
      prefixedDeleteInDebugMode.debugMode.enabled = true ∧
      prefixedDeleteInDebugMode.client.inTransaction = false ∧
      isRead (Connection.parser Scripted) prefixedDeleteInDebugMode.descriptor = true ∧
      (execute.after prefixedDeleteInDebugMode).client.calls =
        [.execute prefixedDelete.sql none, .commit] :=
  ⟨rfl, rfl, rfl, rfl, rfl⟩

end Builder

end SqlToolkit
