import SqlToolkit.Proofs.Builder.Delivery

/-!
# Reads and what they were answered

An *exchange* is a statement as it was sent, with what the connection answered to it. A read that
returns made one exchange, with its statement in the form of the driver, and holds the rows of the
answer. Counting the rows of a statement that has no counting form of its own makes the exchange a
second time and counts the rows of the second answer.
-/

namespace SqlToolkit

variable {σ : Type}

/-! ## Exchanges -/

/-- A statement as it was sent, with its values, and what the connection answered. -/
structure Exchange where
  sql : String
  values : Option Arguments
  answer : ResultSet

def Exchange.rows (exchange : Exchange) : List (List Value) := exchange.answer.listing.rows

/-- What fetching the first of the rows gives: null if there is none. -/
def Exchange.firstRow (exchange : Exchange) : Value :=
  match exchange.rows with
  | [] => .null
  | row :: _ => .tuple row

theorem Exchange.next_num (exchange : Exchange) (fold : String → String) :
    exchange.answer.listing.next fold .num = .ok exchange.firstRow := by
  unfold Listing.next firstRow rows
  cases exchange.answer.listing.rows <;> rfl

def Exchange.Repeats (exchange first : Exchange) : Prop :=
  exchange.sql = first.sql ∧ exchange.values = first.values

namespace Client

variable [Connection σ]

/-- The statements were run one after the other, each was answered and settled, and nothing else
was done. -/
inductive Exchanges : Client σ → List Exchange → Client σ → Prop where
  | nil (client : Client σ) : Exchanges client [] client
  | cons {client final : Client σ} {exchange : Exchange} {rest : List Exchange}
      (answered : (run exchange.sql exchange.values).outcome client = .ok exchange.answer)
      (more : Exchanges ((run exchange.sql exchange.values).after client) rest final) :
      Exchanges client (exchange :: rest) final

theorem Exchanges.append {client middle final : Client σ} {first second : List Exchange}
    (h : client.Exchanges first middle) (h' : middle.Exchanges second final) :
    client.Exchanges (first ++ second) final := by
  induction h with
  | nil => exact h'
  | cons answered _ ih => exact .cons answered (ih h')

theorem exchanges_append_iff {client final : Client σ} (first second : List Exchange) :
    client.Exchanges (first ++ second) final ↔
      ∃ middle, client.Exchanges first middle ∧ middle.Exchanges second final := by
  refine ⟨fun h => ?_, fun ⟨middle, h, h'⟩ => h.append h'⟩
  induction first generalizing client with
  | nil => exact ⟨client, .nil client, h⟩
  | cons exchange rest ih =>
    cases h with
    | cons answered more =>
      obtain ⟨middle, hrest, hsecond⟩ := ih more
      exact ⟨middle, .cons answered hrest, hsecond⟩

theorem exchanges_singleton_iff {client final : Client σ} {exchange : Exchange} :
    client.Exchanges [exchange] final ↔
      (run exchange.sql exchange.values).outcome client = .ok exchange.answer ∧
        (run exchange.sql exchange.values).after client = final := by
  refine ⟨fun h => ?_, fun ⟨answered, hfinal⟩ => .cons answered (hfinal ▸ .nil _)⟩
  cases h with
  | cons answered more =>
    cases more
    exact ⟨answered, rfl⟩

/-- What the driver decides: the style of markers and the case of column names. -/
def driver (client : Client σ) : Paramstyle × Option String :=
  (client.paramstyle, client.columnCase)

theorem run_leavesDriver (sql : String) (values : Option Arguments) :
    Action.Keeps Eq driver (run sql values : Action (Client σ) ResultSet) := by
  have settled {ending : Action (Client σ) Unit} (h : Action.Keeps Eq driver ending) :
      Action.Keeps Eq driver (settle ending) := by
    refine Action.Keeps.get.bind fun client => ?_
    split
    · exact h
    · exact Action.Keeps.pure _
  have sent : Action.Keeps Eq driver (sendStatement sql values : Action (Client σ) _) :=
    fun client => by unfold sendStatement; rw [after_send]; rfl
  refine sent.attempt.bind fun given => ?_
  split
  · exact Action.Keeps.bind (Action.Keeps.modify fun _ => rfl) fun _ =>
      (settled fun client => by unfold sendCommit; rw [after_send]; rfl).bind fun _ =>
        Action.Keeps.pure _
  · exact (settled fun client => by unfold sendRollback; rw [after_send]; rfl).bind fun _ =>
      Action.Keeps.throw _

theorem Exchanges.driver_eq {client final : Client σ} {exchanges : List Exchange}
    (h : client.Exchanges exchanges final) : final.driver = client.driver := by
  induction h with
  | nil => rfl
  | cons _ _ ih => exact ih.trans (run_leavesDriver _ _ _).symm

theorem Exchanges.paramstyle_eq {client final : Client σ} {exchanges : List Exchange}
    (h : client.Exchanges exchanges final) : final.paramstyle = client.paramstyle :=
  congrArg Prod.fst h.driver_eq

/-- A text with values for its markers was sent in the form of the driver, and answered. -/
structure Sends (client : Client σ) (sql : String) (placeholders : Value.Entries)
    (exchange : Exchange) (final : Client σ) : Prop where
  request : PreparedStatement.request (Connection.parser σ) client.paramstyle sql placeholders =
    .ok (exchange.sql, exchange.values)
  exchanged : client.Exchanges [exchange] final

/-- What is sent and answered is determined by what is run. -/
theorem Sends.unique {client final final' : Client σ} {sql : String} {placeholders : Value.Entries}
    {exchange exchange' : Exchange} (h : client.Sends sql placeholders exchange final)
    (h' : client.Sends sql placeholders exchange' final') :
    exchange = exchange' ∧ final = final' := by
  obtain ⟨hsql, hvalues⟩ := Prod.mk.inj (Except.ok.inj (h.request.symm.trans h'.request))
  obtain ⟨hanswer, hfinal⟩ := exchanges_singleton_iff.mp h.exchanged
  obtain ⟨hanswer', hfinal'⟩ := exchanges_singleton_iff.mp h'.exchanged
  obtain ⟨sql₁, values₁, answer⟩ := exchange
  obtain ⟨sql₂, values₂, answer'⟩ := exchange'
  cases hsql
  cases hvalues
  cases hanswer.symm.trans hanswer'
  exact ⟨rfl, hfinal.symm.trans hfinal'⟩

/-- What is sent twice in a row is one statement. -/
theorem Sends.repeats {client middle final : Client σ} {sql : String}
    {placeholders : Value.Entries} {first again : Exchange}
    (h : client.Sends sql placeholders first middle)
    (h' : middle.Sends sql placeholders again final) : again.Repeats first := by
  have hrequest := h'.request
  rw [h.exchanged.paramstyle_eq, h.request] at hrequest
  obtain ⟨hsql, hvalues⟩ := Prod.mk.inj (Except.ok.inj hrequest)
  exact ⟨hsql.symm, hvalues.symm⟩

end Client

namespace PreparedStatement

variable [Connection σ] {client final : Client σ} {sql : String} {placeholders : Value.Entries}
  {exchange : Exchange}

theorem sends_of_run {statement : PreparedStatement}
    (h : (run sql placeholders).outcome client = .ok statement) :
    ∃ exchange, client.Sends sql placeholders exchange ((run sql placeholders).after client) ∧
      statement.listing = exchange.answer.listing := by
  cases hr : request (Connection.parser σ) client.paramstyle sql placeholders with
  | error fault =>
    rw [Action.outcome, run_of_refused hr] at h
    cases h
  | ok sending =>
    obtain ⟨spelled, values⟩ := sending
    obtain ⟨bound, hbound⟩ := outcome_run_of_request hr
    rw [hbound] at h
    cases hrun : (Client.run spelled values).outcome client with
    | error fault => rw [hrun] at h; cases h
    | ok answer =>
      rw [hrun] at h
      cases h
      exact ⟨⟨spelled, values, answer⟩, ⟨hr, Client.exchanges_singleton_iff.mpr
        ⟨hrun, (after_run_of_request hr).symm⟩⟩, bound.listing_fetched answer⟩

theorem run_of_sends (h : client.Sends sql placeholders exchange final) :
    (run sql placeholders).after client = final ∧
      ∃ statement, (run sql placeholders).outcome client = .ok statement ∧
        statement.listing = exchange.answer.listing := by
  obtain ⟨hanswered, hfinal⟩ := Client.exchanges_singleton_iff.mp h.exchanged
  obtain ⟨bound, hbound⟩ := outcome_run_of_request h.request
  refine ⟨(after_run_of_request h.request).trans hfinal, bound.fetched exchange.answer, ?_,
    bound.listing_fetched _⟩
  rw [hbound, hanswered]
  rfl

end PreparedStatement

/-! ## Reads -/

namespace Builder

/-- The statement executed last was a read, and the rows of an answer can be fetched. -/
structure Holds (builder : Builder σ) (sql : String) (placeholders : Value.Entries)
    (answer : ResultSet) : Prop where
  sql : builder.last.sql = some sql
  placeholders : builder.last.placeholders = placeholders
  wasRead : builder.last.wasRead = true
  listing : builder.listing = answer.listing

theorem last_detached : Detached (last : Builder σ → LastRun) :=
  ⟨fun _ _ => rfl, fun _ _ => rfl, fun _ _ => rfl⟩

theorem last_rememberRead (builder : Builder σ) (sql : String) (placeholders : Value.Entries)
    (statement : PreparedStatement) (s : Builder σ) :
    ((builder.rememberRead sql placeholders statement).after s).last =
      { builder.last with
        descriptor := .current, sql := some sql, placeholders, wasRead := true
        wasInsert := false } :=
  Action.view_after_bind last (fun _ => (last_detached.capture_leaves _ _ _ _).bind fun _ =>
    Action.Keeps.pure _) s

theorem holds_rememberRead (builder : Builder σ) (sql : String) (placeholders : Value.Entries)
    {statement : PreparedStatement} {answer : ResultSet}
    (h : statement.listing = answer.listing) (s : Builder σ) :
    ((builder.rememberRead sql placeholders statement).after s).Holds sql placeholders answer := by
  have hlast := last_rememberRead builder sql placeholders statement s
  refine ⟨by rw [hlast], by rw [hlast], by rw [hlast], ?_⟩
  exact (listing_of_remembered statement _ ((listing_detached.capture_leaves _ _ _ _).bind fun _ =>
    Action.Keeps.pure _) s).trans h

variable [Connection σ] {builder : Builder σ} {sql : String} {placeholders : Value.Entries}
  {exchange : Exchange} {final : Client σ}

omit [Connection σ] in
theorem client_rememberRead (builder : Builder σ) (sql : String) (placeholders : Value.Entries)
    (statement : PreparedStatement) (s : Builder σ) :
    ((builder.rememberRead sql placeholders statement).after s).client = s.client :=
  ((rememberRead_quiet builder sql placeholders statement).leavesClient s).symm

theorem dialect_executeQuery (builder : Builder σ) :
    (executeQuery.after builder).dialect = builder.dialect :=
  (executeQuery_fading.leavesDialect builder).symm

/-- A read that returned sent its statement and holds the rows of the answer. -/
theorem sends_of_executeQuery {result : ExecutionResult}
    (h : executeQuery.outcome builder = .ok result) :
    ∃ sql placeholders exchange, builder.rendered = .ok (sql, placeholders) ∧
      builder.client.Sends sql placeholders exchange (executeQuery.after builder).client ∧
      (executeQuery.after builder).Holds sql placeholders exchange.answer := by
  cases hr : builder.rendered with
  | error fault => rw [Action.outcome, executeQuery_of_refused hr] at h; cases h
  | ok written =>
    obtain ⟨sql, placeholders⟩ := written
    rw [Action.outcome_congr (executeQuery_of_sent hr)] at h
    rw [Action.after_congr (executeQuery_of_sent hr)]
    obtain ⟨statement, hguarded, -⟩ := Action.of_outcome_bind_ok h
    rw [Action.after_bind_ok hguarded, client_rememberRead, guarded_client, after_onClient]
    cases hrun : (PreparedStatement.run sql placeholders).outcome builder.client with
    | error fault =>
      obtain ⟨raised, hraised⟩ := outcome_guarded_of_error builder.descriptor.kind
        builder.debugMode sql placeholders ((outcome_onClient _ builder).trans hrun)
      cases hraised.symm.trans hguarded
    | ok run =>
      cases (outcome_guarded_of_ok builder.descriptor.kind builder.debugMode sql placeholders
        ((outcome_onClient _ builder).trans hrun)).symm.trans hguarded
      obtain ⟨exchange, hsends, hlisting⟩ := PreparedStatement.sends_of_run hrun
      exact ⟨sql, placeholders, exchange, rfl, hsends, holds_rememberRead _ _ _ hlisting _⟩

/-- A read whose statement is answered returns, if it can be captured. -/
theorem executeQuery_of_sends (hr : builder.rendered = .ok (sql, placeholders))
    (h : builder.client.Sends sql placeholders exchange final)
    (hcaptures : builder.Captures placeholders) :
    (∃ result, executeQuery.outcome builder = .ok result) ∧
      (executeQuery.after builder).client = final ∧
      (executeQuery.after builder).Holds sql placeholders exchange.answer := by
  obtain ⟨hfinal, statement, hrun, hlisting⟩ := PreparedStatement.run_of_sends h
  have hguarded := outcome_guarded_of_ok builder.descriptor.kind builder.debugMode sql placeholders
    ((outcome_onClient _ builder).trans hrun)
  rw [Action.outcome_congr (executeQuery_of_sent hr), Action.after_congr (executeQuery_of_sent hr),
    Action.outcome_bind_ok hguarded, Action.after_bind_ok hguarded, client_rememberRead,
    guarded_client, after_onClient]
  exact ⟨rememberRead_of_captures hcaptures _ _, hfinal, holds_rememberRead _ _ _ hlisting _⟩

/-! ## Counting again -/

/-- The number of rows of a read is counted. -/
theorem numRows_of_read (hsql : builder.last.sql = some sql) (hread : builder.last.wasRead = true) :
    numRows builder = countRead sql builder.last.placeholders builder := by
  unfold numRows
  rw [Action.get_bind]
  simp only [hsql, hread, if_true]

/-- Without a counting form the statement runs again. -/
theorem countRead_of_no_probe (hp : builder.probe? sql = none) :
    countRead sql placeholders builder = countAgain sql placeholders builder := by
  unfold countRead
  rw [Action.get_bind, hp]

theorem numRows_of_holds {answer : ResultSet} (h : builder.Holds sql placeholders answer)
    (hp : Statement.preventsCount sql.toList = true) :
    numRows builder = countAgain sql placeholders builder := by
  have hprobe : builder.probe? sql = none := by
    unfold probe? Statement.countProbe?
    dsimp only
    rw [if_pos hp]
  rw [numRows_of_read h.sql h.wasRead, h.placeholders, countRead_of_no_probe hprobe]

def runCounting (sql : String) (placeholders : Value.Entries) : Action (Builder σ) Int := do
  let statement ← onClient (PreparedStatement.run sql placeholders)
  return (statement.listing.rows.length : Int)

/-- Counting again runs the statement and counts the rows of the answer. -/
theorem countAgain_eq (sql : String) (placeholders : Value.Entries) (builder : Builder σ) :
    countAgain sql placeholders builder =
      guarded .raw builder.debugMode sql placeholders (runCounting sql placeholders) builder := by
  unfold countAgain runCounting
  rw [Action.get_bind]
  congr 2
  funext statement
  have hall := (statement.fetchAll_eq builder.client.foldCase .num).1
  rw [Listing.all_num] at hall
  cases hfetched : statement.fetchAll builder.client.foldCase .num with
  | mk rows rest =>
    rw [hfetched] at hall
    cases hall
    dsimp only
    rw [← List.length_map]
    rfl

/-- A number of rows that was counted again is that of the rows answered the second time. -/
theorem sends_of_countAgain {count : Int}
    (h : (countAgain sql placeholders).outcome builder = .ok count) :
    ∃ exchange, builder.client.Sends sql placeholders exchange
        ((countAgain sql placeholders).after builder).client ∧
      count = exchange.rows.length := by
  rw [Action.outcome_congr (countAgain_eq sql placeholders builder)] at h
  rw [Action.after_congr (countAgain_eq sql placeholders builder), guarded_client]
  have hclient := outcome_onClient (PreparedStatement.run sql placeholders) builder
  cases hrun : (PreparedStatement.run sql placeholders).outcome builder.client with
  | error fault =>
    have hfails : (runCounting sql placeholders).outcome builder = .error fault :=
      Action.outcome_bind_error (hclient.trans hrun)
    obtain ⟨raised, hraised⟩ :=
      outcome_guarded_of_error .raw builder.debugMode sql placeholders hfails
    cases hraised.symm.trans h
  | ok statement =>
    have hcounts : (runCounting sql placeholders).outcome builder =
        .ok (statement.listing.rows.length : Int) :=
      Action.outcome_bind_ok (hclient.trans hrun)
    cases (outcome_guarded_of_ok .raw builder.debugMode sql placeholders hcounts).symm.trans h
    obtain ⟨exchange, hsends, hlisting⟩ := PreparedStatement.sends_of_run hrun
    refine ⟨exchange, ?_, by rw [hlisting]; rfl⟩
    rw [runCounting, Action.after_bind_ok (hclient.trans hrun), Action.after_pure, after_onClient]
    exact hsends

theorem countAgain_of_sends (h : builder.client.Sends sql placeholders exchange final) :
    (countAgain sql placeholders).outcome builder = .ok (exchange.rows.length : Int) ∧
      ((countAgain sql placeholders).after builder).client = final := by
  obtain ⟨hfinal, statement, hrun, hlisting⟩ := PreparedStatement.run_of_sends h
  have hran := (outcome_onClient _ builder).trans hrun
  have hagain := countAgain_eq sql placeholders builder
  rw [Action.outcome_congr hagain, Action.after_congr hagain, guarded_client,
    outcome_guarded_of_ok .raw _ _ _ (Action.outcome_bind_ok hran), runCounting,
    Action.after_bind_ok hran, Action.after_pure, after_onClient]
  refine ⟨?_, hfinal⟩
  rw [hlisting]
  rfl

end Builder

end SqlToolkit
