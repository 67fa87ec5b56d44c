import SqlToolkit.Client.Statement
import SqlToolkit.Proofs.Action

/-!
# What a client's steps do to it

One lemma for each step of a client: which call it makes, what becomes of the connection and of the
transaction, and how the step ends. A prepared statement sends its *request*, the statement in the
driver's form with its values; one whose values cannot be bound sends nothing.
-/

namespace SqlToolkit

variable {σ : Type}

namespace Client

/-! ## Calls -/

theorem after_send {α : Type} (call : Call) (step : σ → Except String α × σ) (client : Client σ) :
    (send call step).after client =
      { client with
        connection := (step client.connection).2
        calls := client.calls ++ [call] } := by
  unfold send Action.after
  cases h : (step client.connection).1 <;> simp only [h]

theorem outcome_send {α : Type} (call : Call) (step : σ → Except String α × σ)
    (client : Client σ) :
    (send call step).outcome client = (step client.connection).1.mapError Fault.driver := by
  unfold send Action.outcome
  cases h : (step client.connection).1 with
  | ok value => simp only [h]; rfl
  | error message => simp only [h]; rfl

theorem outcome_send_ok {α : Type} {call : Call} {step : σ → Except String α × σ}
    {client : Client σ} {value : α} (h : (step client.connection).1 = .ok value) :
    (send call step).outcome client = .ok value := by
  rw [outcome_send, h]
  rfl

theorem outcome_send_error {α : Type} {call : Call} {step : σ → Except String α × σ}
    {client : Client σ} {message : String} (h : (step client.connection).1 = .error message) :
    (send call step).outcome client = .error (.driver message) := by
  rw [outcome_send, h]
  rfl

/-! ## Transactions -/

theorem after_beginTransaction {client : Client σ} (h : client.inTransaction = false) :
    beginTransaction.after client = { client with inTransaction := true } := by
  unfold beginTransaction
  rw [Action.after_bind_ok (Action.outcome_get client), Action.after_get, h]
  rfl

theorem outcome_beginTransaction {client : Client σ} (h : client.inTransaction = false) :
    beginTransaction.outcome client = .ok () := by
  unfold beginTransaction
  rw [Action.outcome_bind_ok (Action.outcome_get client), Action.after_get, h]
  rfl

/-- A transaction is over after the call that ends it, whether the call succeeded or not. -/
theorem after_endTransaction {ending : Action (Client σ) Unit} {client : Client σ}
    (h : client.inTransaction = true) :
    (endTransaction ending).after client =
      { ending.after client with inTransaction := false } := by
  unfold endTransaction
  rw [Action.after_bind_ok (Action.outcome_get client), Action.after_get, h]
  simp [Action.after_bind]

theorem outcome_endTransaction {ending : Action (Client σ) Unit} {client : Client σ}
    (h : client.inTransaction = true) :
    (endTransaction ending).outcome client = ending.outcome client := by
  unfold endTransaction
  rw [Action.outcome_bind_ok (Action.outcome_get client), Action.after_get, h]
  simp [Action.outcome_bind]

variable [Connection σ]

theorem after_commit {client : Client σ} (h : client.inTransaction = true) :
    commit.after client =
      { client with
        connection := (Connection.commit client.connection).2
        inTransaction := false
        calls := client.calls ++ [.commit] } := by
  unfold commit sendCommit
  rw [after_endTransaction h, after_send]

theorem outcome_commit {client : Client σ} (h : client.inTransaction = true) :
    commit.outcome client = (Connection.commit client.connection).1.mapError Fault.driver := by
  unfold commit sendCommit
  rw [outcome_endTransaction h, outcome_send]

theorem after_rollback {client : Client σ} (h : client.inTransaction = true) :
    rollback.after client =
      { client with
        connection := (Connection.rollback client.connection).2
        inTransaction := false
        calls := client.calls ++ [.rollback] } := by
  unfold rollback sendRollback
  rw [after_endTransaction h, after_send]

theorem outcome_rollback {client : Client σ} (h : client.inTransaction = true) :
    rollback.outcome client = (Connection.rollback client.connection).1.mapError Fault.driver := by
  unfold rollback sendRollback
  rw [outcome_endTransaction h, outcome_send]

/-! ## Statements -/

def sent (client : Client σ) (sql : String) (arguments : Option Arguments) : Client σ :=
  { client with
    connection := (Connection.execute sql arguments client.connection).2
    calls := client.calls ++ [.execute sql arguments] }

/-- The client once a statement was accepted, and before that is settled. -/
def accepted (client : Client σ) (sql : String) (arguments : Option Arguments)
    (result : ResultSet) : Client σ :=
  { client.sent sql arguments with lastRowId := result.rowId.getD .null }

/-- There is something to settle where work is open and no transaction is. -/
theorem settle_eq (ending : Action (Client σ) Unit) (client : Client σ) :
    settle ending client =
      if !client.inTransaction && Connection.hasOpenWork client.connection then ending client
      else .ok () client := by
  unfold settle
  rw [Action.get_bind]
  split <;> rfl

/-- Within a transaction nothing is settled. -/
theorem settle_of_inTransaction {ending : Action (Client σ) Unit} {client : Client σ}
    (h : client.inTransaction = true) : settle ending client = .ok () client := by
  rw [settle_eq, h]
  rfl

theorem after_settle_of_inTransaction {ending : Action (Client σ) Unit} {client : Client σ}
    (h : client.inTransaction = true) : (settle ending).after client = client := by
  rw [Action.after, settle_of_inTransaction h]

theorem outcome_settle_of_inTransaction {ending : Action (Client σ) Unit} {client : Client σ}
    (h : client.inTransaction = true) : (settle ending).outcome client = .ok () := by
  rw [Action.outcome, settle_of_inTransaction h]

/-- An accepted statement is committed, if there is something to settle. -/
theorem run_of_ok {sql : String} {arguments : Option Arguments} {client : Client σ}
    {result : ResultSet}
    (hr : (Connection.execute sql arguments client.connection).1 = .ok result) :
    run sql arguments client =
      (settle sendCommit >>= fun _ => pure result) (client.accepted sql arguments result) := by
  unfold run sendStatement
  rw [Action.bind_of_ok (Action.outcome_attempt _ _), outcome_send_ok hr, Action.attempt_after,
    after_send]
  rfl

/-- A rejected statement is rolled back, if there is something to settle. -/
theorem run_of_error {sql : String} {arguments : Option Arguments} {client : Client σ}
    {message : String}
    (hr : (Connection.execute sql arguments client.connection).1 = .error message) :
    run sql arguments client =
      (settle sendRollback >>= fun _ => throw (.driver message)) (client.sent sql arguments) := by
  unfold run sendStatement
  rw [Action.bind_of_ok (Action.outcome_attempt _ _), outcome_send_error hr, Action.attempt_after,
    after_send]
  rfl

theorem after_run_of_ok {sql : String} {arguments : Option Arguments} {client : Client σ}
    {result : ResultSet} (h : client.inTransaction = true)
    (hr : (Connection.execute sql arguments client.connection).1 = .ok result) :
    (run sql arguments).after client =
      { client.sent sql arguments with lastRowId := result.rowId.getD .null } := by
  have hopen : (client.accepted sql arguments result).inTransaction = true := h
  rw [Action.after_congr (run_of_ok hr),
    Action.after_bind_ok (outcome_settle_of_inTransaction hopen), Action.after_pure,
    after_settle_of_inTransaction hopen, accepted]

theorem outcome_run_of_ok {sql : String} {arguments : Option Arguments} {client : Client σ}
    {result : ResultSet} (h : client.inTransaction = true)
    (hr : (Connection.execute sql arguments client.connection).1 = .ok result) :
    (run sql arguments).outcome client = .ok result := by
  have hopen : (client.accepted sql arguments result).inTransaction = true := h
  rw [Action.outcome_congr (run_of_ok hr),
    Action.outcome_bind_ok (outcome_settle_of_inTransaction hopen), Action.outcome_pure]

/-- After a statement that returned, the last row id is the one that it reported. -/
theorem lastRowId_of_run {client : Client σ} {sql : String} {arguments : Option Arguments}
    {result : ResultSet} (h : (run sql arguments).outcome client = .ok result) :
    ((run sql arguments).after client).lastRowId = result.rowId.getD .null := by
  have hsettle : Action.Keeps Eq lastRowId (settle sendCommit : Action (Client σ) Unit) := by
    refine Action.Keeps.get.bind fun _ => ?_
    split
    · intro client
      unfold sendCommit
      rw [after_send]
    · exact Action.Keeps.pure _
  obtain ⟨answer, hanswer, hrest⟩ := Action.of_outcome_bind_ok h
  unfold run
  rw [Action.after_bind_ok hanswer]
  cases answer with
  | error fault =>
    obtain ⟨_, -, hthrown⟩ := Action.of_outcome_bind_ok hrest
    cases hthrown
  | ok given =>
    obtain ⟨_, -, hsettled⟩ := Action.of_outcome_bind_ok hrest
    obtain ⟨_, -, hgiven⟩ := Action.of_outcome_bind_ok hsettled
    cases hgiven
    rw [Action.after_bind_ok (Action.outcome_modify _ _)]
    exact Action.view_after_bind lastRowId (fun _ => Action.Keeps.pure _) _ |>.trans
      (hsettle _).symm

theorem after_run_of_error {sql : String} {arguments : Option Arguments} {client : Client σ}
    {message : String} (h : client.inTransaction = true)
    (hr : (Connection.execute sql arguments client.connection).1 = .error message) :
    (run sql arguments).after client = client.sent sql arguments := by
  have hopen : (client.sent sql arguments).inTransaction = true := h
  rw [Action.after_congr (run_of_error hr),
    Action.after_bind_ok (outcome_settle_of_inTransaction hopen), Action.after_throw,
    after_settle_of_inTransaction hopen]

theorem outcome_run_of_error {sql : String} {arguments : Option Arguments} {client : Client σ}
    {message : String} (h : client.inTransaction = true)
    (hr : (Connection.execute sql arguments client.connection).1 = .error message) :
    (run sql arguments).outcome client = .error (.driver message) := by
  have hopen : (client.sent sql arguments).inTransaction = true := h
  rw [Action.outcome_congr (run_of_error hr),
    Action.outcome_bind_ok (outcome_settle_of_inTransaction hopen), Action.outcome_throw]

end Client

namespace PreparedStatement

/-- What running a statement sends: its text in the driver's form, and the values of its markers. -/
def outgoing (parser : SqlParser) (style : Paramstyle) (statement : PreparedStatement) :
    Attempt (String × Option Arguments) :=
  match parser.restyle statement.sql style with
  | (spelled, []) => .ok (spelled, none)
  | (spelled, keys) =>
    (arguments style statement.bindings keys).map fun values => (spelled, some values)

/-- What keeps a bound statement from being sent is a marker without a value. -/
theorem outgoing_isToolkit {parser : SqlParser} {style : Paramstyle}
    {statement : PreparedStatement} {fault : Fault}
    (h : outgoing parser style statement = .error fault) : fault.isToolkit = true := by
  unfold outgoing at h
  split at h
  · cases h
  · next spelled keys _ _ =>
    unfold arguments at h
    split at h
    · split at h
      · cases h
      · cases h
    · cases h
      rfl

/-- What running a text with values sends. -/
def request (parser : SqlParser) (style : Paramstyle) (sql : String)
    (placeholders : Value.Entries) : Attempt (String × Option Arguments) :=
  bindAll { sql } placeholders >>= outgoing parser style

/-- A text in which no marker can begin is sent as it is, without values. -/
theorem request_of_no_marks (parser : SqlParser) (style : Paramstyle) {sql : String}
    (hquestion : '?' ∉ sql.toList) (hcolon : ':' ∉ sql.toList) :
    request parser style sql [] = .ok (sql, none) := by
  have hnone (position : Nat) (tokens : List Lexer.Token)
      (h : ∀ token ∈ tokens, ∀ c ∈ token.text, c ∈ sql.toList) :
      Marker.keys (Marker.pieces position tokens) = [] := by
    induction tokens generalizing position with
    | nil => rfl
    | cons token rest ih =>
      obtain ⟨htoken, hrest⟩ := List.forall_mem_cons.mp h
      unfold Marker.pieces
      split
      · split
        · next heq => exact absurd (htoken '?' (heq ▸ List.mem_cons_self)) hquestion
        · next heq => exact absurd (htoken ':' (heq ▸ List.mem_cons_self)) hcolon
        · exact ih position hrest
      · exact ih position hrest
  have hkeys : Marker.keys (parser.toCutting.pieces sql) = [] := by
    refine hnone 0 _ fun token htoken c hc => ?_
    rw [← parser.toCutting.whole sql.toList]
    exact List.mem_flatMap.mpr ⟨token, htoken, hc⟩
  show outgoing parser style { sql } = _
  unfold outgoing Marker.Cutting.restyle
  rw [hkeys]

theorem bind_paramType (statement : PreparedStatement) (key value : Value) :
    statement.bind key value value.paramType =
      if key.isKey then .ok { statement with
        bindings := Entries.insert (bindingKey key) value.formatted statement.bindings }
      else .error .wrongKind := by
  unfold bind
  rw [Value.coerce_paramType]
  rfl

/-- Values that cannot be bound in one statement cannot be bound in any. -/
theorem bindAll_refusal {placeholders : Value.Entries} {statement : PreparedStatement}
    {fault : Fault} (h : statement.bindAll placeholders = .error fault) :
    fault = .wrongKind ∧ (∃ key ∈ Entries.keys placeholders, key.isKey = false) ∧
      ∀ other : PreparedStatement, other.bindAll placeholders = .error .wrongKind := by
  unfold bindAll at h ⊢
  induction placeholders generalizing statement with
  | nil => cases h
  | cons entry rest ih =>
    rw [List.foldlM_cons, bind_paramType] at h
    cases hkey : entry.1.isKey with
    | true =>
      rw [if_pos hkey] at h
      obtain ⟨hfault, ⟨key, hmem, hunkeyed⟩, hrest⟩ := ih h
      refine ⟨hfault, ⟨key, List.mem_cons_of_mem _ hmem, hunkeyed⟩, fun other => ?_⟩
      rw [List.foldlM_cons, bind_paramType, if_pos hkey]
      exact hrest _
    | false =>
      have hrefused : ¬ entry.1.isKey = true := hkey ▸ Bool.false_ne_true
      rw [if_neg hrefused] at h
      cases h
      refine ⟨rfl, ⟨entry.1, List.mem_cons_self, hkey⟩, fun other => ?_⟩
      rw [List.foldlM_cons, bind_paramType, if_neg hrefused]
      rfl

/-- A statement that cannot be sent lacks values, or has some that no statement can be sent with. -/
theorem request_refusal {parser : SqlParser} {style : Paramstyle} {sql : String}
    {placeholders : Value.Entries} {fault : Fault}
    (h : request parser style sql placeholders = .error fault) :
    fault.isToolkit = true ∨ (fault = .wrongKind ∧
      (∃ key ∈ Entries.keys placeholders, key.isKey = false) ∧
        ∀ style other, request parser style other placeholders = .error .wrongKind) := by
  unfold request at h ⊢
  cases hb : bindAll { sql } placeholders with
  | error cause =>
    rw [hb] at h
    cases h
    obtain ⟨hkind, hunkeyed, hothers⟩ := bindAll_refusal hb
    refine .inr ⟨hkind, hunkeyed, fun style other => ?_⟩
    rw [hothers]
    rfl
  | ok statement =>
    rw [hb] at h
    exact .inl (outgoing_isToolkit h)

/-- Where the values can be sent with one statement, another one can only lack some. -/
theorem isToolkit_of_request {parser : SqlParser} {style style' : Paramstyle}
    {sql other : String} {placeholders : Value.Entries} {sending : String × Option Arguments}
    {fault : Fault} (h : request parser style sql placeholders = .ok sending)
    (hf : request parser style' other placeholders = .error fault) : fault.isToolkit = true := by
  rcases request_refusal hf with htoolkit | ⟨-, -, hothers⟩
  · exact htoolkit
  · cases h.symm.trans (hothers _ _)

def fetched (statement : PreparedStatement) (result : ResultSet) : PreparedStatement :=
  { statement with cursor := some ⟨result.columns, result.rows, result.affected⟩ }

variable [Connection σ]

/-- Running a statement is sending what it sends, unless its values cannot be bound. -/
theorem execute_eq (statement : PreparedStatement) (client : Client σ) :
    statement.execute client = match outgoing (Connection.parser σ) client.paramstyle statement with
      | .ok (spelled, values) => (statement.fetched <$> Client.run spelled values) client
      | .error fault => .error fault client := by
  unfold execute outgoing
  rw [Action.get_bind]
  rcases (Connection.parser σ).restyle statement.sql client.paramstyle with
    ⟨spelled, _ | ⟨key, keys⟩⟩
  · rfl
  · dsimp only
    cases arguments client.paramstyle statement.bindings (key :: keys) <;> rfl

theorem run_eq (sql : String) (placeholders : Value.Entries) (client : Client σ) :
    run sql placeholders client = match bindAll { sql } placeholders with
      | .ok statement => statement.execute client
      | .error fault => .error fault client := by
  unfold run
  cases bindAll { sql } placeholders <;> rfl

theorem run_of_request {client : Client σ} {sql spelled : String} {placeholders : Value.Entries}
    {values : Option Arguments}
    (h : request (Connection.parser σ) client.paramstyle sql placeholders = .ok (spelled, values)) :
    ∃ statement : PreparedStatement,
      run sql placeholders client = (statement.fetched <$> Client.run spelled values) client := by
  rw [run_eq]
  unfold request at h
  cases hb : bindAll { sql } placeholders with
  | error fault => rw [hb] at h; cases h
  | ok statement =>
    rw [hb] at h
    have ho : outgoing (Connection.parser σ) client.paramstyle statement = .ok (spelled, values) :=
      h
    exact ⟨statement, by simp only [execute_eq, ho]⟩

theorem after_run_of_request {client : Client σ} {sql spelled : String}
    {placeholders : Value.Entries} {values : Option Arguments}
    (h : request (Connection.parser σ) client.paramstyle sql placeholders = .ok (spelled, values)) :
    (run sql placeholders).after client = (Client.run spelled values).after client := by
  obtain ⟨statement, hs⟩ := run_of_request h
  rw [Action.after, hs, ← Action.after, Action.after_map]

theorem outcome_run_of_request {client : Client σ} {sql spelled : String}
    {placeholders : Value.Entries} {values : Option Arguments}
    (h : request (Connection.parser σ) client.paramstyle sql placeholders = .ok (spelled, values)) :
    ∃ statement : PreparedStatement, (run sql placeholders).outcome client =
      ((Client.run spelled values).outcome client).map statement.fetched := by
  obtain ⟨statement, hs⟩ := run_of_request h
  exact ⟨statement, by rw [Action.outcome, hs, ← Action.outcome, Action.outcome_map]⟩

theorem run_of_refused {client : Client σ} {sql : String} {placeholders : Value.Entries}
    {fault : Fault}
    (h : request (Connection.parser σ) client.paramstyle sql placeholders = .error fault) :
    run sql placeholders client = .error fault client := by
  rw [run_eq]
  unfold request at h
  cases hb : bindAll { sql } placeholders with
  | error cause => rw [hb] at h; cases h; rfl
  | ok statement =>
    rw [hb] at h
    have ho : outgoing (Connection.parser σ) client.paramstyle statement = .error fault := h
    simp only [execute_eq, ho]

end PreparedStatement

end SqlToolkit
