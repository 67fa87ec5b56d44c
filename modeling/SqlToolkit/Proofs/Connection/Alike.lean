import SqlToolkit.Proofs.Connection.Reached
import SqlToolkit.Proofs.TwoRuns

/-!
# Connections that answer alike

Two connections *answer alike* if from now on whatever is called on both is answered the same. Two
clients on such connections, with the same settings and both inside or both outside a transaction,
cannot be told apart by what they are asked to do: they make the same calls and get the same
answers. What they were called before makes no difference, and neither does the row id that the last
statement reported.
-/

namespace SqlToolkit

open SqlToolkit.Action (Agree Respects Keeps)

variable {σ : Type} [Connection σ]

namespace Connection

/-- The next call is answered the same by both connections, and both tell the same about open
work. -/
structure SameAnswers (connection connection' : σ) : Prop where
  execute : ∀ sql arguments,
    (execute sql arguments connection).1 = (Connection.execute sql arguments connection').1
  commit : (commit connection).1 = (Connection.commit connection').1
  rollback : (rollback connection).1 = (Connection.rollback connection').1
  openWork : hasOpenWork connection = hasOpenWork connection'

/-- The connections give the same answers whatever is called on both. -/
def AnswersAlike (connection connection' : σ) : Prop :=
  ∀ calls, SameAnswers (reached connection calls) (reached connection' calls)

variable {connection connection' : σ}

theorem AnswersAlike.now (h : AnswersAlike connection connection') :
    SameAnswers connection connection' := h []

theorem AnswersAlike.answered (h : AnswersAlike connection connection') (call : Call) :
    AnswersAlike (answered connection call) (Connection.answered connection' call) :=
  fun calls => h (call :: calls)

theorem AnswersAlike.refl (connection : σ) : AnswersAlike connection connection :=
  fun _ => ⟨fun _ _ => rfl, rfl, rfl, rfl⟩

end Connection

open Connection (AnswersAlike)

namespace Client

/-- The clients have the same settings, both or neither of them is inside a transaction, and their
connections answer alike. -/
structure SameSetting (client client' : Client σ) : Prop where
  connection : AnswersAlike client.connection client'.connection
  paramstyle : client.paramstyle = client'.paramstyle
  columnCase : client.columnCase = client'.columnCase
  inTransaction : client.inTransaction = client'.inTransaction

/-- The clients have the same setting, and since some calls made earlier they made the same ones. -/
structure Alike (earlier earlier' : List Call) (client client' : Client σ) : Prop
    extends SameSetting client client' where
  calls : ∃ made, client.calls = earlier ++ made ∧ client'.calls = earlier' ++ made

variable {earlier earlier' : List Call} {client client' : Client σ}

/-- Nothing was called yet since the calls made so far. -/
theorem SameSetting.alike (h : client.SameSetting client') :
    client.Alike client.calls client'.calls client' :=
  ⟨h, [], (List.append_nil _).symm, (List.append_nil _).symm⟩

theorem SameSetting.foldCase (h : client.SameSetting client') :
    client.foldCase = client'.foldCase := by
  funext name
  unfold Client.foldCase
  rw [h.columnCase]

/-! ## Calls -/

theorem send_respects {α : Type} {call : Call} {step : σ → Except String α × σ}
    (hanswer : ∀ {connection connection' : σ}, AnswersAlike connection connection' →
      (step connection).1 = (step connection').1)
    (hnext : ∀ connection, Connection.answered connection call = (step connection).2) :
    Respects (Alike earlier earlier') (send call step) := by
  intro client client' h
  constructor
  · rw [outcome_send, outcome_send, hanswer h.connection]
  · rw [after_send, after_send]
    obtain ⟨made, hmade, hmade'⟩ := h.calls
    have hcalls : client.calls ++ [call] = earlier ++ (made ++ [call]) ∧
        client'.calls ++ [call] = earlier' ++ (made ++ [call]) :=
      ⟨by rw [hmade, List.append_assoc], by rw [hmade', List.append_assoc]⟩
    have hanswered := h.connection.answered call
    rw [hnext, hnext] at hanswered
    exact ⟨⟨hanswered, h.paramstyle, h.columnCase, h.inTransaction⟩, _, hcalls⟩

theorem sendStatement_respects (sql : String) (arguments : Option Arguments) :
    Respects (Alike earlier earlier')
      (sendStatement sql arguments : Action (Client σ) ResultSet) :=
  send_respects (fun h => h.now.execute sql arguments) fun _ => rfl

theorem sendCommit_respects :
    Respects (Alike earlier earlier') (sendCommit : Action (Client σ) Unit) :=
  send_respects (fun h => h.now.commit) fun _ => rfl

theorem sendRollback_respects :
    Respects (Alike earlier earlier') (sendRollback : Action (Client σ) Unit) :=
  send_respects (fun h => h.now.rollback) fun _ => rfl

theorem settle_respects {ending : Action (Client σ) Unit}
    (h : Respects (Alike earlier earlier') ending) :
    Respects (Alike earlier earlier') (settle ending) := by
  refine Agree.get_bind fun client client' hs => ?_
  rw [hs.inTransaction, hs.connection.now.openWork]
  split
  · exact h
  · exact Respects.pure _

/-! ## Statements -/

theorem noteRowId_respects (value : Value) :
    Respects (Alike earlier earlier')
      (modify fun client : Client σ => { client with lastRowId := value }) :=
  Agree.modify fun _ _ h =>
    ⟨⟨h.connection, h.paramstyle, h.columnCase, h.inTransaction⟩, h.calls⟩

theorem run_respects (sql : String) (arguments : Option Arguments) :
    Respects (Alike earlier earlier') (run sql arguments : Action (Client σ) ResultSet) := by
  refine (sendStatement_respects sql arguments).attempt.bind fun answer => ?_
  split
  · exact (noteRowId_respects _).bind fun _ =>
      (settle_respects sendCommit_respects).bind fun _ => Respects.pure _
  · exact (settle_respects sendRollback_respects).bind fun _ => Respects.throw _

/-! ## Transactions -/

theorem setTransaction_respects (inTransaction : Bool) :
    Respects (Alike earlier earlier')
      (modify fun client : Client σ => { client with inTransaction }) :=
  Agree.modify fun _ _ h => ⟨⟨h.connection, h.paramstyle, h.columnCase, rfl⟩, h.calls⟩

theorem beginTransaction_respects :
    Respects (Alike earlier earlier') (beginTransaction : Action (Client σ) Unit) := by
  refine Agree.get_bind fun client client' hs => ?_
  rw [hs.inTransaction]
  split
  · exact (Respects.throw _).bind fun _ => setTransaction_respects true
  · exact setTransaction_respects true

theorem endTransaction_respects {ending : Action (Client σ) Unit}
    (h : Respects (Alike earlier earlier') ending) :
    Respects (Alike earlier earlier') (endTransaction ending) := by
  refine Agree.get_bind fun client client' hs => ?_
  rw [hs.inTransaction]
  have ends : Respects (Alike earlier earlier') (do
      let result ← Action.attempt ending
      modify fun client : Client σ => { client with inTransaction := false }
      Action.ofAttempt result) :=
    h.attempt.bind fun _ => (setTransaction_respects false).bind fun _ => Respects.ofAttempt _
  split
  · exact (Respects.throw _).bind fun _ => ends
  · exact ends

theorem commit_respects : Respects (Alike earlier earlier') (commit : Action (Client σ) Unit) :=
  endTransaction_respects sendCommit_respects

theorem rollback_respects :
    Respects (Alike earlier earlier') (rollback : Action (Client σ) Unit) :=
  endTransaction_respects sendRollback_respects

end Client

/-! ## Prepared statements -/

namespace PreparedStatement

open Client (Alike)

variable {earlier earlier' : List Call} {client client' : Client σ}

theorem run_respects (sql : String) (placeholders : Value.Entries) :
    Respects (Alike earlier earlier')
      (run sql placeholders : Action (Client σ) PreparedStatement) := by
  refine (Respects.ofAttempt _).bind fun statement => Agree.get_bind fun client client' hs => ?_
  rw [hs.paramstyle]
  have sends : ∀ values, Respects (Alike earlier earlier') (do
      let result ←
        Client.run ((Connection.parser σ).restyle statement.sql client'.paramstyle).1 values
      return { statement with cursor := some ⟨result.columns, result.rows, result.affected⟩ } :
        Action (Client σ) PreparedStatement) :=
    fun values => (Client.run_respects _ values).bind fun _ => Respects.pure _
  dsimp only
  split
  · exact (Respects.pure _).bind sends
  · exact ((Respects.ofAttempt _).map some).bind sends

/-- After a statement that returned, both clients know the same row id. -/
theorem lastRowId_alike {sql : String} {placeholders : Value.Entries}
    (h : client.Alike earlier earlier' client') {statement : PreparedStatement}
    (hr : (run sql placeholders).outcome client = .ok statement) :
    ((run sql placeholders).after client).lastRowId =
      ((run sql placeholders).after client').lastRowId := by
  cases hq : request (Connection.parser σ) client.paramstyle sql placeholders with
  | error fault =>
    rw [Action.outcome, run_of_refused hq] at hr
    cases hr
  | ok sent =>
    obtain ⟨spelled, values⟩ := sent
    have hq' : request (Connection.parser σ) client'.paramstyle sql placeholders =
      .ok (spelled, values) :=
      h.paramstyle ▸ hq
    obtain ⟨prepared, ho⟩ := outcome_run_of_request hq
    cases hgiven : (Client.run spelled values).outcome client with
    | error fault =>
      rw [ho, hgiven] at hr
      cases hr
    | ok given =>
      have hgiven' := (Client.run_respects spelled values _ _ h).outcome.symm.trans hgiven
      rw [after_run_of_request hq, after_run_of_request hq', Client.lastRowId_of_run hgiven,
        Client.lastRowId_of_run hgiven']

end PreparedStatement

end SqlToolkit
