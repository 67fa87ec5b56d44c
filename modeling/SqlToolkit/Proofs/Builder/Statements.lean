import SqlToolkit.Proofs.Builder.Reading
import SqlToolkit.Proofs.Builder.Sending
import SqlToolkit.Proofs.Connection.Reached

/-!
# The statements that a connection is sent

Among the calls on a connection are the statements that it is sent, each with what it is answered.
Running a statement sends it once, in the form of the driver, and whatever settles it sends nothing
more; a statement whose values cannot be bound is not sent.
-/

namespace SqlToolkit

open SqlToolkit.Action (Keeps)

variable {σ : Type} [Connection σ]

/-- A statement as it was sent, with its values, and what it was answered. -/
structure Sent where
  sql : String
  values : Option Arguments
  answer : Except String ResultSet

def Call.sends : Call → Bool
  | .execute _ _ => true
  | .commit | .rollback | .close => false

namespace Connection

def sentBy (connection : σ) : Call → List Sent
  | .execute sql values => [⟨sql, values, (execute sql values connection).1⟩]
  | .commit | .rollback | .close => []

/-- The statements among some calls, with the answers that a connection gives. -/
def sent (connection : σ) : List Call → List Sent
  | [] => []
  | call :: rest => sentBy connection call ++ sent (answered connection call) rest

theorem sent_eq_nil {connection : σ} {calls : List Call}
    (h : ∀ call ∈ calls, call.sends = false) : sent connection calls = [] := by
  induction calls generalizing connection with
  | nil => rfl
  | cons call rest ih =>
    rw [sent, ih fun later hlater => h later (List.mem_cons_of_mem _ hlater)]
    cases call with
    | execute sql values => cases h _ List.mem_cons_self
    | commit | rollback | close => rfl

theorem sent_append (connection : σ) (first second : List Call) :
    sent connection (first ++ second) =
      sent connection first ++ sent (reached connection first) second := by
  induction first generalizing connection with
  | nil => rfl
  | cons call rest ih =>
    rw [List.cons_append, sent, sent, ih, List.append_assoc]
    rfl

/-- What a connection is sent for something that is to be sent to it. -/
def answersTo (connection : σ) : Attempt (String × Option Arguments) → List Sent
  | .ok (sql, values) => [⟨sql, values, (execute sql values connection).1⟩]
  | .error _ => []

end Connection

open Connection (answersTo)

theorem Connection.of_mem_answersTo {connection : σ} {sending : Attempt (String × Option Arguments)}
    {statement : Sent} (h : statement ∈ answersTo connection sending) :
    sending = .ok (statement.sql, statement.values) := by
  cases sending with
  | error fault => cases h
  | ok given => rw [List.mem_singleton.mp h]

namespace Client

/-- Between two states of a client these statements were sent, and no others. -/
def Delivers (statements : List Sent) (before after : Client σ) : Prop :=
  before.Makes (fun connection made => Connection.sent connection made = statements) after

theorem Delivers.nothing {before after : Client σ} (hcalls : after.calls = before.calls)
    (hconnection : after.connection = before.connection) : before.Delivers [] after :=
  Makes.nothing hcalls hconnection rfl

theorem Delivers.append {first second : List Sent} {before middle after : Client σ}
    (h : before.Delivers first middle) (h' : middle.Delivers second after) :
    before.Delivers (first ++ second) after :=
  Makes.append (fun made made' hm hm' => by rw [Connection.sent_append, hm, hm']) h h'

/-! ## The steps of a client -/

/-- No statement was sent in between. -/
abbrev SendsNothing (before after : Client σ) : Prop :=
  before.Makes (fun _ made => ∀ call ∈ made, call.sends = false) after

instance : IsPreorder (Client σ) SendsNothing where
  refl _ := .nothing rfl rfl nofun
  trans _ _ _ h h' := h.append (fun _ _ hm hm' call hcall =>
    (List.mem_append.mp hcall).elim (hm call) (hm' call)) h'

/-- One statement was sent in between, and nothing but calls that settle it. -/
def SendsOne (sql : String) (values : Option Arguments) (before after : Client σ) : Prop :=
  before.Makes (fun _ made => ∃ settling, made = .execute sql values :: settling ∧
    ∀ call ∈ settling, call.sends = false) after

theorem SendsOne.delivers {sql : String} {values : Option Arguments} {before after : Client σ}
    (h : before.SendsOne sql values after) :
    before.Delivers (answersTo before.connection (.ok (sql, values))) after := by
  refine h.mono fun made hmade => ?_
  obtain ⟨settling, rfl, hsettling⟩ := hmade
  rw [Connection.sent, Connection.sent_eq_nil hsettling]
  rfl

theorem sendCommit_sendsNothing :
    Keeps SendsNothing id (sendCommit : Action (Client σ) Unit) := by
  intro client
  unfold sendCommit
  rw [after_send]
  exact ⟨[.commit], rfl, rfl, fun call hcall => List.mem_singleton.mp hcall ▸ rfl⟩

theorem sendRollback_sendsNothing :
    Keeps SendsNothing id (sendRollback : Action (Client σ) Unit) := by
  intro client
  unfold sendRollback
  rw [after_send]
  exact ⟨[.rollback], rfl, rfl, fun call hcall => List.mem_singleton.mp hcall ▸ rfl⟩

theorem sendsNothing_overlooks : Overlooks (SendsNothing : Client σ → Client σ → Prop) :=
  fun _ _ hcalls hconnection => .nothing hcalls hconnection nofun

/-- A statement that is run is sent once, and then settled. -/
theorem run_sendsOne (sql : String) (values : Option Arguments) (client : Client σ) :
    client.SendsOne sql values ((run sql values).after client) := by
  have hsent : client.SendsOne sql values ((sendStatement sql values).after client) := by
    unfold sendStatement
    rw [after_send]
    exact ⟨[.execute sql values], rfl, rfl, [], rfl, nofun⟩
  unfold run
  rw [Action.after_bind_ok (Action.outcome_attempt _ _), Action.attempt_after]
  refine Makes.append (fun made made' hmade hmade' => ?_) hsent
    (settled_keeps sendsNothing_overlooks sendCommit_sendsNothing sendRollback_sendsNothing _ _)
  obtain ⟨settling, rfl, hsettling⟩ := hmade
  exact ⟨settling ++ made', rfl, fun call hcall =>
    (List.mem_append.mp hcall).elim (hsettling call) (hmade' call)⟩

theorem run_delivers (sql : String) (values : Option Arguments) (client : Client σ) :
    client.Delivers (answersTo client.connection (.ok (sql, values)))
      ((run sql values).after client) :=
  (run_sendsOne sql values client).delivers

theorem Exchanges.delivers {client final : Client σ} {exchange : Exchange}
    (h : client.Exchanges [exchange] final) :
    client.Delivers (answersTo client.connection (.ok (exchange.sql, exchange.values))) final := by
  obtain ⟨-, rfl⟩ := exchanges_singleton_iff.mp h
  exact run_delivers _ _ _

end Client

/-- What is run is sent in the form of the driver, or not at all. -/
theorem PreparedStatement.run_delivers (sql : String) (placeholders : Value.Entries)
    (client : Client σ) :
    client.Delivers
      (answersTo client.connection
        (request (Connection.parser σ) client.paramstyle sql placeholders))
      ((run sql placeholders).after client) := by
  cases h : request (Connection.parser σ) client.paramstyle sql placeholders with
  | error fault =>
    rw [Action.after, run_of_refused h]
    exact .nothing rfl rfl
  | ok sending =>
    rw [after_run_of_request h]
    exact Client.run_delivers sending.1 sending.2 client

/-! ## The steps of a builder -/

namespace Builder

variable {builder : Builder σ} {sql : String} {placeholders : Value.Entries}

/-- What a read did to the client is what its statement did. -/
theorem client_executeQuery (h : builder.rendered = .ok (sql, placeholders)) :
    (executeQuery.after builder).client =
      (PreparedStatement.run sql placeholders).after builder.client := by
  rw [Action.after_congr (executeQuery_of_sent h),
    Action.view_after_bind Builder.client
      (fun _ => (rememberRead_quiet builder sql placeholders _).leavesClient),
    guarded_client, after_onClient]
  rfl

theorem executeQuery_delivers (builder : Builder σ) :
    builder.client.Delivers (answersTo builder.client.connection builder.request)
      (executeQuery.after builder).client := by
  cases h : builder.rendered with
  | error fault =>
    have hrequest : builder.request = .error fault := by
      unfold request
      rw [h]
      rfl
    rw [hrequest, Action.after, executeQuery_of_refused h]
    exact .nothing rfl rfl
  | ok written =>
    rw [request_of_rendered h, client_executeQuery h]
    exact PreparedStatement.run_delivers _ _ _

/-- Counting again sends the statement again. -/
theorem countAgain_delivers {sending : Attempt (String × Option Arguments)}
    (h : PreparedStatement.request (Connection.parser σ) builder.client.paramstyle
      sql placeholders = sending) :
    builder.client.Delivers (answersTo builder.client.connection sending)
      ((countAgain sql placeholders).after builder).client := by
  rw [← h, Action.after_congr (countAgain_eq sql placeholders builder), guarded_client, runCounting,
    Action.view_after_bind Builder.client fun _ => Keeps.pure _, after_onClient]
  exact PreparedStatement.run_delivers _ _ _

end Builder

end SqlToolkit
