import SqlToolkit.Proofs.Connection.Reached

/-!
# Refused calls

A connection may refuse any call. An action *reports* refusals if it fails with a message of the
connection exactly if one of the calls it made was refused. Sequences of such actions report
refusals, and so does an action that cleans up after its own failure, because all that can go wrong
in the cleaning up is a refusal again. Nothing that a client or the guard around a write does hides
a refused call or blames the connection for another failure.
-/

namespace SqlToolkit

open SqlToolkit.Action (Keeps)

variable {σ : Type} [Connection σ]

/-! ## Refusals -/

namespace Connection

def Refuses (connection : σ) : Call → Prop
  | .execute sql arguments => ∃ message, (execute sql arguments connection).1 = .error message
  | .commit => ∃ message, (commit connection).1 = .error message
  | .rollback => ∃ message, (rollback connection).1 = .error message
  | .close => False

def RefusesOne (connection : σ) : List Call → Prop
  | [] => False
  | call :: rest => Refuses connection call ∨ RefusesOne (answered connection call) rest

theorem refusesOne_append (connection : σ) (first second : List Call) :
    RefusesOne connection (first ++ second) ↔
      RefusesOne connection first ∨ RefusesOne (reached connection first) second := by
  induction first generalizing connection with
  | nil => exact (iff_of_eq (false_or _)).symm
  | cons call rest ih =>
    show Refuses connection call ∨ RefusesOne (answered connection call) (rest ++ second) ↔ _
    rw [ih, ← or_assoc]
    rfl

end Connection

open Connection (RefusesOne refusesOne_append)

/-! ## Reporting -/

namespace Client

variable {S α β : Type} {view : S → Client σ}

/-- The action failed with a message of the connection if one of the calls that it made was refused,
and only then. -/
def Reports (view : S → Client σ) (action : Action S α) : Prop :=
  ∀ s, (view s).Makes
    (fun connection made =>
      RefusesOne connection made ↔ ∃ message, action.outcome s = .error (.driver message))
    (view (action.after s))

/-- The action can only fail with a message of the connection. -/
def FailsByRefusal (action : Action S α) : Prop :=
  ∀ s fault, action.outcome s = .error fault → ∃ message, fault = .driver message

/-- The action does not fail with a message of the connection. -/
def Blameless (action : Action S α) : Prop :=
  ∀ s message, action.outcome s ≠ .error (.driver message)

/-- Without a call there is no refusal. -/
theorem Reports.of_silent {action : Action S α} (h : Keeps Eq view action)
    (hb : Blameless action) : Reports view action := fun s => by
  rw [← h s]
  exact .nothing rfl rfl ⟨False.elim, fun ⟨message, hm⟩ => hb s message hm⟩

omit [Connection σ] in
theorem blameless_pure (result : α) : Blameless (pure result : Action S α) :=
  fun _ _ => nofun

theorem reports_pure (result : α) : Reports view (pure result : Action S α) :=
  .of_silent (Keeps.pure result) (blameless_pure result)

theorem reports_get : Reports view (get : Action S S) :=
  .of_silent Keeps.get fun _ _ => nofun

/-- What a client notes without a call is no refusal. -/
theorem reports_modify {change : Client σ → Client σ}
    (hcalls : ∀ client, (change client).calls = client.calls)
    (hconnection : ∀ client, (change client).connection = client.connection) :
    Reports id (modify change : Action (Client σ) PUnit) :=
  fun client => .nothing (hcalls client) (hconnection client) ⟨False.elim, nofun⟩

/-- Of an action that returned no call was refused, so what counts is what follows it. -/
theorem Reports.makes_of_ok {action : Action S α} {next : Action S β} {s : S} {result : α}
    (h : Reports view action) (hr : action.outcome s = .ok result) (hn : Reports view next) :
    (view s).Makes
      (fun connection made => RefusesOne connection made ↔
        ∃ message, next.outcome (action.after s) = .error (.driver message))
      (view (next.after (action.after s))) := by
  refine (h s).append (fun made made' hmade hmade' => ?_) (hn (action.after s))
  have hfirst : ¬ RefusesOne (view s).connection made := by
    rw [hmade, hr]
    exact nofun
  rw [refusesOne_append, ← hmade', or_iff_right hfirst]

theorem Reports.bind {action : Action S α} {next : α → Action S β} (h : Reports view action)
    (hn : ∀ result, Reports view (next result)) : Reports view (action >>= next) := by
  intro s
  cases hr : action.outcome s with
  | error fault =>
    rw [Action.after_bind_error hr, Action.outcome_bind_error hr]
    refine (h s).mono fun made hmade => hmade.trans ?_
    rw [hr]
    exact ⟨fun ⟨message, hm⟩ => ⟨message, congrArg Except.error (Except.error.inj hm)⟩,
      fun ⟨message, hm⟩ => ⟨message, congrArg Except.error (Except.error.inj hm)⟩⟩
  | ok result =>
    rw [Action.after_bind_ok hr, Action.outcome_bind_ok hr]
    exact h.makes_of_ok hr (hn result)

theorem Reports.map (f : α → β) {action : Action S α} (h : Reports view action) :
    Reports view (f <$> action) := by
  rw [map_eq_pure_bind]
  exact h.bind fun result => reports_pure (f result)

/-- A failure stands after the cleaning up, unless that fails too. -/
theorem Reports.recover {action : Action S α} {next : Attempt α → Action S β}
    {cleanup : Action S Unit} (h : Reports view action)
    (hn : ∀ result, Reports view (next (.ok result))) (hc : Reports view cleanup)
    (hfails : FailsByRefusal cleanup)
    (herror : ∀ fault, next (.error fault) = cleanup >>= fun _ => throw fault) :
    Reports view (Action.attempt action >>= next) := by
  intro s
  rw [Action.after_bind_ok (Action.outcome_attempt _ _),
    Action.outcome_bind_ok (Action.outcome_attempt _ _), Action.attempt_after]
  cases hr : action.outcome s with
  | ok result => exact h.makes_of_ok hr (hn result)
  | error fault =>
    rw [herror]
    have hafter : (cleanup >>= fun _ => (throw fault : Action S β)).after (action.after s) =
        cleanup.after (action.after s) := by
      rw [Action.after_bind]
      split <;> rfl
    rw [hafter]
    refine (h s).append (fun made made' hmade hmade' => ?_) (hc (action.after s))
    rw [refusesOne_append, hmade, hmade', hr]
    cases hclean : cleanup.outcome (action.after s) with
    | ok _ =>
      rw [Action.outcome_bind_ok hclean]
      constructor
      · rintro (⟨message, hm⟩ | ⟨message, hm⟩)
        · exact ⟨message, congrArg Except.error (Except.error.inj hm)⟩
        · cases hm
      · rintro ⟨message, hm⟩
        exact .inl ⟨message, congrArg Except.error (Except.error.inj hm)⟩
    | error cause =>
      -- all that can go wrong in the cleaning up is a refusal
      obtain ⟨message, rfl⟩ := hfails _ cause hclean
      rw [Action.outcome_bind_error hclean]
      exact ⟨fun _ => ⟨message, rfl⟩, fun _ => .inr ⟨message, rfl⟩⟩

omit [Connection σ] in
theorem FailsByRefusal.bind {action : Action S α} {next : α → Action S β}
    (h : FailsByRefusal action) (hn : ∀ result, FailsByRefusal (next result)) :
    FailsByRefusal (action >>= next) := by
  intro s fault hf
  cases hr : action.outcome s with
  | error cause =>
    cases (Action.outcome_bind_error hr).symm.trans hf
    exact h s fault hr
  | ok result => exact hn result _ fault ((Action.outcome_bind_ok hr).symm.trans hf)

/-! ## The steps of a client -/

theorem reports_send {call : Call} {step : σ → Except String α × σ}
    (hc : ∀ connection, Connection.answered connection call = (step connection).2)
    (hr : ∀ connection, Connection.Refuses connection call ↔
      ∃ message, (step connection).1 = .error message) :
    Reports id (send call step) := by
  intro client
  rw [after_send, outcome_send]
  refine ⟨[call], rfl, (hc _).symm, (or_iff_left False.elim).trans ((hr _).trans ?_)⟩
  rw [id_eq]
  cases (step client.connection).1 with
  | ok value => exact ⟨fun ⟨_, hm⟩ => (nomatch hm), fun ⟨_, hm⟩ => (nomatch hm)⟩
  | error message => exact ⟨fun _ => ⟨message, rfl⟩, fun _ => ⟨message, rfl⟩⟩

theorem sendStatement_reports (sql : String) (arguments : Option Arguments) :
    Reports id (sendStatement sql arguments : Action (Client σ) ResultSet) :=
  reports_send (fun _ => rfl) fun _ => Iff.rfl

theorem sendCommit_reports : Reports id (sendCommit : Action (Client σ) Unit) :=
  reports_send (fun _ => rfl) fun _ => Iff.rfl

theorem sendRollback_reports : Reports id (sendRollback : Action (Client σ) Unit) :=
  reports_send (fun _ => rfl) fun _ => Iff.rfl

omit [Connection σ] in
theorem send_failsByRefusal (call : Call) (step : σ → Except String α × σ) :
    FailsByRefusal (send call step) := by
  intro client fault h
  rw [outcome_send] at h
  cases hs : (step client.connection).1 with
  | ok value => rw [hs] at h; cases h
  | error message => rw [hs] at h; cases h; exact ⟨message, rfl⟩

theorem settle_reports {ending : Action (Client σ) Unit} (h : Reports id ending) :
    Reports id (settle ending) := by
  refine reports_get.bind fun client => ?_
  split
  · exact h
  · exact reports_pure _

theorem settle_failsByRefusal {ending : Action (Client σ) Unit} (h : FailsByRefusal ending) :
    FailsByRefusal (settle ending) := by
  intro client fault hf
  unfold settle at hf
  rw [Action.outcome_bind_ok (Action.outcome_get client), Action.after_get] at hf
  split at hf
  · exact h client fault hf
  · cases hf

theorem run_reports (sql : String) (arguments : Option Arguments) :
    Reports id (run sql arguments : Action (Client σ) ResultSet) := by
  refine (sendStatement_reports sql arguments).recover (fun result => ?_)
    (settle_reports sendRollback_reports) (settle_failsByRefusal (send_failsByRefusal _ _))
    fun fault => rfl
  have notes : Reports id (modify fun client : Client σ =>
      { client with lastRowId := result.rowId.getD .null }) :=
    reports_modify (fun _ => rfl) fun _ => rfl
  exact notes.bind fun _ => (settle_reports sendCommit_reports).bind fun _ => reports_pure _

/-- Running a statement can only fail by a refusal: its own, or that of what settles it. -/
theorem run_failsByRefusal (sql : String) (arguments : Option Arguments) :
    FailsByRefusal (run sql arguments : Action (Client σ) ResultSet) := by
  intro client fault h
  unfold run at h
  rw [Action.outcome_bind_ok (Action.outcome_attempt _ _), Action.attempt_after] at h
  cases hs : (sendStatement sql arguments).outcome client with
  | error cause =>
    rw [hs] at h
    obtain ⟨message, rfl⟩ := send_failsByRefusal _ _ _ _ hs
    have hthrow : FailsByRefusal (throw (.driver message) : Action (Client σ) ResultSet) :=
      fun _ _ hthrown => ⟨message, (Except.error.inj hthrown).symm⟩
    exact (settle_failsByRefusal (send_failsByRefusal _ _)).bind (fun _ => hthrow) _ fault h
  | ok result =>
    rw [hs] at h
    dsimp only at h
    rw [Action.outcome_bind_ok (Action.outcome_modify _ _)] at h
    have hreturn : FailsByRefusal (pure result : Action (Client σ) ResultSet) :=
      fun _ _ hf => by cases hf
    exact (settle_failsByRefusal (send_failsByRefusal _ _)).bind (fun _ => hreturn) _ fault h

theorem endTransaction_reports {ending : Action (Client σ) Unit} (h : Reports id ending) :
    Reports id (endTransaction ending) := by
  have closes : Reports id
      (modify fun client : Client σ => { client with inTransaction := false }) :=
    reports_modify (fun _ => rfl) fun _ => rfl
  have ends : Reports id (do
      let result ← Action.attempt ending
      modify fun client : Client σ => { client with inTransaction := false }
      Action.ofAttempt result) :=
    h.recover (fun result => closes.bind fun _ => reports_pure result) closes
      (fun _ _ hf => by cases hf) fun fault => rfl
  refine reports_get.bind fun client => ?_
  split
  · exact Reports.bind (.of_silent (Keeps.throw _) fun _ _ => nofun) fun _ => ends
  · exact ends

theorem commit_reports : Reports id (commit : Action (Client σ) Unit) :=
  endTransaction_reports sendCommit_reports

theorem rollback_reports : Reports id (rollback : Action (Client σ) Unit) :=
  endTransaction_reports sendRollback_reports

theorem beginTransaction_reports : Reports id (beginTransaction : Action (Client σ) Unit) := by
  have begins : Reports id
      (modify fun client : Client σ => { client with inTransaction := true }) :=
    reports_modify (fun _ => rfl) fun _ => rfl
  refine reports_get.bind fun client => ?_
  split
  · exact Reports.bind (.of_silent (Keeps.throw _) fun _ _ => nofun) fun _ => begins
  · exact begins

end Client

open Client (FailsByRefusal Reports reports_get reports_pure)

namespace PreparedStatement

/-- Running a statement reports refusals, whether its values can be bound or not. -/
theorem run_reports (sql : String) (placeholders : Value.Entries) :
    Reports id (run sql placeholders : Action (Client σ) PreparedStatement) := by
  intro client
  cases hr : request (Connection.parser σ) client.paramstyle sql placeholders with
  | error fault =>
    rw [Action.after, Action.outcome, run_of_refused hr]
    refine .nothing rfl rfl ⟨False.elim, ?_⟩
    rintro ⟨message, hm⟩
    cases hm
    rcases request_refusal hr with htoolkit | ⟨hkind, -⟩
    · cases htoolkit
    · cases hkind
  | ok sending =>
    obtain ⟨statement, hs⟩ := run_of_request hr
    rw [Action.after_congr hs, Action.outcome_congr hs]
    exact (Client.run_reports sending.1 sending.2).map _ client

end PreparedStatement

/-! ## Writes of the builder -/

namespace Builder

theorem onClient_reports {α : Type} {action : Action (Client σ) α}
    (h : Reports id action) : Reports Builder.client (onClient action) := by
  intro builder
  rw [after_onClient, outcome_onClient]
  exact h builder.client

theorem sendWrite_reports (sql : String) (placeholders : Value.Entries)
    (wantsId rollbackOnly : Bool) :
    Reports Builder.client (sendWrite sql placeholders wantsId rollbackOnly :
      Action (Builder σ) ((PreparedStatement × Value) × Bool)) :=
  (onClient_reports (PreparedStatement.run_reports sql placeholders)).bind fun _ =>
    reports_get.bind fun _ => reports_pure _

theorem abandon_reports (owned : Bool) :
    Reports Builder.client (abandon owned : Action (Builder σ) Unit) := by
  refine reports_get.bind fun builder => ?_
  split
  · exact onClient_reports Client.rollback_reports
  · exact reports_pure _

/-- A transaction that is open can be rolled back, unless the connection refuses. -/
theorem abandon_failsByRefusal (owned : Bool) :
    FailsByRefusal (abandon owned : Action (Builder σ) Unit) := by
  intro builder fault hf
  unfold abandon at hf
  rw [Action.outcome_bind_ok (Action.outcome_get builder), Action.after_get] at hf
  split at hf
  · next hopen =>
    have hopen : builder.client.inTransaction = true := ((Bool.and_eq_true _ _).mp hopen).2
    rw [outcome_onClient, Client.outcome_rollback hopen] at hf
    cases hr : (Connection.rollback builder.client.connection).1 with
    | ok _ => rw [hr] at hf; cases hf
    | error message => rw [hr] at hf; cases hf; exact ⟨message, rfl⟩
  · cases hf

theorem conclude_reports (owned rollbackOnly : Bool) :
    Reports Builder.client (conclude owned rollbackOnly : Action (Builder σ) Unit) := by
  unfold conclude
  split
  · split
    · exact onClient_reports Client.rollback_reports
    · exact onClient_reports Client.commit_reports
  · exact reports_pure _

theorem scope_reports {α : Type} {body : Action (Builder σ) (α × Bool)} (owned : Bool)
    (hb : Reports Builder.client body) :
    Reports Builder.client (transactionScope Part.whole owned body) := by
  unfold transactionScope
  simp only [Action.on_whole]
  split
  case' isTrue => refine (onClient_reports Client.beginTransaction_reports).bind fun _ => ?_
  all_goals
    exact hb.recover (fun _ => (conclude_reports owned _).bind fun _ => reports_pure _)
      (abandon_reports owned) (abandon_failsByRefusal owned) fun fault => rfl

theorem guardedWrite_reports (builder : Builder σ) (sql : String) (placeholders : Value.Entries) :
    Reports Builder.client (builder.guardedWrite sql placeholders) :=
  scope_reports _ (sendWrite_reports _ _ _ _)

end Builder

end SqlToolkit
