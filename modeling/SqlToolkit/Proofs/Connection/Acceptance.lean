import SqlToolkit.Proofs.Builder.Reading
import SqlToolkit.Proofs.Transaction.Settling

/-!
# What a connection accepts

A connection accepts a statement if it answers it. Statements that only read leave that as it is
when they are accepted. When they are rejected it depends on the connection: with some nothing
happens, with others the error aborts the transaction, and no more of them is accepted until that
is rolled back.

A client runs such a statement, and what its connection accepted is accepted after it. There is one
exception: a statement that is rejected within a transaction of the caller's is not rolled back, so
that a transaction that errors abort stays aborted.
-/

namespace SqlToolkit

variable {σ : Type} [Connection σ]

namespace Connection

variable {connection : σ} {sql : String} {values : Option Arguments}

/-- The connection would answer the statement. -/
def Accepts (connection : σ) (sql : String) (values : Option Arguments) : Prop :=
  ∃ answer, (execute sql values connection).1 = .ok answer

theorem exists_message_of_not_accepts (h : ¬Accepts connection sql values) :
    ∃ message, (execute sql values connection).1 = .error message := by
  cases hr : (execute sql values connection).1 with
  | ok answer => exact absurd ⟨answer, hr⟩ h
  | error message => exact ⟨message, rfl⟩

/-- The one state of a connection leads to another that is as good: what was accepted still is, and
a state in which nothing waits to be committed leads to another. -/
structure Endures (clean : σ → Prop) (before after : σ) : Prop where
  accepts : ∀ sql values, Accepts before sql values → Accepts after sql values
  clean : clean before → clean after

theorem Endures.refl (clean : σ → Prop) (connection : σ) : Endures clean connection connection :=
  ⟨fun _ _ => id, id⟩

theorem Endures.trans {clean : σ → Prop} {first second third : σ}
    (h : Endures clean first second) (h' : Endures clean second third) :
    Endures clean first third :=
  ⟨fun sql values ha => h'.accepts sql values (h.accepts sql values ha),
    fun hc => h'.clean (h.clean hc)⟩

/-- How connections take the statements that only read. An accepted one leaves the connection as good
as it was. So does a rejected one, unless errors abort the transaction: that is open work then, and
no such statement is accepted in it. If nothing waits to be committed, the commit after the one and
the rollback after the other succeed, and all is as good as before the statement. -/
structure TakesReads (aborts : Bool) (reads : String → Option Arguments → Prop)
    (clean : σ → Prop) : Prop where
  accepted : ∀ {connection : σ} {sql values}, reads sql values → Accepts connection sql values →
    Endures clean connection (answered connection (.execute sql values))
  committed : ∀ {connection : σ} {sql values}, reads sql values → Accepts connection sql values →
    clean connection →
      (commit (answered connection (.execute sql values))).1 = .ok () ∧
        Endures clean connection (reached connection [.execute sql values, .commit])
  spared : aborts = false → ∀ {connection : σ} {sql values}, reads sql values →
    ¬Accepts connection sql values →
      Endures clean connection (answered connection (.execute sql values))
  aborted : aborts = true → ∀ {connection : σ} {sql values}, reads sql values →
    ¬Accepts connection sql values →
      hasOpenWork (answered connection (.execute sql values)) = true ∧
        ∀ sql' values', reads sql' values' →
          ¬Accepts (answered connection (.execute sql values)) sql' values'
  rolledBack : ∀ {connection : σ} {sql values}, reads sql values → ¬Accepts connection sql values →
    clean connection →
      (rollback (answered connection (.execute sql values))).1 = .ok () ∧
        Endures clean connection (reached connection [.execute sql values, .rollback])

end Connection

open Connection (Accepts Endures TakesReads exists_message_of_not_accepts)

namespace Client

variable {client : Client σ} {sql : String} {values : Option Arguments}

/-! ## Settling -/

/-- Settling leads to a connection as good as some earlier one if both ways do. -/
theorem settle_endures {clean : σ → Prop} {start : σ} {ending : Action (Client σ) Unit}
    (hends : client.inTransaction = false →
      ending.outcome client = .ok () ∧ Endures clean start (ending.after client).connection)
    (hstays : client.inTransaction = true ∨ Connection.hasOpenWork client.connection = false →
      Endures clean start client.connection) :
    (settle ending).outcome client = .ok () ∧
      Endures clean start ((settle ending).after client).connection := by
  have hsettle := settle_eq ending client
  cases ht : client.inTransaction with
  | true =>
    rw [ht] at hsettle
    rw [Action.outcome_congr hsettle, Action.after_congr hsettle]
    exact ⟨rfl, hstays (.inl ht)⟩
  | false =>
    cases hw : Connection.hasOpenWork client.connection with
    | true =>
      rw [ht, hw] at hsettle
      rw [Action.outcome_congr hsettle, Action.after_congr hsettle]
      exact hends ht
    | false =>
      rw [ht, hw] at hsettle
      rw [Action.outcome_congr hsettle, Action.after_congr hsettle]
      exact ⟨rfl, hstays (.inr hw)⟩

/-! ## Statements -/

/-- Only what is accepted returns. -/
theorem accepts_of_run {answer : ResultSet} (h : (run sql values).outcome client = .ok answer) :
    Accepts client.connection sql values := by
  by_contra hrejected
  obtain ⟨message, hm⟩ := exists_message_of_not_accepts hrejected
  rw [Action.outcome_congr (run_of_error hm)] at h
  obtain ⟨-, -, hthrown⟩ := Action.of_outcome_bind_ok h
  cases hthrown

variable {aborts : Bool} {reads : String → Option Arguments → Prop} {clean : σ → Prop}
  (hbackend : TakesReads aborts reads clean) (hreads : reads sql values)
  (hclean : client.inTransaction = false → clean client.connection)

include hbackend hreads hclean

/-- An accepted read returns, and leaves the connection as good as it was. -/
theorem run_of_accepts (h : Accepts client.connection sql values) :
    (∃ answer, (run sql values).outcome client = .ok answer) ∧
      Endures clean client.connection ((run sql values).after client).connection := by
  obtain ⟨answer, hanswer⟩ := h
  obtain ⟨hcommit, hendures⟩ : (settle sendCommit).outcome (client.accepted sql values answer) =
        .ok () ∧ Endures clean client.connection
          ((settle sendCommit).after (client.accepted sql values answer)).connection := by
    refine settle_endures (fun hclosed => ?_) fun _ => hbackend.accepted hreads ⟨answer, hanswer⟩
    obtain ⟨hcommits, hcommitted⟩ := hbackend.committed hreads ⟨answer, hanswer⟩ (hclean hclosed)
    rw [sendCommit, after_send]
    exact ⟨outcome_send_ok hcommits, hcommitted⟩
  have hrun := run_of_ok hanswer
  rw [Action.outcome_congr hrun, Action.after_congr hrun, Action.outcome_bind_ok hcommit,
    Action.after_bind_ok hcommit]
  exact ⟨⟨answer, rfl⟩, hendures⟩

/-- A rejected read fails, and leaves the connection as good as it was, unless it aborts a
transaction of the caller's. -/
theorem run_of_not_accepts (h : ¬Accepts client.connection sql values)
    (hspared : ¬(client.inTransaction = true ∧ aborts = true)) :
    (∃ message, (run sql values).outcome client = .error (.driver message)) ∧
      Endures clean client.connection ((run sql values).after client).connection := by
  obtain ⟨message, hmessage⟩ := exists_message_of_not_accepts h
  obtain ⟨hrollback, hendures⟩ : (settle sendRollback).outcome (client.sent sql values) = .ok () ∧
      Endures clean client.connection
        ((settle sendRollback).after (client.sent sql values)).connection := by
    refine settle_endures (fun hclosed => ?_) fun hstays => ?_
    · obtain ⟨hrolls, hrolledBack⟩ := hbackend.rolledBack hreads h (hclean hclosed)
      rw [sendRollback, after_send]
      exact ⟨outcome_send_ok hrolls, hrolledBack⟩
    · cases ha : aborts with
      | false => exact hbackend.spared ha hreads h
      | true =>
        -- an aborted transaction of the client's own is open work, so it is not left standing
        rcases hstays with hopen | hidle
        · exact absurd ⟨hopen, ha⟩ hspared
        · cases (hbackend.aborted ha hreads h).1.symm.trans hidle
  have hrun := run_of_error hmessage
  rw [Action.outcome_congr hrun, Action.after_congr hrun, Action.outcome_bind_ok hrollback,
    Action.after_bind_ok hrollback]
  exact ⟨⟨message, rfl⟩, hendures⟩

omit hclean in
/-- In a transaction of the caller's that errors abort, no read is accepted after a rejected one. -/
theorem run_of_aborted (h : ¬Accepts client.connection sql values)
    (ht : client.inTransaction = true) (ha : aborts = true) :
    (∃ message, (run sql values).outcome client = .error (.driver message)) ∧
      ∀ sql' values', reads sql' values' →
        ¬Accepts ((run sql values).after client).connection sql' values' := by
  obtain ⟨message, hmessage⟩ := exists_message_of_not_accepts h
  rw [after_run_of_error ht hmessage]
  exact ⟨⟨message, outcome_run_of_error ht hmessage⟩, (hbackend.aborted ha hreads h).2⟩

end Client

end SqlToolkit
