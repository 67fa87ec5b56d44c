import SqlToolkit.Proofs.Connection.Reached
import SqlToolkit.Proofs.Transaction.Frame
import SqlToolkit.Proofs.Transaction.Write

/-!
# Statements outside a transaction are settled at once

On a connection that does not tell about open work, every statement that is sent outside an explicit
transaction is followed by the one call that settles it. The client makes that call for a statement
of its own, and the guard for a write that it gives a transaction; never do both act. So on a
connection that errors abort, no statement leaves an aborted transaction behind.
-/

namespace SqlToolkit

open SqlToolkit.Action (Keeps)
open Connection (reached reached_append TellsNothing)

variable {σ : Type} [Connection σ]

/-! ## Settled statements -/

/-- The call that settles a statement: a rollback if the statement failed or is to be undone, and
a commit otherwise. -/
def Call.settling (undone : Bool) : Except String ResultSet → Call
  | .ok _ => if undone then .rollback else .commit
  | .error _ => .rollback

/-- The calls are statements that are settled each before the next is sent, from a connection on. -/
inductive SettledOneByOne (undone : Bool) : σ → List Call → Prop where
  | nothing (connection : σ) : SettledOneByOne undone connection []
  | statement {connection : σ} {sql : String} {arguments : Option Arguments} {ending : Call}
      {rest : List Call}
      (hs : ending = .settling undone (Connection.execute sql arguments connection).1)
      (h : SettledOneByOne undone (reached connection [.execute sql arguments, ending]) rest) :
      SettledOneByOne undone connection (.execute sql arguments :: ending :: rest)

namespace SettledOneByOne

variable {undone : Bool} {connection : σ}

theorem single (undone : Bool) (sql : String) (arguments : Option Arguments) (connection : σ) :
    SettledOneByOne undone connection
      [.execute sql arguments,
        .settling undone (Connection.execute sql arguments connection).1] :=
  .statement rfl (.nothing _)

theorem append {first second : List Call} (h : SettledOneByOne undone connection first)
    (h' : SettledOneByOne undone (reached connection first) second) :
    SettledOneByOne undone connection (first ++ second) := by
  induction h with
  | nothing connection => exact h'
  | statement hs _ ih => exact .statement hs (ih h')

end SettledOneByOne

/-! ## Connections that an error aborts -/

/-- A connection that errors abort, from some state on: it accepts a statement only while it is not
aborted, a commit aborts nothing, and a rollback that succeeds, as all of them do, ends what was
aborted. -/
structure AbortsOnError (aborted : σ → Bool) (connection : σ) : Prop where
  accepts : ∀ calls sql arguments result,
    (Connection.execute sql arguments (reached connection calls)).1 = .ok result →
      aborted (reached connection (calls ++ [.execute sql arguments])) = false
  commits : ∀ calls, aborted (reached connection calls) = false →
    aborted (reached connection (calls ++ [.commit])) = false
  rollsBack : ∀ calls, (Connection.rollback (reached connection calls)).1 = .ok () →
    aborted (reached connection (calls ++ [.rollback])) = false
  succeeds : ∀ calls, (Connection.rollback (reached connection calls)).1 = .ok ()

namespace AbortsOnError

variable {aborted : σ → Bool} {connection : σ}

theorem reached (h : AbortsOnError aborted connection) (calls : List Call) :
    AbortsOnError aborted (reached connection calls) where
  accepts more sql arguments result hr := by
    rw [← reached_append] at hr ⊢
    rw [← List.append_assoc]
    exact h.accepts _ sql arguments result hr
  commits more ha := by
    rw [← reached_append] at ha ⊢
    rw [← List.append_assoc]
    exact h.commits _ ha
  rollsBack more hr := by
    rw [← reached_append] at hr ⊢
    rw [← List.append_assoc]
    exact h.rollsBack _ hr
  succeeds more := by
    rw [← reached_append]
    exact h.succeeds _

theorem rolledBack (h : AbortsOnError aborted connection) (calls : List Call) :
    aborted (Connection.reached connection (calls ++ [.rollback])) = false :=
  h.rollsBack calls (h.succeeds calls)

/-- A settled statement leaves no aborted transaction. -/
theorem settled (h : AbortsOnError aborted connection) (undone : Bool) (sql : String)
    (arguments : Option Arguments) :
    aborted (Connection.reached connection [.execute sql arguments,
      .settling undone (Connection.execute sql arguments connection).1]) = false := by
  cases hr : (Connection.execute sql arguments connection).1 with
  | error message => exact h.rolledBack [.execute sql arguments]
  | ok result =>
    cases undone with
    | true => exact h.rolledBack [.execute sql arguments]
    | false => exact h.commits [.execute sql arguments] (h.accepts [] sql arguments result hr)

/-- Statements that are settled one by one leave no aborted transaction, if there are any. -/
theorem settledOneByOne {undone : Bool} {made : List Call} (h : AbortsOnError aborted connection)
    (hs : SettledOneByOne undone connection made) (hn : made ≠ []) :
    aborted (Connection.reached connection made) = false := by
  induction hs with
  | nothing => exact absurd rfl hn
  | @statement connection sql arguments ending rest hs hrest ih =>
    rw [show (Call.execute sql arguments :: ending :: rest) =
      [.execute sql arguments, ending] ++ rest from rfl, reached_append]
    cases rest with
    | nil => rw [hs]; exact h.settled undone sql arguments
    | cons call rest => exact ih (h.reached _) (List.cons_ne_nil _ _)

end AbortsOnError

/-! ## The client -/

namespace Client

/-- Every statement of the client is settled at once: no transaction is open, and the connection
does not tell about open work. -/
structure Autocommits (client : Client σ) : Prop where
  closed : client.inTransaction = false
  untold : TellsNothing client.connection

/-- From a client that settles at once, the calls made in between are of a kind, and no transaction
is open after them. -/
def Settles (kind : σ → List Call → Prop) (before after : Client σ) : Prop :=
  before.Autocommits → after.inTransaction = false ∧ before.Makes kind after

variable {kind : σ → List Call → Prop} {before after : Client σ}

theorem Settles.autocommits (h : before.Settles kind after) (hb : before.Autocommits) :
    after.Autocommits := by
  obtain ⟨hclosed, made, -, hconnection, -⟩ := h hb
  exact ⟨hclosed, hconnection ▸ hb.untold.reached made⟩

instance (undone : Bool) : IsPreorder (Client σ) (Settles (SettledOneByOne undone)) where
  refl _ hb := ⟨hb.closed, .nothing rfl rfl (.nothing _)⟩
  trans _ _ _ h h' hb :=
    ⟨(h' (h.autocommits hb)).1,
      (h hb).2.append (fun _ _ => .append) (h' (h.autocommits hb)).2⟩

/-- What there may be to settle is settled outside a transaction. -/
theorem after_settle_of_closed {client : Client σ} (ending : Action (Client σ) Unit)
    (hclosed : client.inTransaction = false)
    (hwork : Connection.hasOpenWork client.connection = true) :
    (settle ending).after client = ending.after client := by
  rw [Action.after, settle_eq, hclosed, hwork]
  rfl

/-- Without open work there is nothing to settle. -/
theorem after_settle_of_idle {client : Client σ} (ending : Action (Client σ) Unit)
    (hidle : Connection.hasOpenWork client.connection = false) :
    (settle ending).after client = client := by
  rw [Action.after, settle_eq, hidle, Bool.and_false]
  rfl

/-- A statement that leaves no open work is the only call. -/
theorem calls_run_of_idle {client : Client σ} {sql : String} {arguments : Option Arguments}
    (hidle : Connection.hasOpenWork (client.sent sql arguments).connection = false) :
    ((run sql arguments).after client).calls = client.calls ++ [.execute sql arguments] := by
  cases hr : (Connection.execute sql arguments client.connection).1 with
  | ok result =>
    rw [Action.after_congr (run_of_ok hr)]
    refine (Action.view_after_bind calls (fun _ => Keeps.pure _) _).trans ?_
    exact congrArg calls
      (@after_settle_of_idle _ _ (client.accepted sql arguments result) sendCommit hidle)
  | error message =>
    rw [Action.after_congr (run_of_error hr)]
    refine (Action.view_after_bind calls (fun _ => Keeps.throw _) _).trans ?_
    exact congrArg calls (after_settle_of_idle sendRollback hidle)

section Run

variable {client : Client σ} {sql : String} {arguments : Option Arguments}
  (hclosed : client.inTransaction = false)
  (hwork : Connection.hasOpenWork (client.sent sql arguments).connection = true)

include hclosed hwork

theorem after_run_of_accepted {result : ResultSet}
    (hr : (Connection.execute sql arguments client.connection).1 = .ok result) :
    (run sql arguments).after client =
      sendCommit.after
        { client.sent sql arguments with lastRowId := result.rowId.getD .null } := by
  rw [Action.after_congr (run_of_ok hr)]
  exact (Action.view_after_bind id (fun _ => Keeps.pure _) _).trans
    (after_settle_of_closed sendCommit hclosed hwork)

theorem after_run_of_rejected {message : String}
    (hr : (Connection.execute sql arguments client.connection).1 = .error message) :
    (run sql arguments).after client = sendRollback.after (client.sent sql arguments) := by
  rw [Action.after_congr (run_of_error hr)]
  exact (Action.view_after_bind id (fun _ => Keeps.throw _) _).trans
    (after_settle_of_closed sendRollback hclosed hwork)

end Run

/-- A statement is sent, and settled at once. -/
theorem run_settles (sql : String) (arguments : Option Arguments) :
    Keeps (Settles (SettledOneByOne false)) id
      (run sql arguments : Action (Client σ) ResultSet) := by
  intro client (hb : client.Autocommits)
  have hwork : Connection.hasOpenWork (client.sent sql arguments).connection = true :=
    hb.untold [.execute sql arguments]
  have hsingle := SettledOneByOne.single false sql arguments client.connection
  cases hr : (Connection.execute sql arguments client.connection).1 with
  | ok result =>
    rw [hr] at hsingle
    rw [id, after_run_of_accepted hb.closed hwork hr, sendCommit, after_send]
    exact ⟨hb.closed, _, List.append_assoc _ _ _, rfl, hsingle⟩
  | error message =>
    rw [hr] at hsingle
    rw [id, after_run_of_rejected hb.closed hwork hr, sendRollback, after_send]
    exact ⟨hb.closed, _, List.append_assoc _ _ _, rfl, hsingle⟩

end Client

/-! ## Writes of the builder -/

/-- Statements that are settled one by one, or a rollback alone: that of a transaction in which a
write was refused before it was sent. -/
def Settled (undone : Bool) (connection : σ) (made : List Call) : Prop :=
  SettledOneByOne undone connection made ∨ made = [.rollback]

instance (undone : Bool) : Std.Refl (Client.Settles (σ := σ) (Settled undone)) where
  refl _ hb := ⟨hb.closed, .nothing rfl rfl (.inl (.nothing _))⟩

theorem Client.Settles.settled {undone : Bool} {before after : Client σ}
    (h : before.Settles (SettledOneByOne undone) after) : before.Settles (Settled undone) after :=
  fun hb => ⟨(h hb).1, (h hb).2.mono fun _ => .inl⟩

namespace Builder

/-- Whether executing the current statement undoes it: it is a write, and a debug mode is on. -/
def undoesWrite (builder : Builder σ) : Bool :=
  !isRead (Connection.parser σ) builder.descriptor && builder.debugMode.enabled

variable {builder : Builder σ}

/-- However a write with its own transaction ends, it is settled. -/
theorem OwnWrite.settled {made : List Call} {given : Attempt ExecutionResult}
    (h : OwnWrite builder made given) :
    Settled builder.debugMode.enabled builder.client.connection made := by
  cases h with
  | unbound => exact .inr rfl
  | rejected _ hr => exact .inl (.statement (by rw [hr]; rfl) (.nothing _))
  | undone _ hr hd => exact .inl (.statement (by rw [hr, hd]; rfl) (.nothing _))
  | committed _ hr hd => exact .inl (.statement (by rw [hr, hd]; rfl) (.nothing _))
  | unsettled _ hr hd => exact .inl (.statement (by rw [hr, hd]; rfl) (.nothing _))

/-- A write is settled by its own transaction, or by the client if the database would end that. -/
theorem executeStatement_settles (builder : Builder σ) :
    builder.client.Settles (Settled builder.debugMode.enabled)
      (executeStatement.after builder).client := by
  intro hb
  have hclosed : (executeStatement.after builder).client.inTransaction = false :=
    (executeStatement_keepsTransaction builder).same.trans hb.closed
  refine ⟨hclosed, ?_⟩
  cases h : builder.rendered with
  | error fault =>
    rw [client_of_refused h]
    exact .nothing rfl rfl (.inl (.nothing _))
  | ok statement =>
    obtain ⟨sql, placeholders⟩ := statement
    cases ho : builder.ownsTransaction sql with
    | true =>
      obtain ⟨made, hcalls, hown⟩ := executeStatement_ownWrite h ho
      exact ⟨made, hcalls, (executeStatement_tracks builder).connection_eq hcalls, hown.settled⟩
    | false =>
      cases hh : builder.holdsBack sql with
      | true =>
        rw [client_of_held h hh]
        exact .nothing rfl rfl (.inl (.nothing _))
      | false =>
        -- without a transaction of its own a write is sent only if nothing is to be undone
        have hd : builder.debugMode.enabled = false := by
          unfold holdsBack at hh
          rw [ho, Bool.not_false, Bool.and_true] at hh
          exact hh
        have hsend : Keeps (Client.Settles (SettledOneByOne false)) Builder.client
            (sendWrite sql placeholders
              (insertsRows (Connection.parser σ) builder.descriptor.kind sql &&
                builder.dialect.supportsLastInsertId)
              false) :=
          sendWrite_keeps (@Client.run_settles σ _) sql placeholders _ _
        rw [client_of_sent h hh, guardedWrite, ho, after_scope_unowned, hd]
        exact ((hsend builder).settled hb).2

/-- An execution settles what it sends; only a write in a debug mode is undone. -/
theorem execute_settles (builder : Builder σ) :
    builder.client.Settles (Settled builder.undoesWrite) (execute.after builder).client := by
  cases h : isRead (Connection.parser σ) builder.descriptor with
  | true =>
    have hu : builder.undoesWrite = false := by rw [undoesWrite, h]; rfl
    rw [hu]
    exact (execute_related_of_read Client.run_settles h).settled
  | false =>
    have hu : builder.undoesWrite = builder.debugMode.enabled := by rw [undoesWrite, h]; rfl
    rw [hu, after_execute_of_write h]
    exact executeStatement_settles builder

end Builder

end SqlToolkit
