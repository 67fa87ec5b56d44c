import SqlToolkit.Proofs.Transaction.Block

/-!
# What a failed transaction block raises

A body may do anything with the transaction that it runs in: commit it, roll it back, begin another
one. A block whose body failed rolls back in any case. Where the body has left no transaction that
is refused, and the refusal takes the place of the fault that the body failed with.
-/

namespace SqlToolkit

variable {σ : Type} [Connection σ]

/-- Without an open transaction there is nothing to roll back, and nothing is sent. -/
theorem Client.rollback_of_closed {client : Client σ} (h : client.inTransaction = false) :
    rollback client = .error (.transaction .noneActive) client := by
  unfold rollback endTransaction
  rw [Action.get_bind, h]
  rfl

namespace Facade

section Failed

variable {S α : Type} {part : Part S (Facade σ)} {body : Action S α} {state : S} {fault : Fault}
  (hidle : (part.get state).client.inTransaction = false)
  (hbody : body.outcome (begun part state) = .error fault)

include hidle hbody

theorem outcome_transaction_of_open
    (hopen : (part.get (body.after (begun part state))).client.inTransaction = true)
    (hrollback :
      (Connection.rollback (part.get (body.after (begun part state))).client.connection).1 =
        .ok ()) :
    (transaction part body).outcome state = .error fault := by
  rw [outcome_transaction_on_of_error hidle hbody, Client.outcome_rollback hopen, hrollback]
  rfl

theorem outcome_transaction_of_closed
    (hclosed : (part.get (body.after (begun part state))).client.inTransaction = false) :
    (transaction part body).outcome state = .error (.transaction .noneActive) := by
  rw [outcome_transaction_on_of_error hidle hbody, Action.outcome,
    Client.rollback_of_closed hclosed]
  rfl

/-- **A block raises the fault of its body if a transaction is left to roll back.** Where no
transaction is open, the body of a block fails, whatever it did with the transaction before, and
the connection does not fail to roll back. The block raises the fault of the body exactly if a
transaction is open when the fault leaves the body, or the fault is the very refusal of a rollback.
That refusal is what every other block raises. -/
theorem block_raises_body_fault_iff
    (hrollback : (part.get (body.after (begun part state))).client.inTransaction = true →
      (Connection.rollback (part.get (body.after (begun part state))).client.connection).1 =
        .ok ()) :
    let left := part.get (body.after (begun part state))
    ((transaction part body).outcome state = .error fault ↔
      left.client.inTransaction = true ∨ fault = .transaction .noneActive) ∧
    (left.client.inTransaction = false →
      (transaction part body).outcome state = .error (.transaction .noneActive)) := by
  intro left
  have hrefused := outcome_transaction_of_closed hidle hbody
  refine ⟨?_, hrefused⟩
  cases hleft : left.client.inTransaction with
  | true =>
    have hraised := outcome_transaction_of_open hidle hbody hleft (hrollback hleft)
    exact iff_of_true hraised (.inl rfl)
  | false =>
    rw [hrefused hleft, Except.error.injEq, or_iff_right Bool.false_ne_true, eq_comm]

end Failed

def onAccepting : Facade Scripted :=
  { builder := { client := { connection := {} }, dialect := .sqlite } }

/-- Rolls the transaction back, begins another one, deletes and gives up. -/
def reopenThenFail : Action (Facade Scripted) Unit := do
  onBuilder Builder.rollbackTransaction
  onBuilder Builder.beginTransaction
  let _ ← delete (.text "t") .null (.bool false)
  throw (.caller "stop")

theorem block_raises_body_fault_iff_reopened :
    onAccepting.client.inTransaction = false ∧
      reopenThenFail.outcome (begun Part.whole onAccepting) = .error (.caller "stop") ∧
      (Connection.rollback
        (reopenThenFail.after (begun Part.whole onAccepting)).client.connection).1 = .ok () ∧
      (transaction Part.whole reopenThenFail).outcome onAccepting = .error (.caller "stop") := by
  have hidle : (Part.whole.get onAccepting).client.inTransaction = false := rfl
  have hbody : reopenThenFail.outcome (begun Part.whole onAccepting) =
    .error (.caller "stop") := by rfl
  have hrollback : (Connection.rollback
    (reopenThenFail.after (begun Part.whole onAccepting)).client.connection).1 = .ok () := by rfl
  have hopen : (reopenThenFail.after (begun Part.whole onAccepting)).client.inTransaction =
    true := by rfl
  have hraises := block_raises_body_fault_iff hidle hbody fun _ => hrollback
  exact ⟨hidle, hbody, hrollback, hraises.1.mpr (.inl hopen)⟩

/-- Commits the transaction of its block and fails afterwards. -/
def commitThenFail : Action (Facade Scripted) Unit := do
  let _ ← delete (.text "t") .null (.bool false)
  onBuilder Builder.commitTransaction
  throw (.caller "boom")

/-- A block whose body committed before it failed refuses a rollback that nobody asked for, and the
fault of the body is lost. -/
theorem committed_body_loses_fault :
    onAccepting.client.inTransaction = false ∧
      commitThenFail.outcome (begun Part.whole onAccepting) = .error (.caller "boom") ∧
      (Connection.rollback
        (commitThenFail.after (begun Part.whole onAccepting)).client.connection).1 = .ok () ∧
      (transaction Part.whole commitThenFail).outcome onAccepting =
        .error (.transaction .noneActive) ∧
      (transaction Part.whole commitThenFail).outcome onAccepting ≠ .error (.caller "boom") :=
  ⟨rfl, by rfl, by rfl, by rfl, fun h => by cases h⟩

end Facade

end SqlToolkit
