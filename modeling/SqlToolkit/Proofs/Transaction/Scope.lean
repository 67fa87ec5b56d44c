import SqlToolkit.Proofs.Builder.Client
import SqlToolkit.Proofs.Client.Calls

/-!
# The guard around a write

A guard that is not owned adds nothing to its body. An own guard, begun where no transaction is
open, runs its body in a transaction and ends that transaction with one call: the commit if the body
returned and did not ask for a rollback, the rollback otherwise.
-/

namespace SqlToolkit.Builder

variable {σ α : Type}

def opened (builder : Builder σ) : Builder σ :=
  { builder with client := { builder.client with inTransaction := true } }

def withClient (builder : Builder σ) (action : Action (Client σ) α) : Builder σ :=
  { builder with client := action.after builder.client }

theorem after_onClient (action : Action (Client σ) α) (builder : Builder σ) :
    (onClient action).after builder = builder.withClient action :=
  Action.after_on clientPart action builder

theorem outcome_onClient (action : Action (Client σ) α) (builder : Builder σ) :
    (onClient action).outcome builder = action.outcome builder.client :=
  Action.outcome_on clientPart action builder

theorem after_begin {builder : Builder σ} (h : builder.client.inTransaction = false) :
    (onClient Client.beginTransaction).after builder = builder.opened := by
  rw [after_onClient, withClient, Client.after_beginTransaction h]
  rfl

theorem outcome_begin {builder : Builder σ} (h : builder.client.inTransaction = false) :
    (onClient Client.beginTransaction).outcome builder = .ok () := by
  rw [outcome_onClient, Client.outcome_beginTransaction h]

variable [Connection σ]

/-- What ends an own transaction once its body returned. -/
def ending (rollbackOnly : Bool) : Action (Client σ) Unit :=
  if rollbackOnly then Client.rollback else Client.commit

theorem after_abandon {builder : Builder σ} (h : builder.client.inTransaction = true) :
    (abandon true).after builder = builder.withClient Client.rollback := by
  unfold abandon
  rw [Action.after_bind_ok (Action.outcome_get builder), Action.after_get, h]
  exact after_onClient _ _

theorem after_scope_unowned (body : Action (Builder σ) (α × Bool)) (builder : Builder σ) :
    (transactionScope Part.whole false body).after builder = body.after builder := by
  unfold transactionScope
  simp only [Action.on_whole, abandon, conclude, Bool.false_and, Bool.false_eq_true, if_false]
  rw [Action.after_bind_ok (Action.outcome_attempt _ _), Action.attempt_after]
  cases body.outcome builder <;> rfl

theorem outcome_scope_unowned (body : Action (Builder σ) (α × Bool)) (builder : Builder σ) :
    (transactionScope Part.whole false body).outcome builder =
      (body.outcome builder).map Prod.fst := by
  unfold transactionScope
  simp only [Action.on_whole, abandon, conclude, Bool.false_and, Bool.false_eq_true, if_false]
  rw [Action.outcome_bind_ok (Action.outcome_attempt _ _)]
  cases body.outcome builder <;> rfl

section Own

variable {body : Action (Builder σ) (α × Bool)} {builder : Builder σ}
  (h : builder.client.inTransaction = false)

include h

/-- An own guard whose body failed rolls back. -/
theorem after_scope_of_error {fault : Fault} (hb : body.outcome builder.opened = .error fault)
    (ho : (body.after builder.opened).client.inTransaction = true) :
    (transactionScope Part.whole true body).after builder =
      (body.after builder.opened).withClient Client.rollback := by
  unfold transactionScope
  simp only [if_true, Action.on_whole]
  rw [Action.after_bind_ok (outcome_begin h), after_begin h,
    Action.after_bind_ok (Action.outcome_attempt _ _), Action.attempt_after, hb, ← after_abandon ho]
  simp only [Action.after_bind]
  cases (abandon true).outcome (body.after builder.opened) <;> rfl

/-- An own guard fails with the fault of its body, unless rolling back fails as well. -/
theorem outcome_scope_of_error {fault : Fault} (hb : body.outcome builder.opened = .error fault) :
    ∃ raised, (transactionScope Part.whole true body).outcome builder = .error raised ∧
      (raised = fault ∨
        (abandon true).outcome (body.after builder.opened) = .error raised) := by
  unfold transactionScope
  simp only [if_true, Action.on_whole]
  rw [Action.outcome_bind_ok (outcome_begin h), after_begin h,
    Action.outcome_bind_ok (Action.outcome_attempt _ _), Action.attempt_after, hb]
  simp only [Action.outcome_bind]
  cases (abandon true).outcome (body.after builder.opened) with
  | ok _ => exact ⟨fault, rfl, .inl rfl⟩
  | error cause => exact ⟨cause, rfl, .inr rfl⟩

/-- An own guard whose body returned ends its transaction as the body asks. -/
theorem after_scope_of_ok {result : α} {rollbackOnly : Bool}
    (hb : body.outcome builder.opened = .ok (result, rollbackOnly)) :
    (transactionScope Part.whole true body).after builder =
      (body.after builder.opened).withClient (ending rollbackOnly) := by
  unfold transactionScope
  simp only [if_true, Action.on_whole]
  rw [Action.after_bind_ok (outcome_begin h), after_begin h,
    Action.after_bind_ok (Action.outcome_attempt _ _), Action.attempt_after, hb, ← after_onClient]
  simp only [conclude, if_true, Action.after_bind, ending]
  split <;> rfl

theorem outcome_scope_of_ok {result : α} {rollbackOnly : Bool}
    (hb : body.outcome builder.opened = .ok (result, rollbackOnly)) :
    (transactionScope Part.whole true body).outcome builder =
      ((ending rollbackOnly).outcome (body.after builder.opened).client).map fun _ => result := by
  unfold transactionScope
  simp only [if_true, Action.on_whole]
  rw [Action.outcome_bind_ok (outcome_begin h), after_begin h,
    Action.outcome_bind_ok (Action.outcome_attempt _ _), Action.attempt_after, hb,
    ← outcome_onClient]
  simp only [conclude, if_true, Action.outcome_bind, ending]
  split
  · next hc => rw [hc]; rfl
  · next hc => rw [hc]; rfl

end Own

/-- The body of a guard that returned did, with a transaction open if the guard opened one. -/
theorem body_of_scope {owned : Bool} {body : Action (Builder σ) (α × Bool)} {builder : Builder σ}
    {result : α} (ho : owned = true → builder.client.inTransaction = false)
    (h : (transactionScope Part.whole owned body).outcome builder = .ok result) :
    ∃ rollbackOnly, body.outcome (if owned then builder.opened else builder) =
      .ok (result, rollbackOnly) := by
  cases owned with
  | false =>
    rw [outcome_scope_unowned] at h
    rw [if_neg Bool.false_ne_true]
    cases hb : body.outcome builder with
    | error fault => rw [hb] at h; cases h
    | ok given => rw [hb] at h; cases h; exact ⟨given.2, rfl⟩
  | true =>
    rw [if_pos rfl]
    cases hb : body.outcome builder.opened with
    | error fault =>
      obtain ⟨raised, hr, -⟩ := outcome_scope_of_error (ho rfl) hb
      cases hr.symm.trans h
    | ok given =>
      rw [outcome_scope_of_ok (ho rfl) hb] at h
      cases he : (ending given.2).outcome (body.after builder.opened).client with
      | error fault => rw [he] at h; cases h
      | ok _ => rw [he] at h; cases h; exact ⟨given.2, rfl⟩

end SqlToolkit.Builder
