import SqlToolkit.Connection.Scripted
import SqlToolkit.Proofs.Builder.Compose
import SqlToolkit.Proofs.Builder.Sending

/-!
# Writes whose condition was rejected

An UPDATE or a DELETE holds its kind, its table and its values before its condition is looked at,
and a rejected condition takes the SQL of the one before it along. What is left is a write without a
condition, and it stays one until a new statement is started or a condition is accepted. Nothing
stops an execution from sending it.
-/

namespace SqlToolkit.Builder

variable {σ : Type} {builder : Builder σ}

/-! ## Writes without a condition -/

/-- An UPDATE or a DELETE without a condition. -/
structure Unfiltered (builder : Builder σ) : Prop where
  kind : builder.descriptor.kind = .update ∨ builder.descriptor.kind = .delete
  clause : builder.descriptor.clause.sql = ""

theorem Unfiltered.of_aim {before after : Builder σ} (h : before.Unfiltered)
    (ha : before.aim = after.aim) : after.Unfiltered := by
  obtain ⟨hk, hc⟩ := Prod.mk.inj ha
  exact ⟨hk ▸ h.kind, hc ▸ h.clause⟩

theorem Unfiltered.isRead_eq_false (parser : SqlParser) (h : builder.Unfiltered) :
    isRead parser builder.descriptor = false := by
  unfold isRead
  rcases h.kind with hk | hk
  · rw [hk]
  · rw [hk]

/-- Its SQL is that of the same statement with no condition at all. -/
theorem Unfiltered.sql_eq (h : builder.Unfiltered) :
    builder.sql = Descriptor.sql { builder.descriptor with clause := {} } builder.dialect := by
  unfold Builder.sql Descriptor.sql
  rcases h.kind with hk | hk
  · dsimp only
    rw [hk]
    unfold Descriptor.updateSql
    rw [h.clause]
  · dsimp only
    rw [hk]
    unfold Descriptor.deleteSql
    rw [h.clause]

theorem unfiltered_of_filter_condition {condition : Value} {cause : ConditionFault}
    (hk : builder.descriptor.kind = .update ∨ builder.descriptor.kind = .delete)
    (h : (filter condition).outcome builder = .error (.condition cause)) :
    ((filter condition).after builder).Unfiltered :=
  ⟨by rw [(aim_of_filter_error h).1]; exact hk, sql_of_filter_condition h⟩

theorem unfiltered_of_update {table values condition : Value} {cause : ConditionFault}
    (h : (update table values condition).outcome builder = .error (.condition cause)) :
    ((update table values condition).after builder).Unfiltered := by
  unfold update at h ⊢
  obtain h | ⟨_, hs, h⟩ := Action.of_outcome_bind_error h
  · rcases startWrite_of_error h with h | h | h
    all_goals cases h
  · rw [Action.after_bind_ok hs]
    exact unfiltered_of_filter_condition (.inl (kind_of_startWrite hs)) h

theorem unfiltered_of_delete {table condition : Value} {cause : ConditionFault}
    (h : (delete table condition).outcome builder = .error (.condition cause)) :
    ((delete table condition).after builder).Unfiltered := by
  unfold delete at h ⊢
  obtain h | ⟨_, hc, h⟩ := Action.of_outcome_bind_error h
  · cases h
  obtain h | ⟨_, he, h⟩ := Action.of_outcome_bind_error h
  · cases h
  obtain h | ⟨_, ht, h⟩ := Action.of_outcome_bind_error h
  · cases fromTable_of_error h
  rw [Action.after_bind_ok hc, Action.after_bind_ok he, Action.after_bind_ok ht]
  exact unfiltered_of_filter_condition (.inr (kind_fromTable table _)) h

/-! ## After a rejection -/

variable [Connection σ]

/-- A builder whose UPDATE or DELETE had its condition rejected, and on which no statement was
started and no condition accepted since. -/
inductive Rejected : Builder σ → Prop where
  | update {builder : Builder σ} {table values condition : Value} {cause : ConditionFault}
      (h : (update table values condition).outcome builder = .error (.condition cause)) :
      Rejected ((update table values condition).after builder)
  | delete {builder : Builder σ} {table condition : Value} {cause : ConditionFault}
      (h : (delete table condition).outcome builder = .error (.condition cause)) :
      Rejected ((delete table condition).after builder)
  | filter {builder : Builder σ} {condition : Value} {cause : ConditionFault}
      (hk : builder.descriptor.kind = .update ∨ builder.descriptor.kind = .delete)
      (h : (filter condition).outcome builder = .error (.condition cause)) :
      Rejected ((filter condition).after builder)
  | refused {builder : Builder σ} {condition : Value} {fault : Fault} (hr : Rejected builder)
      (h : (Builder.filter condition).outcome builder = .error fault) :
      Rejected ((Builder.filter condition).after builder)
  | continued {builder : Builder σ} (hr : Rejected builder) (operation : Continuation σ) :
      Rejected (operation.run.after builder)

/-- Whatever is done after the rejection, the statement stays one without a condition. -/
theorem Rejected.unfiltered (h : Rejected builder) : builder.Unfiltered := by
  -- the placeholders of entries before the rejected one may stay, so only the SQL is invariant
  induction h with
  | update h => exact unfiltered_of_update h
  | delete h => exact unfiltered_of_delete h
  | filter hk h => exact unfiltered_of_filter_condition hk h
  | refused _ h ih =>
    obtain ⟨hk, hc⟩ := aim_of_filter_error h
    refine ⟨by rw [hk]; exact ih.kind, ?_⟩
    rcases hc with hc | hc
    · rw [hc]
      exact ih.clause
    · exact hc
  | continued _ operation ih => exact ih.of_aim (operation.run_aim _)

/-- **A rejected condition leaves an unfiltered write that is sent.** The SQL left behind is that of
the statement without a condition, and an execution sends it unless it cannot be rendered, a marker
has no value, or a debug mode holds it back. -/
theorem rejected_sendsStatement_iff (h : Rejected builder) :
    builder.sql = Descriptor.sql { builder.descriptor with clause := {} } builder.dialect ∧
      (builder.SendsStatement ↔ builder.Sendable) :=
  ⟨h.unfiltered.sql_eq, write_sendsStatement_iff (h.unfiltered.isRead_eq_false _)⟩

def deleteRejected : Builder Scripted :=
  (delete (.text "t") (.map [(.text "", .int 1)])).after
    { client := { connection := {} }, dialect := .sqlite }

theorem rejected_sendsStatement_iff_delete :
    Rejected deleteRejected ∧
      deleteRejected.sql =
        Descriptor.sql { deleteRejected.descriptor with clause := {} } deleteRejected.dialect ∧
      (deleteRejected.SendsStatement ↔ deleteRejected.Sendable) :=
  ⟨.delete rfl, rejected_sendsStatement_iff (.delete rfl)⟩

/-- Executing it deletes every row of the table. -/
theorem rejected_delete_deletes_all :
    Rejected deleteRejected ∧
      (execute.after deleteRejected).client.calls =
        deleteRejected.client.calls ++ [.execute "DELETE FROM t" none, .commit] :=
  ⟨.delete rfl, rfl⟩

end SqlToolkit.Builder
