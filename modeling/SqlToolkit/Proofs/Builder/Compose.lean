import SqlToolkit.Proofs.Builder.Descriptor
import SqlToolkit.Proofs.Condition

/-!
# What entry points and conditions leave behind

A refused value stops an entry point where it stands: what was set before it stays set. A condition
is looked at last, once the names of the column values are known, so a rejected one finds the rest
of the statement in place and takes away the SQL of the condition before it.
-/

namespace SqlToolkit

theorem exists_of_mapM_error {α β : Type} {f : α → Attempt β} {fault : Fault} {items : List α}
    (h : items.mapM f = .error fault) : ∃ item ∈ items, f item = .error fault := by
  induction items with
  | nil => cases h
  | cons item rest ih =>
    rw [List.mapM_cons] at h
    cases hf : f item with
    | error cause =>
      rw [hf] at h
      cases h
      exact ⟨item, List.mem_cons_self, hf⟩
    | ok value =>
      rw [hf] at h
      cases hr : rest.mapM f with
      | error cause =>
        rw [hr] at h
        cases h
        obtain ⟨found, hm, hfound⟩ := ih hr
        exact ⟨found, List.mem_cons_of_mem _ hm, hfound⟩
      | ok values => rw [hr] at h; cases h

/-- How a value is refused. -/
theorem Value.eq_of_refuse {α : Type} {value : Value} {fault : String → Fault} {raised : Fault}
    (h : (value.refuse fault : Attempt α) = .error raised) :
    raised = fault value.shown ∨ raised = .badValue ∧ value.isWritable = false := by
  unfold refuse at h
  split at h
  · cases h
    exact .inl rfl
  · next hwritable =>
    cases h
    exact .inr ⟨rfl, Bool.eq_false_iff.mpr hwritable⟩

/-- A column key that gives no placeholder name is refused as a column name, if it can be shown. -/
theorem ColumnKey.parameter_of_error {key : Value} {fault : Fault}
    (h : ColumnKey.placeholder key = .error fault) :
    fault = .parameter (.badColumnName key.shown) ∨ fault = .badValue ∧ key.isWritable = false := by
  unfold ColumnKey.placeholder at h
  dsimp only at h
  split at h
  · split at h
    · cases h
    · exact Value.eq_of_refuse h
  · exact Value.eq_of_refuse h

theorem Descriptor.parameter_of_error {descriptor : Descriptor} {fault : Fault}
    (h : descriptor.valuePlaceholders = .error fault) :
    (∃ cause, fault = .parameter cause) ∨
      fault = .badValue ∧ ∃ entry ∈ descriptor.values, entry.1.isWritable = false := by
  unfold Descriptor.valuePlaceholders at h
  cases hm : descriptor.values.mapM (fun entry => do
      return (← ColumnKey.placeholder entry.1, entry.2) : _ → Attempt (String × Value)) with
  | ok named => rw [hm] at h; cases h
  | error cause =>
    rw [hm] at h
    cases h
    obtain ⟨entry, hentry, he⟩ := exists_of_mapM_error hm
    cases hk : ColumnKey.placeholder entry.1 with
    | ok name => rw [hk] at he; cases he
    | error refused =>
      rw [hk] at he
      cases he
      exact (ColumnKey.parameter_of_error hk).imp (fun hfault => ⟨_, hfault⟩)
        fun hfault => ⟨hfault.1, entry, hentry, hfault.2⟩

namespace Builder

open SqlToolkit.Action (Keeps)

variable {σ : Type} {builder : Builder σ}

/-! ## Setting a condition -/

theorem filter_of_unnamed {fault : Fault} (condition : Value)
    (h : builder.descriptor.valuePlaceholders = .error fault) :
    filter condition builder = .error fault builder := by
  unfold filter
  rw [Action.get_bind]
  dsimp only
  rw [h]
  rfl

theorem filter_of_named {reserved : List (String × Value)} (condition : Value)
    (h : builder.descriptor.valuePlaceholders = .ok reserved) :
    let given := builder.descriptor.clause.set condition (Entries.keys reserved)
    (filter condition).outcome builder = given.1 ∧
      (filter condition).after builder =
        { builder with descriptor := { builder.descriptor with clause := given.2 } } := by
  intro given
  have hf : filter condition builder = (do
      edit fun descriptor => { descriptor with clause := given.2 }
      Action.ofAttempt given.1 : Action (Builder σ) Unit) builder := by
    unfold filter
    rw [Action.get_bind]
    dsimp only
    rw [h]
    rfl
  refine ⟨?_, ?_⟩
  · rw [Action.outcome, hf, ← Action.outcome, Action.outcome_bind_ok (outcome_edit _ _),
      Action.outcome_ofAttempt]
  · rw [Action.after, hf, ← Action.after, Action.after_bind_ok (outcome_edit _ _),
      Action.ofAttempt_after]
    rfl

/-- A setting that fails leaves the kind, and either the condition as well or one without SQL. -/
theorem aim_of_filter_error {condition : Value} {fault : Fault}
    (h : (filter condition).outcome builder = .error fault) :
    ((filter condition).after builder).descriptor.kind = builder.descriptor.kind ∧
      (((filter condition).after builder).descriptor.clause = builder.descriptor.clause ∨
        ((filter condition).after builder).descriptor.clause.sql = "") := by
  cases hv : builder.descriptor.valuePlaceholders with
  | error cause =>
    rw [Action.after, filter_of_unnamed condition hv]
    exact ⟨rfl, .inl rfl⟩
  | ok reserved =>
    obtain ⟨ho, ha⟩ := filter_of_named condition hv
    rw [ha]
    exact ⟨rfl, .inr (Condition.Clause.sql_set_of_error (ho.symm.trans h))⟩

/-- A condition that is rejected is always looked at, so it leaves no SQL. -/
theorem sql_of_filter_condition {condition : Value} {cause : ConditionFault}
    (h : (filter condition).outcome builder = .error (.condition cause)) :
    ((filter condition).after builder).descriptor.clause.sql = "" := by
  cases hv : builder.descriptor.valuePlaceholders with
  | error fault =>
    rw [Action.outcome, filter_of_unnamed condition hv] at h
    cases h
    obtain ⟨_, hfault⟩ | ⟨hfault, -⟩ := Descriptor.parameter_of_error hv
    all_goals cases hfault
  | ok reserved =>
    obtain ⟨ho, ha⟩ := filter_of_named condition hv
    rw [ha]
    exact Condition.Clause.sql_set_of_error (ho.symm.trans h)

/-! ## Starting a write -/

theorem fromTable_of_error {table : Value} {fault : Fault}
    (h : (fromTable table).outcome builder = .error fault) : fault = .missingAttribute := by
  cases table <;> cases h <;> rfl

theorem columnValues_of_error {values : Value} {fault : Fault}
    (h : columnValues values = .error fault) : fault = .missingAttribute := by
  cases values <;> cases h <;> rfl

theorem kind_fromTable (table : Value) (builder : Builder σ) :
    ((fromTable table).after builder).descriptor.kind = builder.descriptor.kind := by
  cases table <;> rfl

/-- A start that is refused is refused for want of values, or because the table or the values are
of the wrong kind. Without values the table has to be written. -/
theorem startWrite_of_error {kind : QueryKind} {nothing : String → Fault} {fault : Fault}
    {table values : Value}
    (h : (startWrite kind nothing table values).outcome builder = .error fault) :
    fault = nothing table.display ∨ fault = .badValue ∨ fault = .missingAttribute := by
  unfold startWrite at h
  dsimp only at h
  obtain h | ⟨_, -, h⟩ := Action.of_outcome_bind_error h
  · cases h
  split at h
  · unfold Value.write at h
    split at h
    · cases h
      exact .inl rfl
    · cases h
      exact .inr (.inl rfl)
  · obtain h | ⟨_, -, h⟩ := Action.of_outcome_bind_error h
    · cases h
    obtain h | ⟨_, -, h⟩ := Action.of_outcome_bind_error h
    · exact .inr (.inr (fromTable_of_error h))
    obtain h | ⟨_, -, h⟩ := Action.of_outcome_bind_error h
    · rw [Action.outcome_ofAttempt] at h
      exact .inr (.inr (columnValues_of_error h))
    · cases h

theorem kind_of_startWrite {kind : QueryKind} {nothing : String → Fault} {table values : Value}
    (h : (startWrite kind nothing table values).outcome builder = .ok ()) :
    ((startWrite kind nothing table values).after builder).descriptor.kind = kind := by
  unfold startWrite at h ⊢
  dsimp only at h ⊢
  obtain ⟨_, hc, h⟩ := Action.of_outcome_bind_ok h
  rw [Action.after_bind_ok hc]
  have rest : Keeps Eq (fun builder : Builder σ => builder.descriptor.kind) (do
      fromTable table
      let values ← Action.ofAttempt (columnValues values)
      edit fun descriptor => { descriptor with values } : Action (Builder σ) Unit) :=
    Keeps.bind (fun builder => (kind_fromTable table builder).symm) fun _ =>
      (Keeps.ofAttempt _).bind fun _ => Keeps.modify fun _ => rfl
  split at h
  · obtain ⟨_, -, h⟩ := Action.of_outcome_bind_ok h
    cases h
  · next hv =>
    rw [if_neg hv, Action.after_bind_ok (outcome_edit _ _), after_edit]
    exact (rest _).symm

end Builder

end SqlToolkit
