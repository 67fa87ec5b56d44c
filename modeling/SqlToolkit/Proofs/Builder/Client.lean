import SqlToolkit.Proofs.Builder.Bookkeeping

/-!
# Composing leaves the client alone

*Composing* looks at the statement being composed, changes it, or refuses, and does nothing else.
All setters are of this kind but those of the debug modes, and so is what an entry point does once
it has started a new statement. None of this makes a call on the connection or opens or ends a
transaction, whatever is refused.
-/

namespace SqlToolkit.Builder

open SqlToolkit.Action (Keeps)

variable {σ α β : Type}

/-! ## Composing -/

/-- An action that only works on the statement being composed. -/
inductive Composing : {α : Type} → Action (Builder σ) α → Prop where
  | pure {α : Type} (result : α) : Composing (Pure.pure result)
  | throw {α : Type} (fault : Fault) : Composing (throw fault : Action (Builder σ) α)
  | ofAttempt {α : Type} (result : Attempt α) : Composing (Action.ofAttempt result)
  | edit (change : Descriptor → Descriptor) : Composing (Builder.edit change)
  /-- What it does next depends on the statement alone. -/
  | look {α : Type} {next : Builder σ → Action (Builder σ) α}
      (hsame : ∀ builder builder', builder.descriptor = builder'.descriptor →
        next builder = next builder')
      (h : ∀ builder, Composing (next builder)) : Composing (get >>= next)
  | bind {α β : Type} {action : Action (Builder σ) α} {next : α → Action (Builder σ) β}
      (h : Composing action) (hn : ∀ result, Composing (next result)) :
      Composing (action >>= next)

def besides (builder : Builder σ) : Builder σ := { builder with descriptor := {} }

theorem Composing.leavesBesides {action : Action (Builder σ) α} (h : Composing action) :
    Keeps Eq besides action := by
  induction h with
  | pure result => exact Keeps.pure result
  | throw fault => exact Keeps.throw fault
  | ofAttempt result => exact Keeps.ofAttempt result
  | edit change => exact Keeps.modify fun _ => rfl
  | look _ _ ih => exact Keeps.get.bind ih
  | bind _ _ ih ihn => exact ih.bind ihn

theorem Composing.leavesClient {action : Action (Builder σ) α} (h : Composing action) :
    LeavesClient action := fun builder => by
  have hclient := congrArg Builder.client (h.leavesBesides builder)
  exact hclient

theorem fromTable_composing (table : Value) :
    Composing (fromTable table : Action (Builder σ) Unit) :=
  (Composing.ofAttempt _).bind fun _ => .edit _

theorem filter_composing (condition : Value) :
    Composing (filter condition : Action (Builder σ) Unit) := by
  refine .look (fun builder builder' h => ?_) fun builder => ?_
  · rw [h]
  · exact (Composing.ofAttempt _).bind fun _ => (Composing.edit _).bind fun _ => .ofAttempt _

theorem editParameters_composing (change : Parameters → Parameters) :
    Composing (editParameters change : Action (Builder σ) Unit) :=
  .edit _

theorem limit_composing (bounds : Value) : Composing (limit bounds : Action (Builder σ) Unit) :=
  (Composing.ofAttempt _).bind fun _ => editParameters_composing _

theorem setParameters_composing (settings : Value) :
    Composing (setParameters settings : Action (Builder σ) Unit) := by
  refine (Composing.ofAttempt _).bind fun _ => (Composing.ofAttempt _).bind fun _ =>
    .look (fun builder builder' h => ?_) fun builder => ?_
  · rw [h]
  · exact (editParameters_composing _).bind fun _ => .ofAttempt _

theorem addPlaceholders_composing (placeholders : Value) :
    Composing (addPlaceholders placeholders : Action (Builder σ) Unit) :=
  (Composing.ofAttempt _).bind fun _ => .edit _

/-! ## Entry points -/

/-- An action that starts a new statement and then only works on that. -/
def Starting (action : Action (Builder σ) α) : Prop :=
  ∃ rest : Action (Builder σ) α, Composing rest ∧ action = clear >>= fun _ => rest

theorem Starting.of_clear {rest : Action (Builder σ) α} (h : Composing rest) :
    Starting (clear >>= fun _ => rest) :=
  ⟨rest, h, rfl⟩

theorem Starting.bind {action : Action (Builder σ) α} {next : α → Action (Builder σ) β}
    (h : Starting action) (hn : ∀ result, Composing (next result)) :
    Starting (action >>= next) := by
  obtain ⟨rest, hrest, rfl⟩ := h
  exact ⟨rest >>= next, hrest.bind hn, bind_assoc _ _ _⟩

theorem clear_leavesClient : LeavesClient (clear : Action (Builder σ) Unit) :=
  Keeps.modify fun _ => rfl

theorem Starting.leavesClient {action : Action (Builder σ) α} (h : Starting action) :
    LeavesClient action := by
  obtain ⟨rest, hrest, rfl⟩ := h
  exact clear_leavesClient.bind fun _ => hrest.leavesClient

theorem clear_starting : Starting (clear : Action (Builder σ) Unit) :=
  ⟨Pure.pure ⟨⟩, .pure _, (bind_pure _).symm⟩

theorem rawQuery_starting (sql : Value) : Starting (rawQuery sql : Action (Builder σ) Unit) :=
  .of_clear (.edit _)

theorem select_starting (fields : Value) : Starting (select fields : Action (Builder σ) Unit) :=
  .of_clear ((Composing.edit _).bind fun _ => (Composing.ofAttempt _).bind fun _ => .edit _)

/-- What a write is filled in with once it is started: its kind, its table and its values. -/
def fillWrite (kind : QueryKind) (table values : Value) : Action (Builder σ) Unit := do
  edit fun descriptor => { descriptor with kind }
  fromTable table
  let values ← Action.ofAttempt (columnValues values)
  edit fun descriptor => { descriptor with values }

theorem fillWrite_composing (kind : QueryKind) (table values : Value) :
    Composing (fillWrite kind table values : Action (Builder σ) Unit) :=
  (Composing.edit _).bind fun _ => (fromTable_composing table).bind fun _ =>
    (Composing.ofAttempt _).bind fun _ => .edit _

theorem startWrite_starting (kind : QueryKind) (nothing : String → Fault) (table values : Value) :
    Starting (startWrite kind nothing table values : Action (Builder σ) Unit) := by
  refine .of_clear ?_
  split
  · exact (Composing.ofAttempt _).bind fun _ => (Composing.throw _).bind fun _ =>
      fillWrite_composing kind table values
  · exact fillWrite_composing kind table values

theorem insert_starting (table values : Value) :
    Starting (insert table values : Action (Builder σ) Unit) := by
  refine (startWrite_starting _ _ table values).bind fun _ =>
    .look (fun builder builder' h => ?_) fun builder => ?_
  · rw [h]
  · exact (Composing.ofAttempt _).bind fun _ => .pure _

theorem update_starting (table values condition : Value) :
    Starting (update table values condition : Action (Builder σ) Unit) :=
  (startWrite_starting _ _ table values).bind fun _ => filter_composing condition

theorem delete_starting (table condition : Value) :
    Starting (delete table condition : Action (Builder σ) Unit) :=
  .of_clear ((Composing.edit _).bind fun _ =>
    (fromTable_composing table).bind fun _ => filter_composing condition)

theorem insert_leavesClient (table values : Value) :
    LeavesClient (insert table values : Action (Builder σ) Unit) :=
  (insert_starting table values).leavesClient

theorem update_leavesClient (table values condition : Value) :
    LeavesClient (update table values condition : Action (Builder σ) Unit) :=
  (update_starting table values condition).leavesClient

theorem delete_leavesClient (table condition : Value) :
    LeavesClient (delete table condition : Action (Builder σ) Unit) :=
  (delete_starting table condition).leavesClient

/-! ## The search for the greatest value -/

def askMaximum (table column : Value) : Action (Builder σ) Unit := do
  let column ← Action.ofAttempt (column.write Value.display)
  select (.text s!"MAX({column})")
  fromTable table

theorem askMaximum_of_isWritable {column : Value} (h : column.isWritable = true) (table : Value) :
    (askMaximum table column : Action (Builder σ) Unit) = (do
      select (.text s!"MAX({column.display})")
      fromTable table) := by
  unfold askMaximum
  rw [Value.write_of_isWritable h]
  rfl

/-- Nothing is started for a column that cannot be written. -/
theorem askMaximum_of_not_isWritable {column : Value} (h : column.isWritable = false)
    (table : Value) : (askMaximum table column : Action (Builder σ) Unit) = throw .badValue := by
  unfold askMaximum
  rw [Value.write_of_not_isWritable h]
  rfl

theorem askMaximum_starting {column : Value} (h : column.isWritable = true) (table : Value) :
    Starting (askMaximum table column : Action (Builder σ) Unit) := by
  rw [askMaximum_of_isWritable h]
  exact (select_starting _).bind fun _ => fromTable_composing table

/-- What every start leaves is left as well by one that may be refused before. -/
theorem askMaximum_keeps {T : Type} {R : T → T → Prop} [IsPreorder T R] {view : Builder σ → T}
    (table column : Value)
    (h : ∀ {action : Action (Builder σ) Unit}, Starting action → Keeps R view action) :
    Keeps R view (askMaximum table column : Action (Builder σ) Unit) :=
  (Keeps.ofAttempt _).bind fun _ => h ((select_starting _).bind fun _ => fromTable_composing table)

theorem maximum_eq [Connection σ] (table column : Value) :
    (maximum table column : Action (Builder σ) Value) = (do
      askMaximum table column
      let _ ← executeQuery
      firstColumn <$> fetch .num) := by
  unfold maximum askMaximum
  rw [bind_assoc]
  refine congrArg _ (funext fun _ => ?_)
  rw [bind_assoc]
  rfl

/-! ## The mode of the next execution -/

theorem setDebugOnce_leavesClient (mode : Value) :
    LeavesClient (setDebugOnce mode : Action (Builder σ) Unit) :=
  (Keeps.ofAttempt _).bind fun _ => Keeps.modify fun _ => rfl

end SqlToolkit.Builder
