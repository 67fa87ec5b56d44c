import SqlToolkit.Proofs.Builder.Client
import SqlToolkit.Proofs.Builder.Operation

/-!
# What becomes of the debug modes

Setters leave both debug modes alone, and a new statement drops the mode for one execution. Nothing
but setting it changes the default, and nothing but setting it brings a mode for one execution back.
-/

namespace SqlToolkit.Builder

open SqlToolkit.Action (Keeps)

variable {σ : Type}

def modes (builder : Builder σ) : DebugMode × Option DebugMode :=
  (builder.debugDefault, builder.debugOnce)

/-- The default is the same, and the mode for one execution is the same or gone. -/
def Dims (before after : DebugMode × Option DebugMode) : Prop :=
  after.1 = before.1 ∧ (after.2 = before.2 ∨ after.2 = none)

instance : IsPreorder (DebugMode × Option DebugMode) Dims where
  refl _ := ⟨rfl, .inl rfl⟩
  trans first second third h h' := by
    obtain ⟨hd, ho⟩ := h
    obtain ⟨hd', ho'⟩ := h'
    refine ⟨hd'.trans hd, ?_⟩
    rcases ho' with ho' | ho'
    · rw [ho']
      exact ho
    · exact .inr ho'

abbrev LeavesModes {α : Type} (action : Action (Builder σ) α) : Prop := Keeps Eq modes action

theorem Fading.dims {α : Type} {action : Action (Builder σ) α} (h : Fading action) :
    Keeps Dims modes action :=
  fun builder => by
    rcases h builder with h | h
    · exact ⟨congrArg Standing.debugDefault h, .inl (congrArg Standing.debugOnce h)⟩
    · exact ⟨congrArg Standing.debugDefault h, .inr (congrArg Standing.debugOnce h)⟩

theorem Silent.leavesModes {α : Type} {action : Action (Builder σ) α} (h : Silent action) :
    LeavesModes action :=
  fun builder => congrArg (fun standing => (standing.debugDefault, standing.debugOnce))
    (h.leavesStanding builder)

theorem Composing.leavesModes {α : Type} {action : Action (Builder σ) α} (h : Composing action) :
    LeavesModes action := fun builder => by
  have hmodes := congrArg modes (h.leavesBesides builder)
  exact hmodes

/-! ## Entry points -/

/-- The action leaves the default alone and no mode for one execution. -/
abbrev Restarts {α : Type} (action : Action (Builder σ) α) : Prop :=
  ∀ builder, modes (action.after builder) = (builder.debugDefault, none)

theorem Starting.restarts {α : Type} {action : Action (Builder σ) α} (h : Starting action) :
    Restarts action := by
  obtain ⟨rest, hrest, rfl⟩ := h
  intro builder
  exact Action.view_after_bind modes (fun _ => hrest.leavesModes) builder

theorem Starting.dims {α : Type} {action : Action (Builder σ) α} (h : Starting action) :
    Keeps Dims modes action :=
  fun builder => by
    have hdefault := congrArg Prod.fst (h.restarts builder)
    have honce := congrArg Prod.snd (h.restarts builder)
    exact ⟨hdefault, .inr honce⟩

variable [Connection σ]

theorem maximum_dims (table column : Value) :
    Keeps Dims modes (maximum table column : Action (Builder σ) Value) :=
  (Keeps.ofAttempt _).bind fun _ => (select_starting _).dims.bind fun _ =>
    (Keeps.of_eq (fromTable_composing table).leavesModes).bind fun _ =>
      executeQuery_fading.dims.bind fun _ =>
        (Keeps.of_eq (fetch_silent .num).leavesModes).bind fun _ => Keeps.pure _

/-! ## Operations -/

/-- The operation neither executes the statement nor sets a mode for its execution. -/
def Continuation.Waits : Continuation σ → Prop
  | .execute | .executeQuery | .executeStatement | .setDebugOnce _ => False
  | _ => True

/-- The operation goes on with the statement, and neither executes it nor sets a mode for that. -/
def Operation.Waits : Operation σ → Prop
  | .filter _ => True
  | .continued operation => operation.Waits
  | _ => False

def Operation.SetsNoMode : Operation σ → Prop
  | .continued (.setDebugOnce _) => False
  | _ => True

theorem Continuation.run_debugOnce {operation : Continuation σ} (h : operation.Waits) :
    Keeps Eq debugOnce operation.run := by
  have once {α : Type} {action : Action (Builder σ) α} (ha : LeavesModes action) :
      Keeps Eq debugOnce action := fun builder => congrArg Prod.snd (ha builder)
  have discarded {α : Type} {action : Action (Builder σ) α} (ha : Keeps Eq standing action) :
      Keeps Eq debugOnce (do let _ ← action : Action (Builder σ) Unit) :=
    Keeps.bind (fun builder => congrArg Standing.debugOnce (ha builder)) fun _ => Keeps.pure _
  cases operation with
  | fromTable table => exact once (fromTable_composing table).leavesModes
  | distinct | groupBy | orderBy => exact Keeps.modify fun _ => rfl
  | limit => exact (Keeps.ofAttempt _).bind fun _ => once (editParameters_composing _).leavesModes
  | setParameters settings => exact once (setParameters_composing settings).leavesModes
  | addPlaceholders given => exact once (addPlaceholders_composing given).leavesModes
  | setDebug => exact (Keeps.ofAttempt _).bind fun _ => Keeps.modify fun _ => rfl
  | numRows => exact discarded standing_detached.numRows_leaves
  | fetch mode => exact discarded (fetch_silent mode).leavesStanding
  | fetchAll mode => exact discarded (fetchAll_silent mode).leavesStanding
  | dropResult | forgetEntries => exact Keeps.modify fun _ => rfl
  | onClient action =>
    exact fun builder => congrArg Standing.debugOnce (standing_detached.onClient_leaves action builder)
  | execute | executeQuery | executeStatement | setDebugOnce => exact h.elim

theorem Operation.run_debugOnce {operation : Operation σ} (h : operation.Waits) :
    Keeps Eq debugOnce operation.run := by
  cases operation with
  | filter condition =>
    exact fun builder => congrArg Prod.snd ((filter_composing condition).leavesModes builder)
  | continued operation => exact Continuation.run_debugOnce h
  | _ => exact h.elim

/-- A mode for one execution is there as it was, or gone. -/
def UsedUp (before after : Option DebugMode) : Prop := after = before ∨ after = none

instance : IsPreorder (Option DebugMode) UsedUp where
  refl _ := .inl rfl
  trans first second third h h' := by
    rcases h' with rfl | rfl
    · exact h
    · exact .inr rfl

/-- No operation brings a mode for one execution back. -/
theorem Operation.run_usedUp {operation : Operation σ} (h : operation.SetsNoMode) :
    Keeps UsedUp debugOnce operation.run := by
  have once {α : Type} {action : Action (Builder σ) α} (ha : Keeps Dims modes action) :
      Keeps UsedUp debugOnce action := fun builder => (ha builder).2
  have executed {α : Type} {action : Action (Builder σ) α} (ha : Fading action) :
      Keeps UsedUp debugOnce (do let _ ← action : Action (Builder σ) Unit) :=
    (once ha.dims).bind fun _ => Keeps.pure _
  cases operation with
  | clear | rawQuery | select | insert | update | delete =>
    exact once (Starting.dims (Operation.run_starting trivial))
  | filter condition => exact once (Keeps.of_eq (filter_composing condition).leavesModes)
  | maximum table column => exact (once (maximum_dims table column)).bind fun _ => Keeps.pure _
  | continued operation =>
    by_cases hw : operation.Waits
    · exact Keeps.of_eq (Continuation.run_debugOnce hw)
    · cases operation with
      | execute => exact executed execute_fading
      | executeQuery => exact executed executeQuery_fading
      | executeStatement => exact executed executeStatement_fading
      | setDebugOnce => exact h.elim
      | _ => exact absurd trivial hw

variable {builder : Builder σ}

theorem debugOnce_performed {operations : List (Operation σ)}
    (h : ∀ operation ∈ operations, operation.Waits) :
    (builder.performed operations).debugOnce = builder.debugOnce := by
  induction operations generalizing builder with
  | nil => rfl
  | cons operation rest ih =>
    obtain ⟨hfirst, hrest⟩ := List.forall_mem_cons.mp h
    exact (ih hrest).trans (Operation.run_debugOnce hfirst builder).symm

theorem usedUp_performed {operations : List (Operation σ)}
    (h : ∀ operation ∈ operations, operation.SetsNoMode) :
    UsedUp builder.debugOnce (builder.performed operations).debugOnce := by
  induction operations generalizing builder with
  | nil => exact refl _
  | cons operation rest ih =>
    obtain ⟨hfirst, hrest⟩ := List.forall_mem_cons.mp h
    exact IsTrans.trans _ _ _ (Operation.run_usedUp hfirst builder) (ih hrest)

end SqlToolkit.Builder
