import SqlToolkit.Proofs.Builder.Captured
import SqlToolkit.Proofs.Builder.Delivery

/-!
# The account of what is sent

While the default debug mode captures statements, an *account* is kept from outside: the statements
that the operations of a builder sent, and the entries that they captured as executed. Entries and
statements correspond at every moment of a run, each entry to the statement in its place, exactly if
no operation slips. A read does not, while the values for markers are under names and positions.
Counting rows does, where a counting statement is rejected or the statement is run again and
returns.
-/

namespace SqlToolkit

open SqlToolkit.Action (Keeps)
open Connection (dispatches)

variable {σ : Type} [Connection σ]

namespace Builder

variable {builder after : Builder σ} {α : Type}

/-! ## Operations -/

/-- What a tally depends on, and the debug mode that is in force by default. -/
def trace (builder : Builder σ) : Client σ × List DebugEntry × DebugMode :=
  (builder.client, builder.entries, builder.debugDefault)

omit [Connection σ] in
theorem Composing.leavesTrace {action : Action (Builder σ) α} (h : Composing action) :
    Keeps Eq trace action :=
  fun builder => by
    have htrace := congrArg trace (h.leavesBesides builder)
    exact htrace

omit [Connection σ] in
theorem Starting.leavesTrace {action : Action (Builder σ) α} (h : Starting action) :
    Keeps Eq trace action := by
  obtain ⟨rest, hrest, rfl⟩ := h
  exact Keeps.bind (Keeps.modify fun _ => rfl) fun _ => hrest.leavesTrace

theorem tallied_of_trace (h : builder.trace = after.trace) : Tallied False builder after := by
  obtain ⟨hclient, hrest⟩ := Prod.mk.inj h
  obtain ⟨hentries, -⟩ := Prod.mk.inj hrest
  refine tallied_of_same hclient.symm ?_
  rw [← hentries, List.drop_length]
  rfl

/-- What follows makes no difference if it makes no call and captures nothing. -/
theorem Tallied.of_finish {slip : Prop} {before finish : Builder σ} (h : Tallied slip before after)
    (hsame : after.trace = finish.trace) : Tallied slip before finish := by
  obtain ⟨hclient, hrest⟩ := Prod.mk.inj hsame
  obtain ⟨hentries, -⟩ := Prod.mk.inj hrest
  unfold Tallied at h ⊢
  rwa [hclient, hentries] at h

omit [Connection σ] in
theorem debugMode_enabled (h : builder.debugDefault.enabled = true) :
    builder.debugMode.enabled = true := by
  unfold debugMode
  split
  · split
    · assumption
    · exact h
  · exact h

/-- There is a slip in an operation: in an execution, in counting rows, or in the search for the
greatest value. Nothing else runs a statement. -/
def Operation.Slips (builder : Builder σ) : Operation σ → Prop
  | .continued .execute => builder.SlipsExecuting (isRead (Connection.parser σ) builder.descriptor)
  | .continued .executeQuery => builder.SlipsExecuting true
  | .continued .executeStatement => builder.SlipsExecuting false
  | .continued .numRows =>
    ∃ sql, builder.last.sql = some sql ∧ builder.last.wasRead = true ∧
      builder.SlipsCounting sql builder.last.placeholders
  | .maximum table column =>
    let ask : Action (Builder σ) Unit := askMaximum table column
    (ask.outcome builder).isOk = true ∧ (ask.after builder).SlipsExecuting true
  | _ => False

/-- The statements that an operation of a builder sent. Those that its client was told to send past
it are no concern of the builder. -/
def Operation.sent (builder : Builder σ) (operation : Operation σ) : List (Dispatch σ) :=
  match operation with
  | .continued (.onClient _) => []
  | _ => dispatches builder.client.paramstyle builder.client.connection
    ((operation.run.after builder).client.calls.drop builder.client.calls.length)

def Operation.captured (builder : Builder σ) (operation : Operation σ) : List DebugEntry :=
  ((operation.run.after builder).entries.drop builder.entries.length).filter (·.executed)

theorem Tallied.balanced {slip : Prop} {before : Builder σ} (h : Tallied slip before after) :
    Balanced slip
      (dispatches before.client.paramstyle before.client.connection
        (after.client.calls.drop before.client.calls.length))
      ((after.entries.drop before.entries.length).filter (·.executed)) := by
  obtain ⟨made, hcalls, -, hbalanced⟩ := h
  rwa [hcalls, List.drop_left]

theorem numRows_tallied (hd : builder.debugMode.enabled = true) :
    Tallied (∃ sql, builder.last.sql = some sql ∧ builder.last.wasRead = true ∧
      builder.SlipsCounting sql builder.last.placeholders) builder (numRows.after builder) := by
  unfold numRows
  rw [Action.after_get_bind]
  dsimp only
  cases hsql : builder.last.sql with
  | none => exact (tallied_refl builder).congr ⟨False.elim, nofun⟩
  | some sql =>
    dsimp only
    cases hread : builder.last.wasRead with
    | false =>
      refine (tallied_refl builder).congr ⟨False.elim, ?_⟩
      rintro ⟨_, -, hwas, -⟩
      cases hwas
    | true =>
      refine (countRead_tallied hd sql builder.last.placeholders).congr
        ⟨fun hslip => ⟨sql, rfl, rfl, hslip⟩, ?_⟩
      rintro ⟨other, hother, -, hslip⟩
      cases hother
      exact hslip

theorem maximum_tallied (hd : builder.debugDefault.enabled = true) (table column : Value) :
    Tallied ((Operation.maximum table column).Slips builder) builder
      ((maximum table column).after builder) := by
  have htrace := askMaximum_keeps table column (fun hs => hs.leavesTrace) builder
  rw [maximum_eq]
  unfold Operation.Slips
  dsimp only
  cases ha : (askMaximum table column).outcome builder with
  | error fault =>
    rw [Action.after_bind_error ha]
    exact (tallied_of_trace htrace).congr ⟨False.elim, fun h => nomatch h.1⟩
  | ok _ =>
    rw [Action.after_bind_ok ha]
    have hdefault : ((askMaximum table column).after builder).debugDefault =
        builder.debugDefault := congrArg (·.2.2) htrace.symm
    have hquery := executeQuery_tallied (debugMode_enabled (hdefault ▸ hd))
    refine Tallied.congr ?_ ⟨fun hslip => ⟨rfl, hslip⟩, And.right⟩
    have hstarted := hquery.of_start (congrArg Prod.fst htrace).symm
      (congrArg (·.2.1) htrace).symm
    cases he : executeQuery.outcome ((askMaximum table column).after builder) with
    | error fault =>
      rw [Action.after_bind_error he]
      exact hstarted
    | ok _ =>
      rw [Action.after_bind_ok he, Action.after_map]
      exact hstarted.of_finish (fetch_leaves (fun _ _ => rfl) .num _)

/-- What an operation sends and what it captures balance, if there is no slip. -/
theorem Operation.run_balanced (operation : Operation σ)
    (hd : builder.debugDefault.enabled = true) :
    Balanced (operation.Slips builder) (operation.sent builder) (operation.captured builder) := by
  have hmode := debugMode_enabled hd
  have untouched {action : Action (Builder σ) Unit} (ha : Keeps Eq trace action) :
      Tallied False builder (action.after builder) :=
    tallied_of_trace (ha builder)
  have discarded {α : Type} {slip : Prop} {action : Action (Builder σ) α}
      (ha : Tallied slip builder (action.after builder)) :
      Tallied slip builder ((do let _ ← action : Action (Builder σ) Unit).after builder) := by
    rwa [Action.after_discard]
  cases operation with
  | clear | rawQuery | select | insert | update | delete =>
    exact Tallied.balanced (untouched (Starting.leavesTrace (Operation.run_starting trivial)))
  | filter =>
    exact Tallied.balanced (untouched (Composing.leavesTrace (Operation.run_composing trivial)))
  | maximum table column => exact (discarded (maximum_tallied hd table column)).balanced
  | continued operation =>
    cases operation with
    | fromTable | distinct | groupBy | orderBy | limit | setParameters | addPlaceholders =>
      exact Tallied.balanced (untouched (Composing.leavesTrace (Operation.run_composing trivial)))
    | setDebugOnce mode =>
      have hleaves : Keeps Eq trace (setDebugOnce mode : Action (Builder σ) Unit) :=
        (Keeps.ofAttempt _).bind fun _ => Keeps.modify fun _ => rfl
      exact (untouched hleaves).balanced
    | setDebug mode =>
      have hleaves : Keeps Eq (fun builder : Builder σ => (builder.client, builder.entries))
          (setDebug mode) := (Keeps.ofAttempt _).bind fun _ => Keeps.modify fun _ => rfl
      obtain ⟨hclient, hentries⟩ := Prod.mk.inj (hleaves builder)
      refine (tallied_of_same hclient.symm ?_).balanced
      rw [← hentries, List.drop_length]
      rfl
    | execute => exact (discarded (execute_tallied hmode)).balanced
    | executeQuery => exact (discarded (executeQuery_tallied hmode)).balanced
    | executeStatement => exact (discarded (executeStatement_tallied hmode)).balanced
    | numRows => exact (discarded (numRows_tallied hmode)).balanced
    | fetch mode =>
      exact (untouched ((fetch_leaves (fun _ _ => rfl) mode).bind fun _ => Keeps.pure _)).balanced
    | fetchAll mode =>
      exact (untouched
        ((fetchAll_leaves (fun _ _ => rfl) mode).bind fun _ => Keeps.pure _)).balanced
    | dropResult => exact (untouched (Keeps.modify fun _ => rfl)).balanced
    | forgetEntries =>
      have hforgotten : Tallied False builder (forgetEntries.after builder) := by
        refine tallied_of_same rfl ?_
        show List.filter _ (List.drop _ []) = []
        rw [List.drop_nil]
        rfl
      exact hforgotten.balanced
    | onClient action =>
      refine ⟨fun _ => ?_, False.elim⟩
      show List.Forall₂ _ [] (List.filter _ (List.drop _ ((onClient action).after builder).entries))
      rw [← onClient_leavesEntries action builder, List.drop_length]
      exact .nil

end Builder

/-! ## The account -/

/-- The statements that were sent and the entries of executed statements that were captured while
the default debug mode captures statements. -/
structure Account (σ : Type) where
  sent : List (Dispatch σ) := []
  captured : List DebugEntry := []

namespace Account

/-- The entries show the statements, each the one in its place. -/
def Complete (account : Account σ) : Prop :=
  List.Forall₂ DebugEntry.Shows account.sent account.captured

def after (account : Account σ) (builder : Builder σ) (operation : Builder.Operation σ) :
    Account σ :=
  if builder.debugDefault.enabled then
    { sent := account.sent ++ operation.sent builder
      captured := account.captured ++ operation.captured builder }
  else account

variable {account : Account σ} {builder : Builder σ} {operation : Builder.Operation σ}

/-- A complete account stays complete exactly if the operation does not slip. -/
theorem Complete.after_iff (h : account.Complete) :
    (account.after builder operation).Complete ↔
      (builder.debugDefault.enabled = true → ¬ operation.Slips builder) := by
  unfold after
  cases hd : builder.debugDefault.enabled with
  | false => exact ⟨fun _ hon => (nomatch hon), fun _ => h⟩
  | true =>
    have hbalanced := operation.run_balanced hd
    rw [if_pos rfl]
    refine ⟨fun hcomplete _ hslip => hbalanced.uneven hslip ?_, fun hthorough => ?_⟩
    · have hlength := List.Forall₂.length_eq hcomplete
      rw [List.length_append, List.length_append, List.Forall₂.length_eq h] at hlength
      exact Nat.add_left_cancel hlength
    · exact List.rel_append h (hbalanced.shown (hthorough rfl))

end Account

namespace Builder

variable {builder : Builder σ} {account : Account σ}

/-! ## Runs -/

/-- The account after some operations, whether they returned or failed. -/
def accountFrom (account : Account σ) (builder : Builder σ) : List (Operation σ) → Account σ
  | [] => account
  | operation :: rest =>
    accountFrom (account.after builder operation) (operation.run.after builder) rest

/-- None of some operations slips while the default debug mode captures statements. -/
def NeverSlips (builder : Builder σ) : List (Operation σ) → Prop
  | [] => True
  | operation :: rest =>
    (builder.debugDefault.enabled = true → ¬ operation.Slips builder) ∧
      NeverSlips (operation.run.after builder) rest

theorem complete_throughout_iff (h : account.Complete) (operations : List (Operation σ)) :
    (∀ earlier, earlier <+: operations → (accountFrom account builder earlier).Complete) ↔
      NeverSlips builder operations := by
  induction operations generalizing account builder with
  | nil =>
    refine ⟨fun _ => trivial, fun _ earlier hprefix => ?_⟩
    rw [List.prefix_nil.mp hprefix]
    exact h
  | cons operation rest ih =>
    constructor
    · intro hcomplete
      have hone := hcomplete [operation] (List.prefix_append [operation] rest)
      exact ⟨h.after_iff.mp hone, (ih hone).mp fun earlier hprefix =>
        hcomplete (operation :: earlier) ((List.prefix_cons_inj operation).mpr hprefix)⟩
    · rintro ⟨hthorough, hrest⟩ earlier hprefix
      rcases List.prefix_cons_iff.mp hprefix with rfl | ⟨others, rfl, hothers⟩
      · exact h
      · exact (ih (h.after_iff.mpr hthorough)).mpr hrest others hothers

/-- **What is sent is captured.** At every moment of a run of operations, whether they succeed or
fail, the statements sent while the default debug mode captures statements and the entries captured
as executed correspond one to one and in order, each entry with the text of its statement and with
an error if and only if that failed. So it is exactly if no operation slips. -/
theorem sent_statements_captured_iff (builder : Builder σ) (operations : List (Operation σ)) :
    (∀ earlier, earlier <+: operations → (accountFrom {} builder earlier).Complete) ↔
      NeverSlips builder operations := by
  have hempty : ({} : Account σ).Complete := .nil
  exact complete_throughout_iff hempty operations

/-- A builder whose default debug mode captures statements in silence. -/
def silently : Builder Scripted :=
  { client := { connection := {} }, dialect := .sqlite, debugDefault := .silent }

/-- The rows of a limited statement are counted by running it again. -/
def countLimited : List (Operation Scripted) :=
  [.rawQuery (.text "SELECT a FROM t LIMIT 1"), .continued .execute, .continued .numRows]

/-- Two statements are sent, and the second is not captured. -/
theorem counted_again_without_capture :
    (accountFrom {} silently countLimited).sent.length = 2 ∧
      (accountFrom {} silently countLimited).captured.length = 1 ∧
      ¬ (accountFrom {} silently countLimited).Complete ∧ ¬ NeverSlips silently countLimited := by
  have hsent : (accountFrom {} silently countLimited).sent.length = 2 := by decide +kernel
  have hcaptured : (accountFrom {} silently countLimited).captured.length = 1 := by decide +kernel
  have hincomplete : ¬ (accountFrom {} silently countLimited).Complete := by
    intro hcomplete
    have hlength := List.Forall₂.length_eq hcomplete
    rw [hsent, hcaptured] at hlength
    cases hlength
  have hempty : ({} : Account Scripted).Complete := .nil
  exact ⟨hsent, hcaptured, hincomplete, fun hnever => hincomplete
    ((complete_throughout_iff hempty countLimited).mpr hnever countLimited (List.prefix_refl _))⟩

end Builder

end SqlToolkit
