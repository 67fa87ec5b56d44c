import SqlToolkit.Proofs.Builder.Operation
import SqlToolkit.Proofs.Transaction.Write

/-!
# The rows that are left to fetch

A builder keeps the rows of the statement executed last that were not fetched yet. A fetch takes the
next of them or all, and shapes what it takes. An execution that gets its statement run puts the
rows that the connection answered in their place, and starting a statement drops them. Nothing else
that is done with a builder touches them, whether it succeeds or not.
-/

namespace SqlToolkit

open SqlToolkit.Action (Keeps)

/-- Rows under the names of their columns. -/
structure Listing where
  columns : List String := []
  rows : List (List Value) := []

namespace Listing

def next (listing : Listing) (fold : String → String) (mode : FetchMode) : Attempt Value :=
  match listing.rows with
  | [] => .ok .null
  | row :: _ => mode.shape (listing.columns.map fold) row

def all (listing : Listing) (fold : String → String) (mode : FetchMode) : Attempt (List Value) :=
  listing.rows.mapM (mode.shape (listing.columns.map fold))

def drop (count : Nat) (listing : Listing) : Listing :=
  { listing with rows := listing.rows.drop count }

end Listing

def ResultSet.listing (result : ResultSet) : Listing :=
  match result.columns with
  | some columns => ⟨columns, result.rows⟩
  | none => {}

namespace PreparedStatement

def listing (statement : PreparedStatement) : Listing :=
  match statement.cursor with
  | some ⟨some columns, rows, _⟩ => ⟨columns, rows⟩
  | _ => {}

theorem listing_fetched (statement : PreparedStatement) (result : ResultSet) :
    (statement.fetched result).listing = result.listing := by
  unfold listing fetched ResultSet.listing
  cases result.columns <;> rfl

theorem fetch_eq (statement : PreparedStatement) (fold : String → String) (mode : FetchMode) :
    (statement.fetch fold mode).1 = statement.listing.next fold mode ∧
      (statement.fetch fold mode).2.listing = statement.listing.drop 1 := by
  obtain ⟨sql, bindings, cursor⟩ := statement
  rcases cursor with _ | ⟨_ | columns, _ | ⟨row, rest⟩, affected⟩
  all_goals exact ⟨rfl, rfl⟩

theorem fetchAll_eq (statement : PreparedStatement) (fold : String → String) (mode : FetchMode) :
    (statement.fetchAll fold mode).1 = statement.listing.all fold mode ∧
      (statement.fetchAll fold mode).2.listing = { statement.listing with rows := [] } := by
  obtain ⟨sql, bindings, cursor⟩ := statement
  rcases cursor with _ | ⟨_ | columns, rows, affected⟩
  all_goals exact ⟨rfl, rfl⟩

end PreparedStatement

namespace Builder

variable {σ α : Type}

def listing (builder : Builder σ) : Listing :=
  match builder.result with
  | some statement => statement.listing
  | none => {}

/-! ## Fetching -/

theorem outcome_fetch (mode : FetchMode) (builder : Builder σ) :
    (fetch mode).outcome builder = builder.listing.next builder.client.foldCase mode := by
  unfold fetch fetchWith listing
  rw [Action.outcome_bind_ok (Action.outcome_get _), Action.after_get,
    Action.outcome_bind_ok (Action.outcome_get _), Action.after_get]
  cases builder.result with
  | none => rfl
  | some statement =>
    dsimp only
    rw [Action.outcome_bind_ok (Action.outcome_modify _ _), Action.outcome_ofAttempt]
    exact (statement.fetch_eq _ mode).1

theorem listing_fetch (mode : FetchMode) (builder : Builder σ) :
    ((fetch mode).after builder).listing = builder.listing.drop 1 := by
  unfold fetch fetchWith listing
  rw [Action.after_bind_ok (Action.outcome_get _), Action.after_get,
    Action.after_bind_ok (Action.outcome_get _), Action.after_get]
  cases hresult : builder.result with
  | none =>
    dsimp only
    rw [Action.after_pure, hresult]
    rfl
  | some statement =>
    dsimp only
    rw [Action.after_bind_ok (Action.outcome_modify _ _), Action.ofAttempt_after,
      Action.after_modify]
    exact (statement.fetch_eq _ mode).2

theorem outcome_fetchAll (mode : FetchMode) (builder : Builder σ) :
    (fetchAll mode).outcome builder = builder.listing.all builder.client.foldCase mode := by
  unfold fetchAll fetchWith listing
  rw [Action.outcome_bind_ok (Action.outcome_get _), Action.after_get,
    Action.outcome_bind_ok (Action.outcome_get _), Action.after_get]
  cases builder.result with
  | none => rfl
  | some statement =>
    dsimp only
    rw [Action.outcome_bind_ok (Action.outcome_modify _ _), Action.outcome_ofAttempt]
    exact (statement.fetchAll_eq _ mode).1

theorem listing_fetchAll (mode : FetchMode) (builder : Builder σ) :
    ((fetchAll mode).after builder).listing = { builder.listing with rows := [] } := by
  unfold fetchAll fetchWith listing
  rw [Action.after_bind_ok (Action.outcome_get _), Action.after_get,
    Action.after_bind_ok (Action.outcome_get _), Action.after_get]
  cases hresult : builder.result with
  | none =>
    dsimp only
    rw [Action.after_pure, hresult]
  | some statement =>
    dsimp only
    rw [Action.after_bind_ok (Action.outcome_modify _ _), Action.ofAttempt_after,
      Action.after_modify]
    exact (statement.fetchAll_eq _ mode).2

/-! ## What leaves the rows alone -/

/-- The rows that can still be fetched are the same after the action. -/
abbrev LeavesListing (action : Action (Builder σ) α) : Prop := Keeps Eq listing action

theorem Composing.leavesListing {action : Action (Builder σ) α} (h : Composing action) :
    LeavesListing action := fun builder => by
  have hlisting := congrArg listing (h.leavesBesides builder)
  exact hlisting

/-- Starting a statement drops the rows. -/
theorem Starting.dropsListing {action : Action (Builder σ) α} (h : Starting action)
    (builder : Builder σ) : (action.after builder).listing = {} := by
  obtain ⟨rest, hrest, rfl⟩ := h
  exact Action.view_after_bind listing (fun _ => hrest.leavesListing) builder

theorem listing_detached : Detached (listing : Builder σ → Listing) :=
  ⟨fun _ _ => rfl, fun _ _ => rfl, fun _ _ => rfl⟩

theorem captureOnly_leavesListing (kind : QueryKind) (mode : DebugMode) (sql : String)
    (placeholders : Value.Entries) :
    LeavesListing (captureOnly kind mode sql placeholders :
      Action (Builder σ) ExecutionResult) :=
  (listing_detached.capture_leaves _ _ _ _).bind fun _ =>
    Keeps.bind (Keeps.modify fun _ => rfl) fun _ => Keeps.pure _

end Builder

/-! ## What the connection answered -/

variable {σ : Type} [Connection σ]

/-- A statement that was run and settled gives what the connection answered. -/
theorem Client.executed_of_run {client : Client σ} {spelled : String} {values : Option Arguments}
    {result : ResultSet} (h : (Client.run spelled values).outcome client = .ok result) :
    (Connection.execute spelled values client.connection).1 = .ok result := by
  unfold Client.run sendStatement at h
  obtain ⟨given, hgiven, h⟩ := Action.of_outcome_bind_ok h
  rw [Action.outcome_attempt, outcome_send] at hgiven
  cases hr : (Connection.execute spelled values client.connection).1 with
  | error message =>
    rw [hr] at hgiven
    cases hgiven
    obtain ⟨_, -, h⟩ := Action.of_outcome_bind_ok h
    cases h
  | ok answer =>
    rw [hr] at hgiven
    cases hgiven
    obtain ⟨_, -, h⟩ := Action.of_outcome_bind_ok h
    obtain ⟨_, -, h⟩ := Action.of_outcome_bind_ok h
    cases h
    rfl

/-- A prepared statement that was run sent its request, and has the rows, the row count and the row
id of the answer. -/
theorem PreparedStatement.answered_of_run {client : Client σ} {sql : String}
    {placeholders : Value.Entries} {statement : PreparedStatement}
    (h : (run sql placeholders).outcome client = .ok statement) :
    ∃ spelled values result,
      request (Connection.parser σ) client.paramstyle sql placeholders = .ok (spelled, values) ∧
      (Connection.execute spelled values client.connection).1 = .ok result ∧
      statement.listing = result.listing ∧ statement.rowCount = result.affected ∧
      ((run sql placeholders).after client).lastRowId = result.rowId.getD .null := by
  cases hr : request (Connection.parser σ) client.paramstyle sql placeholders with
  | error fault =>
    rw [Action.outcome, run_of_refused hr] at h
    cases h
  | ok sending =>
    obtain ⟨spelled, values⟩ := sending
    obtain ⟨bound, hbound⟩ := outcome_run_of_request hr
    rw [hbound] at h
    cases hrun : (Client.run spelled values).outcome client with
    | error fault => rw [hrun] at h; cases h
    | ok result =>
      rw [hrun] at h
      cases h
      refine ⟨spelled, values, result, rfl, Client.executed_of_run hrun, bound.listing_fetched _,
        rfl, ?_⟩
      rw [after_run_of_request hr]
      exact Client.lastRowId_of_run hrun

end SqlToolkit
