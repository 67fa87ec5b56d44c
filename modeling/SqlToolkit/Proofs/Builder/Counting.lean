import SqlToolkit.Proofs.Builder.Captured

/-!
# What a count of rows comes down to

Without a counting form the statement runs again and its rows are counted. With one there are three
ways. The counting statement is accepted, and then the number that it gave is the count, unless it
is to be captured and cannot be. Or it is sent and rejected, and then the statement runs again on
the connection that the rejection left. Or it is not sent at all, as its markers have no values, and
that is the end of it.
-/

namespace SqlToolkit

namespace Builder

variable {σ : Type} {builder : Builder σ} {sql probe : String} {placeholders : Value.Entries}

theorem capture_of_not_captures (h : ¬builder.Captures placeholders) (sql : String)
    (entry : DebugEntry) (hentry : entry.affectedRows = none) (s : Builder σ) :
    ∃ fault, (capture builder.debugMode sql placeholders entry).outcome s = .error fault := by
  obtain ⟨hmode, hfails⟩ := Classical.not_imp.mp h
  by_cases hshows : Interpolation.Shows placeholders
  · obtain ⟨shown, hshown⟩ := (Interpolation.shows_iff sql).mp hshows
    exact ⟨.badValue, capture_of_not_loggable hshown
      (fun hlogged => hfails ⟨hshows, hentry ▸ hlogged⟩) s⟩
  · obtain ⟨fault, hfault⟩ := Interpolation.interpolate_of_not_shows hshows sql
    exact ⟨fault, capture_refuses hfault hmode entry s⟩

variable [Connection σ] {exchange : Exchange} {final : Client σ}

/-! ## A read that returned -/

omit [Connection σ] in
/-- A mode for one execution only adds to the default. -/
theorem enabled_of_fades {s : Builder σ} (h : builder.standing.Fades s.standing)
    (hs : s.debugMode.enabled = true) : builder.debugMode.enabled = true := by
  rcases h with hsame | hfaded
  · rwa [debugMode_of_standing hsame] at hs
  · have hdefault : s.debugDefault = builder.debugDefault :=
      congrArg Standing.debugDefault hfaded
    have honce : s.debugOnce = none := congrArg Standing.debugOnce hfaded
    unfold debugMode at hs ⊢
    rw [honce, hdefault] at hs
    split
    · next mode _ =>
      cases hm : mode.enabled with
      | true => rwa [if_pos rfl]
      | false => rwa [if_neg Bool.false_ne_true]
    · exact hs

/-- A read that returned is remembered with its descriptor, and was shown if it had to be. -/
theorem remembered_of_executeQuery {result : ExecutionResult}
    (hr : builder.rendered = .ok (sql, placeholders))
    (h : executeQuery.outcome builder = .ok result) :
    (executeQuery.after builder).lastDescriptor? = some builder.descriptor ∧
      ((executeQuery.after builder).debugMode.enabled = true →
        Interpolation.Shows placeholders) := by
  have hstands := executeQuery_fading builder
  rw [Action.outcome_congr (executeQuery_of_sent hr)] at h
  obtain ⟨statement, hguarded, hremembered⟩ := Action.of_outcome_bind_ok h
  constructor
  · have hlast : (executeQuery.after builder).last.descriptor = .current := by
      rw [Action.after_congr (executeQuery_of_sent hr), Action.after_bind_ok hguarded,
        last_rememberRead]
    unfold lastDescriptor?
    rw [hlast, executeQuery_fading.leavesDescriptor builder]
  · intro hm
    obtain ⟨_, -, hremembered⟩ := Action.of_outcome_bind_ok hremembered
    obtain ⟨_, hcaptured, -⟩ := Action.of_outcome_bind_ok hremembered
    cases hs : Interpolation.interpolate sql placeholders with
    | ok shown => exact (Interpolation.shows_iff sql).mpr ⟨shown, hs⟩
    | error fault =>
      cases (capture_refuses hs (enabled_of_fades hstands hm) _ _).symm.trans hcaptured

/-- From the one builder to the other a statement was read: it was sent and answered, and is
remembered with its descriptor and its rows. -/
structure HasRead (builder ready : Builder σ) (sql : String) (placeholders : Value.Entries)
    (exchange : Exchange) : Prop where
  rendered : builder.rendered = .ok (sql, placeholders)
  sends : builder.client.Sends sql placeholders exchange ready.client
  holds : ready.Holds sql placeholders exchange.answer
  descriptor : ready.lastDescriptor? = some builder.descriptor
  shows : ready.debugMode.enabled = true → Interpolation.Shows placeholders

/-- What was read can be captured again if it can be logged. -/
theorem HasRead.captures {ready : Builder σ}
    (h : builder.HasRead ready sql placeholders exchange)
    (hl : Loggable ready.debugMode placeholders none) : ready.Captures placeholders :=
  fun hm => ⟨h.shows hm, hl⟩

/-- An execution of a read that returned has read. -/
theorem hasRead_of_execute (hread : isRead (Connection.parser σ) builder.descriptor = true)
    {result : ExecutionResult} (h : execute.outcome builder = .ok result) :
    ∃ sql placeholders exchange,
      builder.HasRead (execute.after builder) sql placeholders exchange := by
  have hexecute := execute_of_read hread
  rw [Action.outcome_congr hexecute] at h
  rw [Action.after_congr hexecute]
  obtain ⟨sql, placeholders, exchange, hrendered, hsends, hholds⟩ := sends_of_executeQuery h
  obtain ⟨hdescriptor, hshows⟩ := remembered_of_executeQuery hrendered h
  exact ⟨sql, placeholders, exchange, hrendered, hsends, hholds, hdescriptor, hshows⟩

/-- A read that can be sent and captured returns. -/
theorem execute_of_sends (hread : isRead (Connection.parser σ) builder.descriptor = true)
    (hrendered : builder.rendered = .ok (sql, placeholders))
    (h : builder.client.Sends sql placeholders exchange final)
    (hcaptures : builder.Captures placeholders) :
    (∃ result, execute.outcome builder = .ok result) ∧
      (execute.after builder).client = final ∧
      builder.HasRead (execute.after builder) sql placeholders exchange := by
  have hexecute := execute_of_read hread
  rw [Action.outcome_congr hexecute, Action.after_congr hexecute]
  obtain ⟨⟨result, hreturns⟩, hclient, hholds⟩ :=
    executeQuery_of_sends hrendered h hcaptures
  obtain ⟨hdescriptor, hshows⟩ := remembered_of_executeQuery hrendered hreturns
  exact ⟨⟨result, hreturns⟩, hclient, hrendered, hclient ▸ h, hholds, hdescriptor, hshows⟩

/-- What counts a read is made from its statement and its descriptor. -/
theorem HasRead.probe?_eq {ready : Builder σ}
    (h : builder.HasRead ready sql placeholders exchange) :
    ready.probe? sql = Statement.countProbe? sql builder.descriptor.countExpression? := by
  rw [probe?, h.descriptor]
  rfl

/-! ## Counting the last read -/

/-- What follows the attempt to run the counting statement. -/
def concluded (builder : Builder σ) (sql probe : String) (placeholders : Value.Entries) :
    Attempt Value → Action (Builder σ) Int
  | .ok row => do
    capture builder.debugMode probe placeholders
      { kind := .raw, sql := probe, elapsed := builder.lap }
    Action.ofAttempt (countOf row)
  | .error fault => do
    if fault.isToolkit then throw fault
    note (.probeFailed fault.message)
    countAgain sql placeholders

theorem countRead_of_probe (hp : builder.probe? sql = some probe) :
    countRead sql placeholders builder =
      builder.concluded sql probe placeholders ((runProbe probe placeholders).outcome builder)
        ((runProbe probe placeholders).after builder) := by
  unfold countRead
  rw [Action.get_bind, hp]
  dsimp only
  rw [Action.bind_of_ok (Action.outcome_attempt _ _), Action.attempt_after]
  cases (runProbe probe placeholders).outcome builder <;> rfl

/-! ## The counting statement is accepted -/

theorem runProbe_of_sends (h : builder.client.Sends probe placeholders exchange final) :
    (runProbe probe placeholders).outcome builder = .ok exchange.firstRow ∧
      ((runProbe probe placeholders).after builder).client = final := by
  obtain ⟨hfinal, statement, hrun, hlisting⟩ := PreparedStatement.run_of_sends h
  refine ⟨?_, (client_runProbe builder probe placeholders).trans hfinal⟩
  have hran := (outcome_onClient (PreparedStatement.run probe placeholders) builder).trans hrun
  have hrow (fold : String → String) :
      (statement.fetch fold .num).1 = .ok exchange.firstRow := by
    rw [(statement.fetch_eq fold .num).1, hlisting, exchange.next_num]
  unfold runProbe
  rw [Action.outcome_bind_ok hran, Action.outcome_get_bind]
  dsimp only
  rw [hrow]
  rfl

theorem client_countRead_of_sends (hp : builder.probe? sql = some probe)
    (h : builder.client.Sends probe placeholders exchange final) :
    ((countRead sql placeholders).after builder).client = final := by
  obtain ⟨hrow, hclient⟩ := runProbe_of_sends h
  rw [Action.after_congr (countRead_of_probe hp), hrow, concluded, ← hclient]
  refine Action.view_after_bind Builder.client (fun _ => Action.Keeps.ofAttempt _) _ |>.trans ?_
  exact ((capture_silent _ _ _ _).leavesClient _).symm

/-- The number that an accepted counting statement gave is the count. -/
theorem outcome_countRead_of_sends (hp : builder.probe? sql = some probe)
    (h : builder.client.Sends probe placeholders exchange final)
    (hc : builder.Captures placeholders) :
    (countRead sql placeholders).outcome builder = countOf exchange.firstRow := by
  rw [Action.outcome_congr (countRead_of_probe hp), (runProbe_of_sends h).1, concluded,
    Action.outcome_bind_ok (capture_of_captures hc _ rfl _), Action.outcome_ofAttempt]

theorem outcome_countRead_of_not_captures (hp : builder.probe? sql = some probe)
    (h : builder.client.Sends probe placeholders exchange final)
    (hc : ¬builder.Captures placeholders) :
    ∃ fault, (countRead sql placeholders).outcome builder = .error fault := by
  rw [Action.outcome_congr (countRead_of_probe hp), (runProbe_of_sends h).1, concluded]
  obtain ⟨fault, hfault⟩ := capture_of_not_captures hc probe
    { kind := .raw, sql := probe, elapsed := builder.lap } rfl
    ((runProbe probe placeholders).after builder)
  exact ⟨fault, Action.outcome_bind_error hfault⟩

/-- A read that is remembered is counted by an accepted counting statement. -/
theorem outcome_numRows_of_sends {answer : ResultSet}
    (hholds : builder.Holds sql placeholders answer) (hp : builder.probe? sql = some probe)
    (hc : builder.Captures placeholders)
    (h : builder.client.Sends probe placeholders exchange final) :
    numRows.outcome builder = countOf exchange.firstRow := by
  have hread := numRows_of_read hholds.sql hholds.wasRead
  rw [hholds.placeholders] at hread
  rw [Action.outcome_congr hread, outcome_countRead_of_sends hp h hc]

/-- The count of a read is lost if it is to be logged and cannot be. -/
theorem outcome_numRows_of_not_logged {answer : ResultSet}
    (hholds : builder.Holds sql placeholders answer) (hp : builder.probe? sql = some probe)
    (hl : ¬Loggable builder.debugMode placeholders none)
    (h : builder.client.Sends probe placeholders exchange final) :
    ∃ fault, numRows.outcome builder = .error fault := by
  obtain ⟨hon, -⟩ := Classical.not_imp.mp hl
  have hread := numRows_of_read hholds.sql hholds.wasRead
  rw [hholds.placeholders] at hread
  rw [Action.outcome_congr hread]
  exact outcome_countRead_of_not_captures hp h fun hc => hl (hc (by rw [hon]; rfl)).2

/-- Without a counting form it is counted by running it again. -/
theorem outcome_numRows_of_no_probe {answer : ResultSet}
    (hholds : builder.Holds sql placeholders answer) (hp : builder.probe? sql = none)
    (h : builder.client.Sends sql placeholders exchange final) :
    numRows.outcome builder = .ok (exchange.rows.length : Int) := by
  have hread := numRows_of_read hholds.sql hholds.wasRead
  rw [hholds.placeholders] at hread
  rw [Action.outcome_congr hread, Action.outcome_congr (countRead_of_no_probe hp),
    (countAgain_of_sends h).1]

/-! ## The counting statement fails -/

/-- A counting statement whose markers have no values is not sent, and nothing else is. -/
theorem countRead_of_unbound {fault : Fault} (hp : builder.probe? sql = some probe)
    (h : PreparedStatement.request (Connection.parser σ) builder.client.paramstyle
      probe placeholders = .error fault)
    (ht : fault.isToolkit = true) :
    (countRead sql placeholders).outcome builder = .error fault ∧
      ((countRead sql placeholders).after builder).client = builder.client := by
  have hrefused := PreparedStatement.run_of_refused h
  have hrun : (PreparedStatement.run probe placeholders).outcome builder.client = .error fault := by
    rw [Action.outcome, hrefused]
  have hstays : (PreparedStatement.run probe placeholders).after builder.client =
      builder.client := by
    rw [Action.after, hrefused]
  have hprobe : countRead sql placeholders builder = _ := countRead_of_probe hp
  rw [outcome_runProbe_eq_error_iff.mpr hrun, concluded, if_pos ht] at hprobe
  rw [Action.outcome_congr hprobe, Action.after_congr hprobe]
  exact ⟨rfl, (client_runProbe builder probe placeholders).trans hstays⟩

/-- After a counting statement that was rejected the statement runs again, on what is left. -/
theorem countRead_of_rejected {fault : Fault} (hp : builder.probe? sql = some probe)
    (h : (PreparedStatement.run probe placeholders).outcome builder.client = .error fault)
    (ht : fault.isToolkit = false) :
    ∃ s : Builder σ,
      s.client = (PreparedStatement.run probe placeholders).after builder.client ∧
        countRead sql placeholders builder = countAgain sql placeholders s := by
  refine ⟨(note (.probeFailed fault.message)).after ((runProbe probe placeholders).after builder),
    client_runProbe builder probe placeholders, ?_⟩
  rw [countRead_of_probe hp, outcome_runProbe_eq_error_iff.mpr h, concluded,
    if_neg (by rw [ht]; exact Bool.false_ne_true)]
  rfl

end Builder

end SqlToolkit
