import SqlToolkit.Proofs.Builder.Reading
import SqlToolkit.Proofs.Facade.OneShot
import SqlToolkit.Proofs.Facade.Selection

/-!
# Reads through the facade

A call that composes a read returns just if its statement is composed, written, sent and answered,
and a debug mode can be chosen for it. What is sent depends on the dialect and on the driver, and on
nothing else that was done before.
-/

namespace SqlToolkit.Facade

variable {σ : Type} {compose : Action (Builder σ) Unit} {composed : Attempt Descriptor}
  {debug : Value} {facade : Facade σ}

/-! ## The statement that is executed -/

/-- A call with this debug mode captures what it sends, as it brings such a mode along or finds
one. -/
def Captures (facade : Facade σ) (debug : Value) : Prop :=
  (∃ mode, DebugMode.ofValue debug = .ok mode ∧ mode.enabled = true) ∨
    (∃ mode, facade.pendingDebug = some mode ∧ mode.enabled = true) ∨
      facade.builder.debugDefault.enabled = true

theorem captures_of_takeDebug {value : Value} {mode : DebugMode}
    (h : (takeDebug debug).outcome facade = .ok value) (hvalue : DebugMode.ofValue value = .ok mode)
    (hmode : mode.enabled = true) : facade.Captures debug := by
  unfold takeDebug at h
  rw [Action.outcome_bind_ok (Action.outcome_get facade), Action.after_get,
    Action.outcome_bind_ok (Action.outcome_modify _ _)] at h
  cases hpending : facade.pendingDebug with
  | none =>
    rw [hpending] at h
    cases h
    exact .inl ⟨mode, hvalue, hmode⟩
  | some pending =>
    rw [hpending] at h
    obtain ⟨own, hown⟩ := Action.of_ofAttempt_bind h
    rw [hown] at h
    cases hcaptures : own.enabled with
    | true => exact .inl ⟨own, hown, hcaptures⟩
    | false =>
      have h : Except.ok (if own.enabled then debug else .debugMode pending) = .ok value := h
      rw [hcaptures] at h
      cases h
      cases hvalue
      exact .inr (.inl ⟨mode, hpending, hmode⟩)

/-- What is executed is the composed statement. The debug mode captures only if the call does. -/
theorem builder_prepare (debug : Value) (facade : Facade σ)
    (hcompose : Builder.Composes compose composed) {descriptor : Descriptor}
    (h : composed = .ok descriptor) :
    ∃ once, ((prepare compose debug).after facade).builder =
        { facade.builder.cleared with descriptor, debugOnce := once } ∧
      ∀ mode, once = some mode → mode.enabled = true → facade.Captures debug := by
  obtain ⟨houtcome, hafter⟩ := hcompose facade.builder
  rw [h] at houtcome
  unfold prepare
  rw [Action.after_bind_ok ((outcome_onBuilder _ _).trans houtcome), after_onBuilder,
    hafter descriptor h, Action.after_bind, after_takeDebug]
  split
  · next value hvalue =>
    rw [after_onBuilder]
    unfold Builder.setDebugOnce
    cases hmode : DebugMode.ofValue value with
    | ok mode =>
      refine ⟨some mode, rfl, fun taken htaken hcaptures => ?_⟩
      cases htaken
      exact (captures_of_takeDebug hvalue hmode hcaptures :)
    | error fault => exact ⟨none, rfl, nofun⟩
  · exact ⟨none, rfl, nofun⟩

theorem composed_of_prepare (hcompose : Builder.Composes compose composed)
    (h : (prepare compose debug).outcome facade = .ok ()) :
    ∃ descriptor, composed = .ok descriptor := by
  obtain ⟨_, hc, -⟩ := Action.of_outcome_bind_ok h
  rw [outcome_onBuilder, (hcompose facade.builder).1] at hc
  cases hd : composed with
  | ok descriptor => exact ⟨descriptor, rfl⟩
  | error fault => rw [hd] at hc; cases hc

theorem takeDebug_returns (hdebug : ∃ mode, DebugMode.ofValue debug = .ok mode)
    (facade : Facade σ) :
    ∃ value mode, (takeDebug debug).outcome facade = .ok value ∧
      DebugMode.ofValue value = .ok mode := by
  obtain ⟨own, hown⟩ := hdebug
  unfold takeDebug
  rw [Action.outcome_bind_ok (Action.outcome_get facade), Action.after_get,
    Action.outcome_bind_ok (Action.outcome_modify _ _)]
  cases facade.pendingDebug with
  | none => exact ⟨debug, own, rfl, hown⟩
  | some mode =>
    dsimp only
    rw [hown]
    show ∃ value m, Except.ok (if own.enabled then debug else .debugMode mode) = .ok value ∧ _
    cases own.enabled with
    | true => exact ⟨debug, own, rfl, hown⟩
    | false => exact ⟨.debugMode mode, mode, rfl, rfl⟩

theorem prepare_of_composes (hcompose : Builder.Composes compose composed)
    {descriptor : Descriptor} (h : composed = .ok descriptor)
    (hdebug : ∃ mode, DebugMode.ofValue debug = .ok mode) :
    (prepare compose debug).outcome facade = .ok () := by
  have houtcome := (hcompose facade.builder).1
  rw [h] at houtcome
  unfold prepare
  rw [Action.outcome_bind_ok ((outcome_onBuilder _ _).trans houtcome)]
  obtain ⟨value, mode, hvalue, hmode⟩ := takeDebug_returns hdebug ((onBuilder compose).after facade)
  rw [Action.outcome_bind_ok hvalue, outcome_onBuilder]
  unfold Builder.setDebugOnce
  rw [hmode]
  rfl

/-! ## Reads -/

theorem onBuilder_congr {α : Type} {action action' : Action (Builder σ) α}
    (h : action facade.builder = action' facade.builder) :
    onBuilder action facade = onBuilder action' facade := by
  unfold onBuilder Action.on
  have hpart : action (builderPart.get facade) = action' (builderPart.get facade) := h
  rw [hpart]

/-- A composed statement was written, sent and answered, and the rows of the answer can be
fetched. -/
structure Reads [Connection σ] (facade : Facade σ) (composed : Attempt Descriptor) (sql : String)
    (placeholders : Value.Entries) (exchange : Exchange) (next : Facade σ) : Prop where
  rendered : composed >>= (·.rendered facade.builder.dialect) = .ok (sql, placeholders)
  sends : facade.client.Sends sql placeholders exchange next.client
  holds : next.builder.Holds sql placeholders exchange.answer
  dialect : next.builder.dialect = facade.builder.dialect

def outgoing [Connection σ] (facade : Facade σ) (composed : Attempt Descriptor) :
    Attempt (String × Option Arguments) := do
  let descriptor ← composed
  let (sql, placeholders) ← descriptor.rendered facade.builder.dialect
  PreparedStatement.request (Connection.parser σ) facade.client.paramstyle sql placeholders

/-- The debug mode of a call is one, and if it captures, what the statement binds can be written. -/
structure Debugs (facade : Facade σ) (debug : Value) (composed : Attempt Descriptor) : Prop where
  named : ∃ mode, DebugMode.ofValue debug = .ok mode
  written : facade.Captures debug → ∀ sql placeholders,
    composed >>= (·.rendered facade.builder.dialect) = .ok (sql, placeholders) →
      ∀ entry ∈ placeholders, entry.1.isWritable = true ∧ entry.2.isWritable = true

theorem debugs_of_not_captures (hnamed : ∃ mode, DebugMode.ofValue debug = .ok mode)
    (h : ¬facade.Captures debug) (composed : Attempt Descriptor) : facade.Debugs debug composed :=
  ⟨hnamed, fun hcaptures => absurd hcaptures h⟩

theorem outgoing_eq_ok_iff [Connection σ] {sending : String × Option Arguments} :
    facade.outgoing composed = .ok sending ↔
      ∃ sql placeholders,
        composed >>= (·.rendered facade.builder.dialect) = .ok (sql, placeholders) ∧
          PreparedStatement.request (Connection.parser σ) facade.client.paramstyle sql
            placeholders = .ok sending := by
  unfold outgoing
  constructor
  · intro h
    obtain ⟨descriptor, hd, h⟩ := Action.of_attempts_ok h
    obtain ⟨⟨sql, placeholders⟩, hr, h⟩ := Action.of_attempts_ok h
    refine ⟨sql, placeholders, ?_, h⟩
    rw [hd]
    exact hr
  · rintro ⟨sql, placeholders, hr, h⟩
    obtain ⟨descriptor, hd, hr⟩ := Action.of_attempts_ok hr
    rw [hd]
    show descriptor.rendered facade.builder.dialect >>= _ = _
    rw [hr]
    exact h

/-- What is sent depends on the dialect and on the style of the driver alone. -/
theorem outgoing_congr [Connection σ] {facade' : Facade σ}
    (hdialect : facade'.builder.dialect = facade.builder.dialect)
    (hstyle : facade'.client.paramstyle = facade.client.paramstyle)
    (composed : Attempt Descriptor) :
    facade'.outgoing composed = facade.outgoing composed := by
  unfold outgoing
  rw [hdialect, hstyle]

variable [Connection σ] {sql : String} {placeholders : Value.Entries} {exchange : Exchange}
  {final : Client σ}

theorem Reads.outgoing {next : Facade σ}
    (h : facade.Reads composed sql placeholders exchange next) :
    facade.outgoing composed = .ok (exchange.sql, exchange.values) :=
  outgoing_eq_ok_iff.mpr ⟨sql, placeholders, h.rendered, h.sends.request⟩

/-- A call that composes a read does, once it is prepared, what the read does. -/
theorem runWith_of_prepared (hcompose : Builder.ComposesRead compose composed)
    (h : (prepare compose debug).outcome facade = .ok ()) :
    runWith compose debug facade =
      onBuilder Builder.executeQuery ((prepare compose debug).after facade) := by
  obtain ⟨descriptor, hd⟩ := composed_of_prepare hcompose.composes h
  obtain ⟨once, hbuilder, -⟩ := builder_prepare debug facade hcompose.composes hd
  rw [runWith_eq, Action.bind_of_ok h]
  exact onBuilder_congr (Builder.execute_of_read
    (by rw [hbuilder]; exact hcompose.isRead descriptor hd))

/-- What is executed of a call that was prepared. -/
structure Prepared (facade : Facade σ) (debug : Value) (composed : Attempt Descriptor)
    (ready : Builder σ) : Prop where
  rendered : ready.rendered = composed >>= (·.rendered facade.builder.dialect)
  client : ready.client = facade.client
  dialect : ready.dialect = facade.builder.dialect
  debugDefault : ready.debugDefault = facade.builder.debugDefault
  captures : ready.debugMode.enabled = true → facade.Captures debug

omit [Connection σ] in
theorem prepared_of_prepare (hcompose : Builder.Composes compose composed)
    (h : (prepare compose debug).outcome facade = .ok ()) :
    facade.Prepared debug composed ((prepare compose debug).after facade).builder := by
  obtain ⟨descriptor, hd⟩ := composed_of_prepare hcompose h
  obtain ⟨once, hbuilder, honce⟩ := builder_prepare debug facade hcompose hd
  rw [hbuilder, hd]
  refine ⟨rfl, rfl, rfl, rfl, fun hmode => ?_⟩
  cases once with
  | none => exact .inr (.inr hmode)
  | some mode =>
    cases henabled : mode.enabled with
    | true => exact honce mode rfl henabled
    | false =>
      rw [Builder.debugMode_of_set rfl, henabled] at hmode
      exact .inr (.inr hmode)

omit [Connection σ] in
theorem prepare_usedUp (compose : Action (Builder σ) Unit) (debug : Value) :
    Action.Keeps Builder.UsedUp pendingDebug (prepare compose debug) :=
  (Action.Keeps.of_eq (onBuilder_leavesPending compose)).bind fun _ =>
    Action.Keeps.bind (fun facade => .inr (by rw [after_takeDebug])) fun _ =>
      Action.Keeps.of_eq (onBuilder_leavesPending _)

theorem reads_of_runWith (hcompose : Builder.ComposesRead compose composed)
    {result : ExecutionResult} (h : (runWith compose debug).outcome facade = .ok result) :
    ∃ sql placeholders exchange,
      facade.Reads composed sql placeholders exchange ((runWith compose debug).after facade) := by
  have hprepared : (prepare compose debug).outcome facade = .ok () := by
    rw [runWith_eq] at h
    obtain ⟨_, hp, -⟩ := Action.of_outcome_bind_ok h
    exact hp
  obtain ⟨hrendered, hclient, hdialect, -, -⟩ :=
    prepared_of_prepare hcompose.composes hprepared
  have hran := runWith_of_prepared hcompose hprepared
  rw [Action.outcome_congr hran, outcome_onBuilder] at h
  rw [Action.after_congr hran, after_onBuilder]
  obtain ⟨sql, placeholders, exchange, hwritten, hsends, hholds⟩ := Builder.sends_of_executeQuery h
  rw [hrendered] at hwritten
  rw [hclient] at hsends
  exact ⟨sql, placeholders, exchange, hwritten, hsends, hholds,
    (Builder.dialect_executeQuery _).trans hdialect⟩

/-- The facade is left for the next call, which captures nothing that this one would not have. -/
structure Follows (facade next : Facade σ) : Prop where
  dialect : next.builder.dialect = facade.builder.dialect
  captures : ∀ debug, next.Captures debug → facade.Captures debug

omit [Connection σ] in
theorem follows_of_modes {next : Facade σ}
    (hdialect : next.builder.dialect = facade.builder.dialect)
    (hdefault : next.builder.debugDefault = facade.builder.debugDefault)
    (hpending : Builder.UsedUp facade.pendingDebug next.pendingDebug) : facade.Follows next := by
  refine ⟨hdialect, fun debug hcaptures => ?_⟩
  unfold Captures at hcaptures ⊢
  rw [hdefault] at hcaptures
  refine hcaptures.imp_right (.imp_left fun ⟨mode, hmode, henabled⟩ => ?_)
  rcases hpending with hsame | hgone
  · exact ⟨mode, hsame ▸ hmode, henabled⟩
  · cases hgone.symm.trans hmode

omit [Connection σ] in
theorem Follows.trans {middle next : Facade σ} (h : facade.Follows middle)
    (h' : middle.Follows next) : facade.Follows next :=
  ⟨h'.dialect.trans h.dialect, fun debug hcaptures =>
    h.captures debug (h'.captures debug hcaptures)⟩

omit [Connection σ] in
theorem Follows.debugs {next : Facade σ} (h : facade.Follows next)
    (hdebug : facade.Debugs debug composed) : next.Debugs debug composed :=
  ⟨hdebug.named, fun hcaptures => by
    rw [h.dialect]
    exact hdebug.written (h.captures debug hcaptures)⟩

/-- A call returns if its statement is composed and answered. -/
theorem runWith_of_answered (hcompose : Builder.ComposesRead compose composed)
    (hdebug : facade.Debugs debug composed)
    (hout : facade.outgoing composed = .ok (exchange.sql, exchange.values))
    (hexchange : facade.client.Exchanges [exchange] final) :
    let next := (runWith compose debug).after facade
    (∃ result, (runWith compose debug).outcome facade = .ok result) ∧ next.client = final ∧
      facade.Follows next ∧
      ∃ sql placeholders, facade.Reads composed sql placeholders exchange next := by
  obtain ⟨sql, placeholders, hrendered, hrequest⟩ := outgoing_eq_ok_iff.mp hout
  obtain ⟨descriptor, hd, -⟩ := Action.of_attempts_ok hrendered
  have hprepared : (prepare compose debug).outcome facade = .ok () :=
    prepare_of_composes hcompose.composes hd hdebug.named
  obtain ⟨hready, hclient, hdialect, hdefault, hmode⟩ :=
    prepared_of_prepare hcompose.composes hprepared
  have hsends : facade.client.Sends sql placeholders exchange final := ⟨hrequest, hexchange⟩
  have hran := runWith_of_prepared hcompose hprepared
  dsimp only
  rw [Action.outcome_congr hran, Action.after_congr hran, outcome_onBuilder, after_onBuilder]
  obtain ⟨hreturns, hfinal, hholds⟩ := Builder.executeQuery_of_sends (hready.trans hrendered)
    (by rw [hclient]; exact hsends)
    (hcompose.captures hrendered fun hcaptures =>
      hdebug.written (hmode hcaptures) sql placeholders hrendered)
  refine ⟨hreturns, hfinal, ?_, sql, placeholders, hrendered, ?_, hholds,
    (Builder.dialect_executeQuery _).trans hdialect⟩
  · refine follows_of_modes ((Builder.dialect_executeQuery _).trans hdialect) ?_
      (prepare_usedUp compose debug facade)
    exact (Builder.executeQuery_fading _).debugDefault_eq.trans hdefault
  · show facade.client.Sends sql placeholders exchange (Builder.executeQuery.after _).client
    rw [hfinal]
    exact hsends

/-! ## The first row of an answer -/

omit [Connection σ] in
theorem fetch_of_holds {next : Facade σ}
    (h : next.builder.Holds sql placeholders exchange.answer) :
    (fetch .num).outcome next = .ok exchange.firstRow ∧
      ((fetch .num).after next).client = next.client ∧ next.Follows ((fetch .num).after next) := by
  have hsilent := (Builder.fetch_silent (σ := σ) .num) next.builder
  unfold fetch
  rw [outcome_onBuilder, after_onBuilder, Builder.outcome_fetch, h.listing, exchange.next_num]
  exact ⟨rfl, (congrArg Prod.fst hsilent).symm,
    follows_of_modes (congrArg (fun view => view.2.dialect) hsilent).symm
      (congrArg (fun view => view.2.debugDefault) hsilent).symm (.inl rfl)⟩

/-- A composed read was answered, and the value given is the first row of the answer. -/
structure Fetches (facade : Facade σ) (composed : Attempt Descriptor) (row : Value)
    (exchange : Exchange) (next : Facade σ) : Prop where
  outgoing : facade.outgoing composed = .ok (exchange.sql, exchange.values)
  exchanged : facade.client.Exchanges [exchange] next.client
  dialect : next.builder.dialect = facade.builder.dialect
  row : row = exchange.firstRow

theorem fetches_of_firstRow (hcompose : Builder.ComposesRead compose composed) {row : Value}
    (h : (do let _ ← runWith compose debug; fetch .num : Action (Facade σ) Value).outcome facade =
      .ok row) :
    ∃ exchange, facade.Fetches composed row exchange
      ((do let _ ← runWith compose debug; fetch .num : Action (Facade σ) Value).after facade) := by
  obtain ⟨result, hran, hrow⟩ := Action.of_outcome_bind_ok h
  rw [Action.after_bind_ok hran]
  obtain ⟨sql, placeholders, exchange, hreads⟩ := reads_of_runWith hcompose hran
  obtain ⟨hfetch, hclient, hfollows⟩ := fetch_of_holds hreads.holds
  refine ⟨exchange, hreads.outgoing, ?_, hfollows.dialect.trans hreads.dialect, ?_⟩
  · rw [hclient]
    exact hreads.sends.exchanged
  · exact Except.ok.inj (hrow.symm.trans hfetch)

theorem firstRow_of_answered (hcompose : Builder.ComposesRead compose composed)
    (hdebug : facade.Debugs debug composed)
    (hout : facade.outgoing composed = .ok (exchange.sql, exchange.values))
    (hexchange : facade.client.Exchanges [exchange] final) :
    let next := (do let _ ← runWith compose debug; fetch .num : Action (Facade σ) Value)
    next.outcome facade = .ok exchange.firstRow ∧ (next.after facade).client = final ∧
      facade.Follows (next.after facade) := by
  intro next
  obtain ⟨⟨result, hran⟩, hfinal, hfollows, sql, placeholders, hreads⟩ :=
    runWith_of_answered hcompose hdebug hout hexchange
  obtain ⟨hfetch, hclient, hfetched⟩ := fetch_of_holds hreads.holds
  refine ⟨(Action.outcome_bind_ok hran).trans hfetch, ?_, ?_⟩
  · rw [Action.after_bind_ok hran]
    exact hclient.trans hfinal
  · rw [Action.after_bind_ok hran]
    exact hfollows.trans hfetched

end SqlToolkit.Facade
