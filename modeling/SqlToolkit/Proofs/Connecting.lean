import SqlToolkit.Connect
import SqlToolkit.Connection.Scripted
import SqlToolkit.Proofs.Client.Calls
import SqlToolkit.Proofs.Settings.OdbcGrammar
import SqlToolkit.Proofs.Statement.Limited

/-!
# How connecting fails

There are four steps: the address is understood, the driver opens a connection, the session is set
up, and the debug mode is read. Each has its own kind of fault. Drivers tell their errors as failures
to connect; but a statement that sets up the session is run like any other, so what the connection
raises there is passed on as it is. The driver for files passes on what is no error of its own, too.
-/

namespace SqlToolkit

/-- The faults of drivers and connections, unknown drivers included. -/
def Fault.isConnection : Fault → Bool
  | .unsupportedDriver _ | .connectionFailed _ => true
  | _ => false

/-! ## Addresses -/

/-- A text that is no number is a bad value, whatever it is. -/
theorem Value.toInteger_text_refuses {content : String} {fault : Fault}
    (h : (Value.text content).toInteger = .error fault) : fault = .badValue := by
  unfold toInteger at h
  cases hnumber : Numeral.parse? content with
  | none =>
    simp only [hnumber] at h
    cases h
    rfl
  | some number =>
    simp only [hnumber] at h
    cases h

namespace Settings

open SqlToolkit.Text

/-- A port that is refused is so for its text. -/
theorem parsePort_text_refuses {content : String} {fault : Fault}
    (h : parsePort (.text content) = .error fault) : ∃ cause, fault = .parameter cause := by
  unfold parsePort at h
  dsimp only at h
  rw [Value.write_text] at h
  change (if isBlankText (Value.text content).display then Except.ok Value.null else _) = _ at h
  split at h
  · cases h
  · cases hport : (Value.text content).toInteger with
    | ok number =>
      rw [hport] at h
      cases h
    | error cause =>
      rw [hport, Value.toInteger_text_refuses hport] at h
      cases h
      exact ⟨_, rfl⟩

/-- The settings of a server have the driver of the URL, or their port is refused. -/
theorem ofServer_cases (driver : String) (location : List Char)
    (options : List (String × String)) :
    (∃ settings, ofServer driver location options = .ok settings ∧
        settings.driver = .text driver) ∨
      ∃ cause, ofServer driver location options = .error (.parameter cause) := by
  unfold ofServer
  dsimp only
  generalize hostAndPort _ = address
  obtain ⟨host, port⟩ := address
  cases port with
  | none => exact .inl ⟨_, rfl, rfl⟩
  | some spelled =>
    dsimp only [Option.map_some, Option.getD_some]
    cases hport : parsePort (.text (String.ofList spelled)) with
    | ok port => exact .inl ⟨_, rfl, rfl⟩
    | error fault =>
      obtain ⟨cause, rfl⟩ := parsePort_text_refuses hport
      exact .inr ⟨cause, rfl⟩

/-- A URL gives settings with a driver, or a parameter of it is refused. -/
theorem ofUrl_cases (url : String) :
    (∃ settings name, ofUrl url = .ok settings ∧ settings.driver = .text name) ∨
      ∃ cause, ofUrl url = .error (.parameter cause) := by
  unfold ofUrl
  split
  · exact .inr ⟨_, rfl⟩
  · dsimp only
    split
    · exact .inl ⟨_, _, rfl, rfl⟩
    · rcases ofServer_cases _ _ _ with ⟨settings, hsettings, hdriver⟩ | ⟨cause, hcause⟩
      · exact .inl ⟨settings, _, hsettings, hdriver⟩
      · exact .inr ⟨cause, hcause⟩

end Settings

/-- What a connection is asked for with: a URL, or settings and the name of a driver. -/
inductive Address where
  | url (text : String)
  | direct (driver : String) (settings : Settings)

namespace Address

def given : Address → Attempt Settings
  | .url text => Settings.ofUrl text
  | .direct driver settings => .ok { settings with driver := .text driver }

/-- The settings of an address, and the dialect that its driver stands for. -/
def understood (registry : Registry) (address : Address) : Attempt (Settings × Dialect) := do
  let settings ← address.given
  let driver ← Settings.driverName settings.driver
  let dialect ← registry.dialect driver
  return (settings, dialect)

theorem given_cases (address : Address) :
    (∃ settings name, address.given = .ok settings ∧ settings.driver = .text name) ∨
      ∃ cause, address.given = .error (.parameter cause) := by
  cases address with
  | url text => exact Settings.ofUrl_cases text
  | direct driver settings => exact .inl ⟨_, driver, rfl, rfl⟩

theorem understood_refuses {registry : Registry} {address : Address} {fault : Fault}
    (h : address.understood registry = .error fault) : fault.isToolkit = true := by
  unfold understood at h
  rcases address.given_cases with ⟨settings, name, hgiven, hdriver⟩ | ⟨cause, hgiven⟩
  · rw [hgiven] at h
    change (Settings.driverName settings.driver >>= _) = _ at h
    rw [hdriver] at h
    change (registry.dialect name >>= _) = _ at h
    unfold Registry.dialect at h
    cases hname : registry.dialect? name with
    | none =>
      rw [hname] at h
      cases h
      rfl
    | some dialect =>
      rw [hname] at h
      cases h
  · rw [hgiven] at h
    cases h
    rfl

end Address

/-! ## Drivers -/

namespace Connecting

variable {σ : Type}

/-- The connection that a driver opens, or why there is none. -/
def opened (drivers : Driver → Availability σ) (settings : Settings) (dialect : Dialect) :
    Attempt σ :=
  let driver := Driver.ofDialect dialect
  match drivers driver with
  | .missing => .error (.connectionFailed driver.missingHint)
  | .refuses reason => .error (.connectionFailed reason)
  | .breaks reason =>
    .error (if driver.tellsForeignErrors then .connectionFailed reason else .driver reason)
  | .opens connection encodingRefusal =>
    match encodingCalls settings dialect, encodingRefusal with
    | _ :: _, some reason => .error (.connectionFailed reason)
    | _, _ => .ok connection

/-- The line of the log that tells of a connection can be written. -/
def Announced (settings : Settings) : Dialect → Prop
  | .sqlite => (filePath settings).isWritable = true
  | _ => settings.database.isWritable = true ∧ settings.host.isWritable = true

def announcement (settings : Settings) : Dialect → LogEvent
  | .sqlite => .connected .sqlite (filePath settings).display ""
  | dialect => .connected dialect settings.database.display settings.host.display

theorem connectedEvent_writes (settings : Settings) (dialect : Dialect) :
    Writes (connectedEvent settings dialect) (Announced settings dialect)
      (announcement settings dialect) := by
  cases dialect with
  | sqlite =>
    have hfile : Writes (connectedEvent settings .sqlite) _ (announcement settings .sqlite) :=
      (Writes.value (filePath settings) Value.display).bind (.ok _)
    exact hfile.congr (and_true _).to_iff
  | mysql | postgresql | oracle | firebird =>
    refine (Writes.value settings.database Value.display).bind ?_
    refine Writes.congr ((Writes.value settings.host Value.display).bind ?_) (and_true _).to_iff
    exact .ok _

/-- Where the line was written, so is the name of the database. -/
theorem Announced.database {settings : Settings} {dialect : Dialect}
    (h : Announced settings dialect) : settings.database.isWritable = true := by
  cases dialect with
  | sqlite =>
    cases htruthy : settings.database.truthy with
    | false => exact Value.isWritable_of_not_truthy htruthy
    | true =>
      unfold Announced filePath Settings.orElse at h
      rwa [if_pos htruthy] at h
  | mysql | postgresql | oracle | firebird => exact h.1

/-- The call is written, the driver answers, and a connection is told of in the log. -/
theorem outcome_openConnection (drivers : Driver → Availability σ) (settings : Settings)
    (dialect : Dialect) (opening : Opening) :
    (openConnection drivers settings dialect).outcome opening =
      openCall settings dialect >>= fun _ => opened drivers settings dialect >>= fun connection =>
        connectedEvent settings dialect >>= fun _ => .ok connection := by
  unfold openConnection opened
  rw [Action.outcome_bind, Action.outcome_ofAttempt, Action.ofAttempt_after]
  cases openCall settings dialect with
  | error fault => rfl
  | ok call =>
    dsimp only
    cases drivers (Driver.ofDialect dialect) with
    | missing => rfl
    | refuses reason => rfl
    | breaks reason => rfl
    | opens connection encodingRefusal =>
      dsimp only
      cases encodingCalls settings dialect with
      | nil => cases connectedEvent settings dialect <;> rfl
      | cons call calls =>
        cases encodingRefusal with
        | none => cases connectedEvent settings dialect <;> rfl
        | some reason => rfl

/-- Only the driver for files passes an error on. -/
theorem opened_refuses {drivers : Driver → Availability σ} {settings : Settings}
    {dialect : Dialect} {fault : Fault} (h : opened drivers settings dialect = .error fault) :
    fault.isConnection = true ∨
      dialect = .sqlite ∧ ∃ reason, drivers .sqlite = .breaks reason ∧ fault = .driver reason := by
  unfold opened at h
  dsimp only at h
  cases havailable : drivers (Driver.ofDialect dialect) with
  | missing =>
    rw [havailable] at h
    cases h
    exact .inl rfl
  | refuses reason =>
    rw [havailable] at h
    cases h
    exact .inl rfl
  | breaks reason =>
    rw [havailable] at h
    cases h
    cases dialect with
    | sqlite => exact .inr ⟨rfl, reason, havailable, rfl⟩
    | mysql | postgresql | oracle | firebird => exact .inl rfl
  | opens connection encodingRefusal =>
    rw [havailable] at h
    dsimp only at h
    split at h
    · cases h
      exact .inl rfl
    · cases h

end Connecting

/-! ## Statements outside transactions -/

theorem Action.outcome_bind_pure {S α β : Type} (action : Action S α) (result : β) (s : S) :
    (action >>= fun _ => pure result).outcome s = (action.outcome s).map fun _ => result := by
  rw [outcome_bind]
  cases action.outcome s <;> rfl

namespace Client

variable {σ : Type}

theorem send_refuses {α : Type} {call : Call} {step : σ → Except String α × σ}
    {client : Client σ} {fault : Fault} (h : (send call step).outcome client = .error fault) :
    ∃ message, fault = .driver message := by
  rw [outcome_send] at h
  cases hstep : (step client.connection).1 with
  | ok value =>
    rw [hstep] at h
    cases h
  | error message =>
    rw [hstep] at h
    cases h
    exact ⟨message, rfl⟩

variable [Connection σ] {client : Client σ} {sql : String} {arguments : Option Arguments}

/-- Outside a transaction, open work is committed at once. -/
theorem outcome_settle_of_closed (hclosed : client.inTransaction = false) :
    (settle sendCommit).outcome client =
      if Connection.hasOpenWork client.connection then
        (Connection.commit client.connection).1.mapError Fault.driver
      else .ok () := by
  unfold settle
  rw [Action.outcome_get_bind, hclosed]
  cases Connection.hasOpenWork client.connection with
  | false => rfl
  | true => exact outcome_send _ _ client

theorem settle_refuses {call : Call} {step : σ → Except String Unit × σ} {fault : Fault}
    (h : (settle (send call step)).outcome client = .error fault) :
    ∃ message, fault = .driver message := by
  unfold settle at h
  rw [Action.outcome_get_bind] at h
  split at h
  · exact send_refuses h
  · cases h

/-- What a statement fails with is what the connection raised. -/
theorem run_refuses {fault : Fault} (h : (run sql arguments).outcome client = .error fault) :
    ∃ message, fault = .driver message := by
  unfold run at h
  rw [Action.outcome_bind_ok (Action.outcome_attempt _ _)] at h
  cases hsent : (sendStatement sql arguments).outcome client with
  | ok result =>
    rw [hsent] at h
    rcases Action.of_outcome_bind_error h with h | ⟨_, -, h⟩
    · cases h
    · rcases Action.of_outcome_bind_error h with hsettle | ⟨_, -, h⟩
      · exact settle_refuses hsettle
      · cases h
  | error cause =>
    rw [hsent] at h
    rcases Action.of_outcome_bind_error h with hsettle | ⟨_, -, h⟩
    · exact settle_refuses hsettle
    · cases h
      exact send_refuses hsent

/-- The connection rejects a statement, or the commit that follows where there is open work. -/
def Refuses (connection : σ) (sql : String) : Prop :=
  (∃ message, (Connection.execute sql none connection).1 = .error message) ∨
    ∃ rows message, (Connection.execute sql none connection).1 = .ok rows ∧
      Connection.hasOpenWork (Connection.execute sql none connection).2 = true ∧
      (Connection.commit (Connection.execute sql none connection).2).1 = .error message

theorem exists_run_refuses {message : String}
    (hr : (Connection.execute sql arguments client.connection).1 = .error message) :
    ∃ fault, (run sql arguments).outcome client = .error fault := by
  have hsent : (sendStatement sql arguments).outcome client = .error (.driver message) :=
    outcome_send_error hr
  unfold run
  rw [Action.outcome_bind_ok (Action.outcome_attempt _ _), hsent]
  dsimp only
  rw [Action.outcome_bind]
  split
  · exact ⟨_, rfl⟩
  · exact ⟨_, rfl⟩

/-- An accepted statement ends as the commit that settles it does. -/
theorem outcome_run_of_accepted {rows : ResultSet} (hclosed : client.inTransaction = false)
    (hr : (Connection.execute sql arguments client.connection).1 = .ok rows) :
    (run sql arguments).outcome client =
      (if Connection.hasOpenWork (Connection.execute sql arguments client.connection).2 then
        (Connection.commit (Connection.execute sql arguments client.connection).2).1.mapError
          Fault.driver
      else .ok ()).map fun _ => rows := by
  have hsent : (sendStatement sql arguments).outcome client = .ok rows := outcome_send_ok hr
  have hafter : (sendStatement sql arguments).after client = client.sent sql arguments :=
    after_send _ _ client
  have hsettle := @outcome_settle_of_closed σ _
    { client.sent sql arguments with lastRowId := rows.rowId.getD .null } hclosed
  unfold run
  rw [Action.outcome_bind_ok (Action.outcome_attempt _ _), Action.attempt_after, hsent, hafter]
  dsimp only
  rw [Action.outcome_bind_ok (Action.outcome_modify _ _), Action.after_modify,
    Action.outcome_bind_pure]
  exact congrArg (Except.map fun _ => rows) hsettle

theorem run_refuses_iff (hclosed : client.inTransaction = false) :
    (∃ fault, (run sql none).outcome client = .error fault) ↔ Refuses client.connection sql := by
  unfold Refuses
  cases hr : (Connection.execute sql none client.connection).1 with
  | error message => exact iff_of_true (exists_run_refuses hr) (.inl ⟨message, rfl⟩)
  | ok rows =>
    rw [outcome_run_of_accepted hclosed hr]
    cases Connection.hasOpenWork (Connection.execute sql none client.connection).2 with
    | false =>
      refine iff_of_false (fun h => nomatch h.choose_spec) ?_
      rintro (⟨_, h⟩ | ⟨_, _, -, h, -⟩) <;> cases h
    | true =>
      cases (Connection.commit (Connection.execute sql none client.connection).2).1 with
      | ok done =>
        refine iff_of_false (fun h => nomatch h.choose_spec) ?_
        rintro (⟨_, h⟩ | ⟨_, _, -, -, h⟩) <;> cases h
      | error message => exact iff_of_true ⟨_, rfl⟩ (.inr ⟨rows, message, rfl, rfl, rfl⟩)

end Client

/-! ## Sessions -/

namespace Connecting

variable {σ : Type} [Connection σ]

def session (dialect : Dialect) (connection : σ) : Attempt (Client σ) :=
  ((setUp dialect).outcome (newClient dialect connection)).map fun _ =>
    (setUp dialect).after (newClient dialect connection)

theorem outcome_clientFor (dialect : Dialect) (connection : σ) (opening : Opening) :
    (clientFor dialect connection).outcome opening = session dialect connection := by
  unfold clientFor session Action.perform
  dsimp only
  rw [Action.outcome_bind_ok rfl, Action.outcome_bind_ok rfl]
  cases (setUp dialect).outcome (newClient dialect connection) <;> rfl

/-- The session is set up by one statement at most. -/
theorem outcome_setUp {dialect : Dialect} {sql : String} (h : dialect.sessionSetup = [sql])
    (client : Client σ) :
    (setUp dialect).outcome client = ((Client.run sql none).outcome client).map fun _ => () := by
  unfold setUp
  rw [h]
  show ((Client.exec sql >>= fun _ => pure ()) >>= fun _ => pure ()).outcome client = _
  rw [Action.outcome_bind_pure, Action.outcome_bind_pure, Client.exec, Action.outcome_bind]
  cases (Client.run sql none).outcome client <;> rfl

theorem sessionSetup_cases (dialect : Dialect) :
    dialect.sessionSetup = [] ∨ ∃ sql, dialect.sessionSetup = [sql] := by
  cases dialect with
  | oracle => exact .inr ⟨_, rfl⟩
  | mysql | postgresql | firebird | sqlite => exact .inl rfl

theorem session_of_no_setup {dialect : Dialect} (h : dialect.sessionSetup = [])
    (connection : σ) : session dialect connection = .ok (newClient dialect connection) := by
  unfold session setUp
  rw [h]
  rfl

/-- What fails a session is a statement for it, and what the connection raised. -/
theorem session_refuses {dialect : Dialect} {connection : σ} {fault : Fault}
    (h : session dialect connection = .error fault) :
    ∃ message, fault = .driver message := by
  rcases sessionSetup_cases dialect with hnone | ⟨sql, hsql⟩
  · rw [session_of_no_setup hnone] at h
    cases h
  · unfold session at h
    rw [outcome_setUp hsql] at h
    cases hrun : (Client.run sql none).outcome (newClient dialect connection) with
    | ok rows =>
      rw [hrun] at h
      cases h
    | error cause =>
      rw [hrun] at h
      cases h
      exact Client.run_refuses hrun

theorem session_refuses_iff (dialect : Dialect) (connection : σ) :
    (∃ fault, session dialect connection = .error fault) ↔
      ∃ sql ∈ dialect.sessionSetup, Client.Refuses connection sql := by
  rcases sessionSetup_cases dialect with hnone | ⟨sql, hsql⟩
  · rw [session_of_no_setup hnone, hnone]
    exact iff_of_false (fun h => nomatch h.choose_spec) fun h => nomatch h.choose_spec.1
  · have hrefuses : Client.Refuses connection sql ↔
        ∃ fault, (Client.run sql none).outcome (newClient dialect connection) = .error fault :=
      (@Client.run_refuses_iff σ _ (newClient dialect connection) sql rfl).symm
    unfold session
    rw [outcome_setUp hsql, hsql]
    simp only [List.mem_singleton, exists_eq_left, hrefuses]
    refine exists_congr fun fault => ?_
    cases (Client.run sql none).outcome (newClient dialect connection) with
    | ok rows => exact iff_of_false nofun nofun
    | error cause => exact ⟨fun h => by cases h; rfl, fun h => by cases h; rfl⟩

end Connecting

/-! ## Connecting -/

namespace Address

open Connecting

variable {σ : Type} [Connection σ]

def connect (address : Address) (registry : Registry) (drivers : Driver → Availability σ)
    (debug : Value) (lap : Duration) : Action Opening (Facade σ) :=
  match address with
  | .url text => Connecting.connectUrl registry drivers text debug lap
  | .direct driver settings =>
    Connecting.connect registry drivers { settings with driver := .text driver } debug lap

variable (address : Address) (registry : Registry) (drivers : Driver → Availability σ)
  (debug : Value) (lap : Duration)

/-- Opens a connection and sets its session up. -/
def reach (drivers : Driver → Availability σ) (settings : Settings) (dialect : Dialect) :
    Action Opening (Client σ) :=
  openConnection drivers settings dialect >>= clientFor dialect

theorem outcome_reach (settings : Settings) (dialect : Dialect) (opening : Opening) :
    (reach drivers settings dialect).outcome opening =
      openCall settings dialect >>= fun _ => opened drivers settings dialect >>= fun connection =>
        connectedEvent settings dialect >>= fun _ => session dialect connection := by
  unfold reach
  rw [Action.outcome_bind, outcome_openConnection]
  cases openCall settings dialect with
  | error fault => rfl
  | ok call =>
    cases opened drivers settings dialect with
    | error fault => rfl
    | ok connection =>
      cases connectedEvent settings dialect with
      | error fault => rfl
      | ok event => exact outcome_clientFor dialect connection _

/-- What is done with the client: a detail names the database, and a builder gets the debug mode. -/
def equip (settings : Settings) (dialect : Dialect) (client : Client σ) (debug : Value)
    (lap : Duration) : Attempt (Facade σ) := do
  let _ ← settings.database.write Value.display
  let builder ← Builder.create dialect client debug lap
  return { builder }

theorem outcome_connect_settings (settings : Settings) (opening : Opening) :
    (Connecting.connect registry drivers settings debug lap).outcome opening =
      (do
        let driver ← Settings.driverName settings.driver
        let dialect ← registry.dialect driver
        return (settings, dialect)) >>= fun place =>
      (reach drivers place.1 place.2).outcome {} >>= fun client =>
        equip place.1 place.2 client debug lap := by
  unfold Connecting.connect
  rw [Action.outcome_bind, Action.outcome_ofAttempt, Action.ofAttempt_after]
  cases Settings.driverName settings.driver with
  | error fault => rfl
  | ok driver =>
    show (findDialect registry driver >>= fun dialect =>
      openConnection drivers settings dialect >>= fun connection =>
        clientFor dialect connection >>= fun client =>
          Action.ofAttempt (settings.database.write Value.display) >>= fun database =>
            explain _ >>= fun _ =>
              Action.ofAttempt (Builder.create dialect client debug lap) >>= fun builder =>
                pure ({ builder } : Facade σ)).outcome opening =
      (registry.dialect driver >>= fun dialect => Except.ok (settings, dialect)) >>= _
    unfold findDialect
    cases registry.dialect driver with
    | error fault => rfl
    | ok dialect =>
      show (openConnection drivers settings dialect >>= fun connection =>
        clientFor dialect connection >>= fun client => _).outcome opening =
          (reach drivers settings dialect).outcome {} >>= _
      rw [← bind_assoc, ← reach, Action.outcome_bind, outcome_reach, outcome_reach]
      generalize (openCall settings dialect >>= fun _ => _) = reached
      cases reached with
      | error fault => rfl
      | ok client =>
        show _ = equip settings dialect client debug lap
        dsimp only
        unfold equip
        rw [Action.outcome_bind, Action.outcome_ofAttempt]
        cases settings.database.write Value.display with
        | error fault => rfl
        | ok database =>
          dsimp only
          rw [Action.outcome_bind_ok rfl, Action.outcome_bind, Action.outcome_ofAttempt]
          cases Builder.create dialect client debug lap <;> rfl

/-- Connecting goes through its steps in order, up to the first that is refused. -/
theorem outcome_connect :
    (address.connect registry drivers debug lap).outcome {} =
      address.understood registry >>= fun place =>
        (reach drivers place.1 place.2).outcome {} >>= fun client =>
          equip place.1 place.2 client debug lap := by
  cases address with
  | url text =>
    show (Action.ofAttempt (Settings.ofUrl text) >>= fun settings =>
      Connecting.connect registry drivers settings debug lap).outcome {} = _
    rw [Action.outcome_bind, Action.outcome_ofAttempt, Action.ofAttempt_after, understood, given]
    cases Settings.ofUrl text with
    | error fault => rfl
    | ok settings => exact outcome_connect_settings registry drivers debug lap settings {}
  | direct driver settings => exact outcome_connect_settings registry drivers debug lap _ {}

end Address

/-! ## Debug modes -/

/-- A value that is none of the modes is refused with its text, if it has one. -/
theorem DebugMode.ofValue_refuses {value : Value} {fault : Fault}
    (h : DebugMode.ofValue value = .error fault) :
    if value.isWritable then ∃ cause, fault = .parameter cause else fault = .badValue := by
  have hrefused : value.refuse (fun shown => .parameter (.badDebugMode shown)) =
      (.error fault : Attempt DebugMode) := by
    unfold DebugMode.ofValue at h
    dsimp only at h
    split at h
    · cases h
    · cases h
    · cases h
    · split at h
      · cases h
      · exact h
    · exact h
  unfold Value.refuse at hrefused
  split
  · rw [if_pos ‹_›] at hrefused
    cases hrefused
    exact ⟨_, rfl⟩
  · rw [if_neg ‹_›] at hrefused
    cases hrefused
    rfl

theorem DebugMode.ofValue_of_not_isWritable {value : Value} (h : value.isWritable = false) :
    DebugMode.ofValue value = .error .badValue := by
  cases value with
  | int | list | tuple | set | map | object =>
    unfold DebugMode.ofValue Value.refuse
    dsimp only
    rw [h]
    rfl
  | null | bool | float | text | bytes | date | datetime | fetchMode | debugMode | foreign =>
    cases h

/-- A builder is refused for its debug mode, which is told as a fault of the toolkit. -/
theorem Builder.create_refuses {σ : Type} {dialect : Dialect} {client : Client σ} {debug : Value}
    {lap : Duration} {fault : Fault} (hdebug : debug.isWritable = true)
    (h : Builder.create dialect client debug lap = .error fault) : fault.isToolkit = true := by
  unfold Builder.create at h
  cases hmode : DebugMode.ofValue debug with
  | ok mode =>
    rw [hmode] at h
    cases h
  | error cause =>
    rw [hmode] at h
    cases h
    have hrefused := DebugMode.ofValue_refuses hmode
    rw [if_pos hdebug] at hrefused
    obtain ⟨_, rfl⟩ := hrefused
    rfl

/-! ## Faults of connecting -/

namespace Address

open Connecting

variable {σ : Type} [Connection σ]

variable (address : Address) (registry : Registry) (drivers : Driver → Availability σ)
  (debug : Value) (lap : Duration)

/-- The driver passes on an error that is none of its own, or it opens a connection that refuses a
statement for its session. -/
def RaisesAt (drivers : Driver → Availability σ) (settings : Settings) (dialect : Dialect) : Prop :=
  (dialect = .sqlite ∧ ∃ reason, drivers .sqlite = .breaks reason) ∨
    ∃ connection, opened drivers settings dialect = .ok connection ∧
      ∃ sql ∈ dialect.sessionSetup, Client.Refuses connection sql

/-- A number is too long for a text that is written on the way: for the string that an ODBC driver
is asked with or, once a driver has opened a connection, for the line of the log about it. -/
def UnwrittenAt (drivers : Driver → Availability σ) (settings : Settings) (dialect : Dialect) :
    Prop :=
  (Driver.ofDialect dialect = .odbc ∧ ¬ OdbcString.Spellable settings dialect) ∨
    (∃ connection, opened drivers settings dialect = .ok connection) ∧
      ¬ Announced settings dialect

omit [Connection σ] in
theorem isToolkit_of_isConnection {fault : Fault} (h : fault.isConnection = true) :
    fault.isToolkit = true := by
  cases fault with
  | unsupportedDriver _ | connectionFailed _ => rfl
  | _ => cases h

section Reach

variable {drivers : Driver → Availability σ} {settings : Settings} {dialect : Dialect}

omit [Connection σ] in
/-- The call is written, unless a string for it cannot be. -/
theorem openCall_cases (settings : Settings) (dialect : Dialect) :
    (∃ call, openCall settings dialect = .ok call) ∨
      Driver.ofDialect dialect = .odbc ∧ ¬ OdbcString.Spellable settings dialect ∧
        openCall settings dialect = .error .badValue := by
  by_cases hodbc : Driver.ofDialect dialect = .odbc
  · have hwrites := OdbcString.openCall_writes settings hodbc
    by_cases hspellable : OdbcString.Spellable settings dialect
    · exact .inl ⟨_, hwrites.written hspellable⟩
    · exact .inr ⟨hodbc, hspellable, hwrites.refused hspellable⟩
  · cases dialect with
    | mysql | postgresql | sqlite => exact .inl ⟨_, rfl⟩
    | oracle | firebird => exact absurd rfl hodbc

/-- What cannot be written ends the connecting before the session is set up. -/
theorem reach_of_unwritten (h : UnwrittenAt drivers settings dialect) :
    (reach drivers settings dialect).outcome {} = .error .badValue := by
  rw [outcome_reach]
  rcases openCall_cases settings dialect with ⟨call, hcall⟩ | ⟨-, -, hcall⟩
  · rcases h with ⟨hodbc, hnot⟩ | ⟨⟨connection, hopened⟩, hnot⟩
    · have hrefused := (OdbcString.openCall_writes settings hodbc).refused hnot
      cases hcall.symm.trans hrefused
    · rw [hcall, hopened]
      show connectedEvent settings dialect >>= _ = _
      rw [(connectedEvent_writes settings dialect).refused hnot]
      rfl
  · rw [hcall]
    rfl

/-- Where everything is written, the session of an opened connection is set up. -/
theorem outcome_reach_of_written (h : ¬ UnwrittenAt drivers settings dialect) :
    (reach drivers settings dialect).outcome {} =
      opened drivers settings dialect >>= session dialect := by
  obtain ⟨hcalled, hlogged⟩ := not_or.mp h
  rw [outcome_reach]
  rcases openCall_cases settings dialect with ⟨call, hcall⟩ | ⟨hodbc, hnot, -⟩
  · rw [hcall]
    show opened drivers settings dialect >>= _ = _
    cases hopened : opened drivers settings dialect with
    | error fault => rfl
    | ok connection =>
      have hannounced : Announced settings dialect :=
        Classical.byContradiction fun hnot => hlogged ⟨⟨connection, hopened⟩, hnot⟩
      show connectedEvent settings dialect >>= _ = _
      rw [(connectedEvent_writes settings dialect).written hannounced]
      rfl
  · exact absurd ⟨hodbc, hnot⟩ hcalled

/-- What a driver or a connection raises by itself is raised. -/
theorem reach_of_raises (hwritten : ¬ UnwrittenAt drivers settings dialect)
    (h : RaisesAt drivers settings dialect) :
    ∃ message, (reach drivers settings dialect).outcome {} = .error (.driver message) := by
  rw [outcome_reach_of_written hwritten]
  rcases h with ⟨rfl, reason, hbreaks⟩ | ⟨connection, hopened, hsession⟩
  · have hopened : opened drivers settings .sqlite = .error (.driver reason) := by
      unfold opened
      dsimp only [Driver.ofDialect]
      rw [hbreaks]
      rfl
    exact ⟨reason, by rw [hopened]; rfl⟩
  · obtain ⟨fault, hfault⟩ := (session_refuses_iff dialect connection).mpr hsession
    obtain ⟨message, rfl⟩ := session_refuses hfault
    exact ⟨message, by rw [hopened]; exact hfault⟩

/-- In all other cases a failure to reach the database is told as one. -/
theorem isConnection_of_reach {fault : Fault} (hwritten : ¬ UnwrittenAt drivers settings dialect)
    (hsound : ¬ RaisesAt drivers settings dialect)
    (h : (reach drivers settings dialect).outcome {} = .error fault) :
    fault.isConnection = true := by
  rw [outcome_reach_of_written hwritten] at h
  cases hopened : opened drivers settings dialect with
  | error cause =>
    rw [hopened] at h
    cases h
    rcases opened_refuses hopened with htold | ⟨hdialect, reason, hbreaks, -⟩
    · exact htold
    · exact absurd (.inl ⟨hdialect, reason, hbreaks⟩) hsound
  | ok connection =>
    rw [hopened] at h
    have hsession := (session_refuses_iff dialect connection).mp ⟨fault, h⟩
    exact absurd (.inr ⟨connection, hopened, hsession⟩) hsound

/-- A database that was reached has a name that can be written. -/
theorem database_of_reach {client : Client σ}
    (h : (reach drivers settings dialect).outcome {} = .ok client) :
    settings.database.isWritable = true := by
  rw [outcome_reach] at h
  obtain ⟨_, -, hopened⟩ := Action.of_attempts_ok h
  obtain ⟨_, -, hevent⟩ := Action.of_attempts_ok hopened
  obtain ⟨event, hwritten, -⟩ := Action.of_attempts_ok hevent
  exact ((connectedEvent_writes settings dialect).eq_ok_iff.mp hwritten).1.database

/-- Once the database is reached, only the debug mode is left to fail. -/
theorem equip_of_reach {client : Client σ} (debug : Value) (lap : Duration)
    (h : (reach drivers settings dialect).outcome {} = .ok client) :
    equip settings dialect client debug lap =
      (fun builder => { builder }) <$> Builder.create dialect client debug lap := by
  unfold equip
  rw [Value.write_of_isWritable (database_of_reach h)]
  show Builder.create dialect client debug lap >>= _ = _
  cases Builder.create dialect client debug lap <;> rfl

end Reach

/-- Where the address is understood, a driver or a connection raises an error by itself. -/
def Raises : Prop :=
  ∃ settings dialect, address.understood registry = .ok (settings, dialect) ∧
    RaisesAt drivers settings dialect

/-- Where the address is understood, a number is too long for a text that is written on the way or,
once the database is reached, for the refusal of the debug mode. -/
def Unwritten : Prop :=
  ∃ settings dialect, address.understood registry = .ok (settings, dialect) ∧
    (UnwrittenAt drivers settings dialect ∨
      (∃ client, (reach drivers settings dialect).outcome {} = .ok client) ∧
        debug.isWritable = false)

/-- Connecting fails with faults of the toolkit only, and with faults of connections where a driver
or a session failed. -/
def FailsWithin : Prop :=
  ∀ fault, (address.connect registry drivers debug lap).outcome {} = .error fault →
    fault.isToolkit = true ∧
      ∀ settings dialect cause, address.understood registry = .ok (settings, dialect) →
        (reach drivers settings dialect).outcome {} = .error cause → fault.isConnection = true

variable {address registry drivers debug lap}

theorem connect_of_unwritten (h : address.Unwritten registry drivers debug) :
    (address.connect registry drivers debug lap).outcome {} = .error .badValue := by
  obtain ⟨settings, dialect, hplace, h⟩ := h
  rw [outcome_connect, hplace]
  show (reach drivers settings dialect).outcome {} >>= _ = _
  rcases h with hat | ⟨⟨client, hreach⟩, hdebug⟩
  · rw [reach_of_unwritten hat]
    rfl
  · rw [hreach]
    show equip settings dialect client debug lap = _
    rw [equip_of_reach debug lap hreach]
    unfold Builder.create
    rw [DebugMode.ofValue_of_not_isWritable hdebug]
    rfl

theorem connect_of_raises (hwritten : ¬ address.Unwritten registry drivers debug)
    (h : address.Raises registry drivers) : ∃ message,
    (address.connect registry drivers debug lap).outcome {} = .error (.driver message) := by
  obtain ⟨settings, dialect, hplace, hat⟩ := h
  have hwrittenAt : ¬ UnwrittenAt drivers settings dialect := fun hat =>
    hwritten ⟨settings, dialect, hplace, .inl hat⟩
  obtain ⟨message, hreach⟩ := reach_of_raises hwrittenAt hat
  refine ⟨message, ?_⟩
  rw [outcome_connect, hplace]
  show (reach drivers settings dialect).outcome {} >>= _ = _
  rw [hreach]
  rfl

theorem failsWithin_of_sound (hwritten : ¬ address.Unwritten registry drivers debug)
    (hsound : ¬ address.Raises registry drivers) :
    address.FailsWithin registry drivers debug lap := by
  intro fault h
  rw [outcome_connect] at h
  cases hplace : address.understood registry with
  | error cause =>
    rw [hplace] at h
    cases h
    exact ⟨understood_refuses hplace, nofun⟩
  | ok place =>
    obtain ⟨settings, dialect⟩ := place
    rw [hplace] at h
    change (reach drivers settings dialect).outcome {} >>= _ = _ at h
    have hwrittenAt : ¬ UnwrittenAt drivers settings dialect := fun hat =>
      hwritten ⟨settings, dialect, hplace, .inl hat⟩
    have hsoundAt : ¬ RaisesAt drivers settings dialect := fun hat =>
      hsound ⟨settings, dialect, hplace, hat⟩
    cases hreach : (reach drivers settings dialect).outcome {} with
    | error cause =>
      rw [hreach] at h
      cases h
      have htold := isConnection_of_reach hwrittenAt hsoundAt hreach
      exact ⟨isToolkit_of_isConnection htold, fun _ _ _ _ _ => htold⟩
    | ok client =>
      rw [hreach] at h
      change equip settings dialect client debug lap = _ at h
      rw [equip_of_reach debug lap hreach] at h
      refine ⟨?_, fun _ _ _ hsame hfailed => ?_⟩
      · have hdebug : debug.isWritable = true := by
          cases hdebug : debug.isWritable with
          | true => rfl
          | false =>
            exact absurd ⟨settings, dialect, hplace, .inr ⟨⟨client, hreach⟩, hdebug⟩⟩ hwritten
        cases hcreate : Builder.create dialect client debug lap with
        | ok builder =>
          rw [hcreate] at h
          cases h
        | error cause =>
          rw [hcreate] at h
          cases h
          exact Builder.create_refuses hdebug hcreate
      · cases hsame
        cases hreach.symm.trans hfailed

variable (address registry drivers debug lap)

/-- **Connecting fails within the toolkit's faults except in two cases.** Whatever the address, the
debug mode, the drivers and the connections do, every failure is told as a fault of the toolkit, and
as one of connections where the driver, the connection or its session failed: except if a number is
too long for a text that has to be written, or if the driver for files raises an error that is none
of its own, or a statement that sets up the session is refused, or its commit is. Then connecting
fails with a bad value, or with what was raised there. -/
theorem connect_fails_within_iff :
    (address.FailsWithin registry drivers debug lap ↔
        ¬ address.Unwritten registry drivers debug ∧ ¬ address.Raises registry drivers) ∧
      (address.Unwritten registry drivers debug →
        (address.connect registry drivers debug lap).outcome {} = .error .badValue) ∧
      (¬ address.Unwritten registry drivers debug → address.Raises registry drivers → ∃ message,
        (address.connect registry drivers debug lap).outcome {} = .error (.driver message)) := by
  refine ⟨⟨fun hwithin => ?_, fun ⟨hwritten, hsound⟩ => failsWithin_of_sound hwritten hsound⟩,
    connect_of_unwritten, connect_of_raises⟩
  have hwritten : ¬ address.Unwritten registry drivers debug := fun hunwritten =>
    nomatch (hwithin _ (connect_of_unwritten hunwritten)).1
  refine ⟨hwritten, fun hraises => ?_⟩
  obtain ⟨message, hmessage⟩ := connect_of_raises hwritten hraises
  cases (hwithin _ hmessage).1

/-- An Oracle server that refuses the statement for a session. -/
def refusingOracle : Address := .url "oracle://u:p@h/db"

def refusingOracleDrivers (_ : Driver) : Availability Scripted :=
  .opens { responses := [{ failure := some "ORA-01031" }] }

def refusingOracleSettings : Settings :=
  { driver := .text "oracle", host := .text "h", user := .text "u", password := .text "p",
    database := .text "db" }

theorem written_refusingOracle :
    ¬ UnwrittenAt refusingOracleDrivers refusingOracleSettings .oracle := by
  rintro (⟨-, hnot⟩ | ⟨-, hnot⟩)
  · exact hnot (OdbcString.spellable_oracle _ _ _ _ _)
  · exact hnot ⟨rfl, rfl⟩

/-- The refusal is not told as a failure to connect, nor as a fault of the toolkit at all. -/
theorem connect_passes_on_refused_session :
    (refusingOracle.connect Registry.standard refusingOracleDrivers (.bool false) {}).outcome {} =
        .error (.driver "ORA-01031") ∧
      (reach refusingOracleDrivers
        { driver := .text "oracle", host := .text "h", user := .text "u", password := .text "p",
          database := .text "db" } .oracle).outcome {} = .error (.driver "ORA-01031") ∧
      (Fault.driver "ORA-01031").isToolkit = false ∧
      ¬ refusingOracle.FailsWithin Registry.standard refusingOracleDrivers (.bool false) {} := by
  have hplace : refusingOracle.understood Registry.standard =
      .ok (refusingOracleSettings, .oracle) := rfl
  have hreach : (reach refusingOracleDrivers refusingOracleSettings .oracle).outcome {} =
      .error (.driver "ORA-01031") :=
    (outcome_reach_of_written written_refusingOracle).trans rfl
  have hconnect : (refusingOracle.connect Registry.standard refusingOracleDrivers (.bool false)
      {}).outcome {} = .error (.driver "ORA-01031") := by
    rw [outcome_connect, hplace]
    show (reach refusingOracleDrivers refusingOracleSettings .oracle).outcome {} >>= _ = _
    rw [hreach]
    rfl
  exact ⟨hconnect, hreach, rfl, fun hwithin => nomatch (hwithin _ hconnect).1⟩

end Address

end SqlToolkit
