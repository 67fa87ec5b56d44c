import Mathlib.Data.List.Forall2
import SqlToolkit.Connect
import SqlToolkit.Connection.Scripted
import SqlToolkit.Proofs.Settings.OdbcGrammar
import SqlToolkit.Proofs.TwoRuns

/-!
# What can be told of a password

Two runs of connecting whose settings differ in the password only are followed side by side. The
password is handed over where a connection is asked for, as a value of its own or as one attribute
of a connection string, and nowhere else: whatever the drivers and the connections do, both runs log
the same, end the same way, and make the same calls up to the password in that one place.
-/

namespace SqlToolkit

open SqlToolkit.Action (Agree Respects EndAlike)

/-! ## Connection strings -/

namespace OdbcString

theorem given_append (front back : Value.Entries) :
    given (front ++ back) = given front ++ given back := by
  unfold given
  rw [List.filter_append, List.map_append]

theorem bareText_append (front back : List (String × String)) :
    bareText (front ++ back) = bareText front ++ bareText back :=
  List.flatMap_append

/-- The attribute of a password, with a semicolon before it; an empty password has none. -/
def passwordText (password : Value) : String :=
  if password.isUnset then "" else ";PWD=" ++ password.display

theorem toList_passwordText (password : Value) :
    (passwordText password).toList = bareText (given [(.text "PWD", password)]) := by
  unfold passwordText given bareText
  cases hunset : password.isUnset <;> simp [hunset]

/-- Around the attribute of a password a connection string is the same for every password. -/
theorem build_password (driver : String) (front back : Value.Entries) (password : Value) :
    build ((.text "DRIVER", .text ("\x7b" ++ driver ++ "\x7d")) ::
        (front ++ (.text "PWD", password) :: back)) =
      build ((.text "DRIVER", .text ("\x7b" ++ driver ++ "\x7d")) :: front)
        ++ passwordText password ++ String.ofList (bareText (given back)) := by
  have hparts : bareText (given (front ++ (.text "PWD", password) :: back)) =
      bareText (given front) ++ bareText (given [(.text "PWD", password)])
        ++ bareText (given back) := by
    rw [← List.singleton_append, given_append, given_append, bareText_append, bareText_append,
      List.append_assoc]
  have hall := (List.cons.inj (toList_build driver (front ++ (.text "PWD", password) :: back))).2
  have hfront := (List.cons.inj (toList_build driver front)).2
  rw [← String.toList_inj, String.toList_append, String.toList_append, String.toList_ofList, hall,
    hfront, hparts, toList_passwordText]
  simp

end OdbcString

namespace Connecting

variable {σ : Type} {password password' : Value}

/-! ## Calls -/

/-- The calls are the same, or both ask for a connection: with the same values but for that of the
password, or with the same connection string but for the attribute of the password. -/
inductive SameButPassword (password password' : Value) : OpeningCall → OpeningCall → Prop where
  | same (call : OpeningCall) : SameButPassword password password' call call
  | value (driver : Driver) (positional : List Value) (front back : List (String × Value)) :
    SameButPassword password password'
      (.open driver positional (front ++ ("password", password) :: back))
      (.open driver positional (front ++ ("password", password') :: back))
  | attribute (front back : String) (named : List (String × Value)) :
    SameButPassword password password'
      (.open .odbc [.text (front ++ OdbcString.passwordText password ++ back)] named)
      (.open .odbc [.text (front ++ OdbcString.passwordText password' ++ back)] named)

/-- Where an ODBC driver is asked, both passwords or none can be written. A text always can. -/
def WrittenAlike (settings : Settings) (password : Value) (dialect : Dialect) : Prop :=
  Driver.ofDialect dialect = .odbc → settings.password.isWritable = password.isWritable

theorem spellable_password {settings : Settings} {dialect : Dialect}
    (h : settings.password.isWritable = password.isWritable) :
    OdbcString.Spellable settings dialect ↔
      OdbcString.Spellable { settings with password } dialect := by
  have hothers :
      (∀ entry ∈ OdbcString.others settings dialect, entry.2.isWritable = true) ↔
        ∀ entry ∈ OdbcString.others { settings with password } dialect,
          entry.2.isWritable = true := by
    cases dialect <;> simp only [OdbcString.others, List.forall_mem_cons, h] <;> exact Iff.rfl
  exact ⟨fun hs => ⟨hs.driver, hs.host, hs.port, hs.database, hothers.mp hs.others⟩,
    fun hs => ⟨hs.driver, hs.host, hs.port, hs.database, hothers.mpr hs.others⟩⟩

/-- The string is the same but for the attribute of the password. -/
theorem connectionText_password (settings : Settings) (password : Value) {dialect : Dialect}
    (hodbc : Driver.ofDialect dialect = .odbc) : ∃ front back,
    OdbcString.connectionText settings dialect =
        front ++ OdbcString.passwordText settings.password ++ back ∧
      OdbcString.connectionText { settings with password } dialect =
        front ++ OdbcString.passwordText password ++ back := by
  cases dialect with
  | oracle =>
    exact ⟨_, _, OdbcString.build_password _ [_, (.text "UID", settings.user)] [] _,
      OdbcString.build_password _ [_, (.text "UID", settings.user)] [] _⟩
  | firebird =>
    exact ⟨_, _, OdbcString.build_password _ [_, (.text "UID", settings.user)] [_] _,
      OdbcString.build_password _ [_, (.text "UID", settings.user)] [_] _⟩
  | mysql => cases hodbc
  | postgresql => cases hodbc
  | sqlite => cases hodbc

/-- Every dialect hands the password over in one place, or asks for nothing in either run. -/
theorem openCall_password {settings : Settings} {dialect : Dialect}
    (halike : WrittenAlike settings password dialect) :
    (∃ call call', openCall settings dialect = .ok call ∧
        openCall { settings with password } dialect = .ok call' ∧
        SameButPassword settings.password password call call') ∨
      ∃ fault, openCall settings dialect = .error fault ∧
        openCall { settings with password } dialect = .error fault := by
  by_cases hodbc : Driver.ofDialect dialect = .odbc
  · have hspellable := @spellable_password password settings dialect (halike hodbc)
    have hwrites := OdbcString.openCall_writes settings hodbc
    have hwrites' := OdbcString.openCall_writes { settings with password } hodbc
    by_cases h : OdbcString.Spellable settings dialect
    · obtain ⟨front, back, htext, htext'⟩ := connectionText_password settings password hodbc
      refine .inl ⟨_, _, hwrites.written h, hwrites'.written (hspellable.mp h), ?_⟩
      rw [htext, htext']
      exact .attribute front back _
    · exact .inr ⟨_, hwrites.refused h, hwrites'.refused (h ∘ hspellable.mpr)⟩
  · cases dialect with
    | mysql =>
      exact .inl ⟨_, _, rfl, rfl, .value .mysql [] [("host", settings.host),
        ("port", settings.portFor .mysql), ("user", settings.user)] _⟩
    | postgresql =>
      exact .inl ⟨_, _, rfl, rfl, .value .postgresql [] [("host", settings.host),
        ("port", settings.portFor .postgresql), ("user", settings.user)] _⟩
    | sqlite => exact .inl ⟨_, _, rfl, rfl, .same _⟩
    | oracle | firebird => exact absurd rfl hodbc

/-! ## Steps -/

/-- Nothing but the password in the calls tells the two apart. -/
structure Indistinct (password password' : Value) (opening opening' : Opening) : Prop where
  log : opening.log = opening'.log
  details : opening.details = opening'.details
  calls : List.Forall₂ (SameButPassword password password') opening.calls opening'.calls

theorem Indistinct.refl (password password' : Value) (opening : Opening) :
    Indistinct password password' opening opening :=
  ⟨rfl, rfl, List.forall₂_same.mpr fun call _ => .same call⟩

theorem record_agree {calls calls' : List OpeningCall}
    (h : List.Forall₂ (SameButPassword password password') calls calls') :
    Agree (Indistinct password password') (record calls) (record calls') :=
  Agree.modify fun _ _ hs => ⟨hs.log, hs.details, List.rel_append hs.calls h⟩

theorem record_respects (calls : List OpeningCall) :
    Respects (Indistinct password password') (record calls) :=
  record_agree (List.forall₂_same.mpr fun call _ => .same call)

theorem note_respects (event : LogEvent) :
    Respects (Indistinct password password') (note event) :=
  Agree.modify fun _ _ hs => ⟨congrArg (· ++ [event]) hs.log, hs.details, hs.calls⟩

theorem explain_respects (lines : List String) :
    Respects (Indistinct password password') (explain lines) :=
  Agree.modify fun _ _ hs => ⟨hs.log, congrArg (· ++ lines) hs.details, hs.calls⟩

theorem findDialect_respects (registry : Registry) (driver : String) :
    Respects (Indistinct password password') (findDialect registry driver) := by
  unfold findDialect
  cases registry.dialect driver with
  | ok dialect => exact Respects.pure dialect
  | error fault => exact (note_respects _).bind fun _ => Respects.throw fault

/-- The two runs ask for a connection in the same way, and what comes of it does not depend on the
password. -/
theorem openConnection_agree (drivers : Driver → Availability σ) {settings : Settings}
    {dialect : Dialect} (halike : WrittenAlike settings password dialect) :
    Agree (Indistinct settings.password password) (openConnection drivers settings dialect)
      (openConnection drivers { settings with password } dialect) := by
  unfold openConnection
  dsimp only
  rcases openCall_password halike with ⟨call, call', hok, hok', hcall⟩
    | ⟨fault, hrefused, hrefused'⟩
  · rw [hok, hok', Action.ofAttempt_ok_bind, Action.ofAttempt_ok_bind]
    cases drivers (Driver.ofDialect dialect) with
    | missing => exact Respects.throw _
    | refuses reason => exact (record_agree (.cons hcall .nil)).bind fun _ => Respects.throw _
    | breaks reason => exact (record_agree (.cons hcall .nil)).bind fun _ => Respects.throw _
    | opens connection encodingRefusal =>
      -- neither the encoding nor the line of the log depends on the password
      have hencoding : encodingCalls { settings with password } dialect =
          encodingCalls settings dialect := rfl
      have hevent : connectedEvent { settings with password } dialect =
          connectedEvent settings dialect := by cases dialect <;> rfl
      rw [hencoding, hevent]
      refine (record_agree (.cons hcall (List.forall₂_same.mpr fun call _ => .same call))).bind
        fun _ => ?_
      split
      · exact Respects.throw _
      · exact (Respects.ofAttempt _).bind fun event =>
          (note_respects event).bind fun _ => Respects.pure connection
  · rw [hrefused, hrefused']
    exact Respects.throw fault

variable [Connection σ]

/-- A session is set up without the settings. -/
theorem clientFor_respects (dialect : Dialect) (connection : σ) :
    Respects (Indistinct password password') (clientFor dialect connection) :=
  (record_respects _).bind fun _ => (explain_respects _).bind fun _ =>
    (Respects.ofAttempt _).bind fun _ => Respects.pure _

omit [Connection σ] in
theorem outcome_findDialect (registry : Registry) (driver : String) (opening : Opening) :
    (findDialect registry driver).outcome opening = registry.dialect driver := by
  unfold findDialect
  cases registry.dialect driver <;> rfl

omit [Connection σ] in
theorem eq_text_of_driverName {driver : Value} {name : String}
    (h : Settings.driverName driver = .ok name) : driver = .text name := by
  cases driver with
  | text content =>
    cases h
    rfl
  | _ => cases h

theorem connect_endAlike (registry : Registry) (drivers : Driver → Availability σ)
    {settings : Settings} (debug : Value) (lap : Duration)
    (halike : ∀ name dialect, settings.driver = .text name → registry.dialect name = .ok dialect →
      WrittenAlike settings password dialect) {opening opening' : Opening}
    (hs : Indistinct settings.password password opening opening') :
    EndAlike (Indistinct settings.password password) (connect registry drivers settings debug lap)
      (connect registry drivers { settings with password } debug lap) opening opening' := by
  have hnamed := Respects.ofAttempt (Settings.driverName settings.driver) opening opening' hs
  refine hnamed.bind fun driver hdriver _ => ?_
  rw [Action.outcome_ofAttempt] at hdriver
  have hfound := findDialect_respects registry driver _ _ hnamed.after
  refine hfound.bind fun dialect hdialect _ => ?_
  rw [outcome_findDialect] at hdialect
  have hopened := openConnection_agree drivers
    (halike driver dialect (eq_text_of_driverName hdriver) hdialect)
  refine (hopened.bind fun connection => (clientFor_respects dialect connection).bind
    fun client => ?_) _ _ hfound.after
  exact (Respects.ofAttempt _).bind fun _ => (explain_respects _).bind fun _ =>
    (Respects.ofAttempt _).bind fun _ => Respects.pure _

/-! ## Runs -/

/-- **A password is told to the driver only.** Whatever the settings, the registered dialects, the
debug mode, the drivers and the connections are, connecting with another password logs the same
lines, those for developers included, ends with the same facade or with the same fault, and makes
the same calls except for the password itself. The settings have the same text. A password may be
any text, and any other value if no ODBC driver is asked; in the string for one it has to be as
writable as the other. -/
theorem connect_hides_password (registry : Registry) (drivers : Driver → Availability σ)
    (settings : Settings) (password debug : Value) (lap : Duration)
    (halike : ∀ name dialect, settings.driver = .text name → registry.dialect name = .ok dialect →
      WrittenAlike settings password dialect) :
    let run := connect registry drivers settings debug lap
    let run' := connect registry drivers { settings with password } debug lap
    (run.after {}).log = (run'.after {}).log ∧
      (run.after {}).details = (run'.after {}).details ∧
      run.outcome {} = run'.outcome {} ∧
      List.Forall₂ (SameButPassword settings.password password) (run.after {}).calls
        (run'.after {}).calls ∧
      settings.write = { settings with password }.write := by
  intro run run'
  have h : EndAlike (Indistinct settings.password password) run run' {} {} :=
    connect_endAlike registry drivers debug lap halike (Indistinct.refl _ _ _)
  exact ⟨h.after.log, h.after.details, h.outcome, h.after.calls,
    (Settings.write_password settings password).symm⟩

/-- An Oracle server is asked with one password and with another one. -/
theorem connect_hides_password_tiger :
    let settings : Settings :=
      { driver := .text "oci", host := .text "ora", database := .text "XE", user := .text "scott",
        password := .text "tiger" }
    let run (password : String) : Action Opening (Facade Scripted) :=
      connect Registry.standard (fun _ => .opens {}) { settings with password := .text password }
        (.bool false) {}
    (∀ name dialect, settings.driver = .text name →
        Registry.standard.dialect name = .ok dialect →
          WrittenAlike settings (.text "lion") dialect) ∧
      ((run "tiger").after {}).log = ((run "lion").after {}).log ∧
      (run "tiger").outcome {} = (run "lion").outcome {} := by
  intro settings run
  have halike (name : String) (dialect : Dialect) (_ : settings.driver = .text name)
      (_ : Registry.standard.dialect name = .ok dialect) :
      WrittenAlike settings (.text "lion") dialect := fun _ => rfl
  obtain ⟨hlog, -, houtcome, -, -⟩ := connect_hides_password Registry.standard
    (fun _ => .opens ({} : Scripted)) settings (.text "lion") (.bool false) {} halike
  exact ⟨halike, hlog, houtcome⟩

end Connecting

end SqlToolkit
