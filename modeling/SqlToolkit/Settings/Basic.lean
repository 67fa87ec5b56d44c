import SqlToolkit.Entries
import SqlToolkit.Fault
import SqlToolkit.Value.Binding

/-!
# Connection settings

Where to connect, and as whom. Settings are given one by one, read from environment variables, or
read from a URL (`SqlToolkit.Settings.Url`). They are values, because a setting goes to the driver
as it was given. Their text never shows the password.
-/

namespace SqlToolkit

open SqlToolkit.Text

structure Settings where
  driver : Value
  host : Value := .text "localhost"
  port : Value := .null
  database : Value := .text ""
  user : Value := .text ""
  password : Value := .text ""
  charset : Value := .null
  odbcDriver : Value := .null
  deriving Repr

namespace Settings

/-- The port that a value gives, a whole number or null; null and a blank text give none. -/
def parsePort : Value → Attempt Value
  | .null => .ok .null
  | port => do
    let written ← port.write Value.display
    if isBlankText written then return .null
    match port.toInteger with
    | .ok number => return .int number
    | .error .badValue => throw (.parameter (.badPort written))
    | .error fault => throw fault

/-- A setting, or the given value if it counts as false. -/
def orElse (setting default : Value) : Value := if setting.truthy then setting else default

/-- The name of a driver; only a text is one. -/
def driverName : Value → Attempt String
  | .text name => .ok name
  | _ => .error .missingAttribute

/-- Settings from environment variables whose names begin with `mark`. -/
def ofEnvironment (environment : List (String × Value)) (mark : String := "DB_") :
    Attempt Settings := do
  let read (name : String) (default : Value) : Value :=
    (Entries.get? (mark ++ name) environment).getD default
  let driver := trim (← driverName (read "DRIVER" (.text "")))
  if driver.isEmpty then throw (.parameter (.driverNotSet (mark ++ "DRIVER")))
  return {
    driver := .text driver
    host := read "HOST" (.text "localhost")
    port := ← parsePort (read "PORT" .null)
    database := read "NAME" (.text "")
    user := read "USER" (.text "")
    password := read "PASS" (.text "")
    charset := orElse (read "CHARSET" .null) .null
    odbcDriver := orElse (read "ODBC_DRIVER" .null) .null
  }

/-- The settings that their text shows. The password is none of them. -/
def shownFields (settings : Settings) : List (String × Value) :=
  [("driver", settings.driver), ("host", settings.host), ("port", settings.port),
    ("database", settings.database), ("user", settings.user), ("charset", settings.charset),
    ("odbc_driver", settings.odbcDriver)]

def shown (settings : Settings) : String :=
  "ConnectionSettings("
    ++ Value.commaJoined (settings.shownFields.map fun field => field.1 ++ "=" ++ field.2.shown)
    ++ ")"

/-- The text of the settings, if all that it shows can be written. -/
def write (settings : Settings) : Attempt String :=
  if settings.shownFields.all fun field => field.2.isWritable then .ok settings.shown
  else .error .badValue

/-- The password is not part of the text. -/
theorem write_password (settings : Settings) (password : Value) :
    write { settings with password } = write settings := rfl

end Settings

end SqlToolkit
