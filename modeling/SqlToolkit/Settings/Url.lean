import SqlToolkit.Settings.Basic
import SqlToolkit.Settings.PercentText

/-!
# Connection URLs

`driver://[user[:password]@]host[:port][/database][?charset=..&odbc_driver=..]`. The user ends at
the first colon, the host begins after the last `@`, and its port after the last colon. User,
password and database are percent-encoded. A URL for SQLite has the path of the file after the
scheme.
-/

namespace SqlToolkit.Settings

open SqlToolkit.Text

/-- The text before the first occurrence of a character and the text after it, if it occurs. -/
def before (separator : Char) (chars : List Char) : List Char × Option (List Char) :=
  match cutAtChar? separator chars with
  | some (front, back) => (front, some back)
  | none => (chars, none)

def credentials (chars : List Char) : List Char × List Char :=
  let (user, password) := before ':' chars
  (user, password.getD [])

def hostAndPort (chars : List Char) : List Char × Option (List Char) :=
  match cutAtLastChar? ':' chars with
  | some (host, port) => (host, some port)
  | none => (chars, none)

def ofFilePath (driver : String) (path : List Char) : Settings :=
  let database := String.ofList (match path with | '/' :: rest => rest | path => path)
  { driver := .text driver
    host := .text ""
    database := .text (if database.isEmpty then ":memory:" else database) }

/-- A text that is percent-encoded, as a value. -/
def decoded (chars : List Char) : Value := .text (String.ofList (PercentText.decodeChars chars))

def option (options : List (String × String)) (name : String) : Value :=
  ((Entries.get? name options).map Value.text).getD .null

/-- The settings that the text after the scheme gives, the query left out. -/
def ofServer (driver : String) (location : List Char) (options : List (String × String)) :
    Attempt Settings := do
  let (user, password, server) :=
    match cutAtLastChar? '@' location with
    | some (login, server) => ((credentials login).1, (credentials login).2, server)
    | none => ([], [], location)
  let (address, database) := before '/' server
  let (host, port) := hostAndPort address
  let port ← parsePort ((port.map fun spelled => Value.text (String.ofList spelled)).getD .null)
  return {
    driver := .text driver
    host := .text (if host.isEmpty then "localhost" else String.ofList host)
    port
    database := decoded (database.getD [])
    user := decoded user
    password := decoded password
    charset := option options "charset"
    odbcDriver := option options "odbc_driver"
  }

def ofUrl (url : String) : Attempt Settings :=
  match cutAt? (dropText? "://".toList) url.toList with
  | none => .error (.parameter (.notAUrl url))
  | some (scheme, rest) =>
    let driver := String.ofList scheme
    let (location, query) := before '?' rest
    if lower driver == "sqlite" then .ok (ofFilePath driver location)
    else ofServer driver location (PercentText.parameters (query.getD []))

end SqlToolkit.Settings
