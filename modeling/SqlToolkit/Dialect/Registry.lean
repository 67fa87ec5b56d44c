import SqlToolkit.Dialect.Basic
import SqlToolkit.Entries
import SqlToolkit.Text.Scan

/-!
# The register of dialects

Which dialect a driver name stands for. Names are looked up without the blanks around them and in
small letters. A name may be registered anew; it then keeps its place in the list.
-/

namespace SqlToolkit

open SqlToolkit.Text

/-- Driver names with their dialects, in the order of registration. -/
abbrev Registry := List (String × Dialect)

namespace Registry

def standard : Registry :=
  [("mysql", .mysql), ("mariadb", .mysql), ("pgsql", .postgresql), ("postgresql", .postgresql),
   ("postgres", .postgresql), ("oci", .oracle), ("oracle", .oracle), ("firebird", .firebird),
   ("sqlite", .sqlite)]

def key (driver : String) : String := lower (trim driver)

def dialect? (registry : Registry) (driver : String) : Option Dialect :=
  Entries.get? (key driver) registry

/-- The dialect of a driver name; an unknown name is a fault. -/
def dialect (registry : Registry) (driver : String) : Attempt Dialect :=
  match registry.dialect? driver with
  | some dialect => .ok dialect
  | none => .error (.unsupportedDriver driver)

def supports (registry : Registry) (driver : String) : Bool := (registry.dialect? driver).isSome

def names (registry : Registry) : List String := Entries.keys registry

/-- Registers a dialect under a name in small letters; blanks in the name are kept. -/
def register (registry : Registry) (driver : String) (dialect : Dialect) : Registry :=
  Entries.insert (lower driver) dialect registry

end Registry

end SqlToolkit
