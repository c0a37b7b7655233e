import Fieldbook.Table

/-!
# Databases and registries

A `Registry` finds tables by id; links between tables are followed through one.  A `Database`
is a list of tables that takes in a table only if its id is new.
-/

namespace Fieldbook

abbrev Registry := String → Option Table

namespace Registry

/-- The registry of a list of tables: the first with the id. -/
def ofTables (tables : List Table) : Registry := fun id => tables.find? (·.id == id)

def ofKeyed (tables : Keyed Table) : Registry := tables.get?

end Registry

/-- Tables kept under their ids; of two with one id the later stays. -/
def Keyed.ofTables (tables : List Table) : Keyed Table := .ofList (tables.map fun t => (t.id, t))

structure Database where
  tables : List Table
deriving DecidableEq

namespace Database

def empty : Database := ⟨[]⟩

def registry (db : Database) : Registry := .ofTables db.tables

/-- **Adding a table.**  A table whose id is present already is refused. -/
def addTable (db : Database) (t : Table) : Except ModelError Database :=
  if db.tables.any (·.id == t.id) then .error (.duplicateTable t.id)
  else .ok ⟨db.tables ++ [t]⟩

def get (db : Database) (id : String) : Except ModelError Table :=
  match db.registry id with
  | some t => .ok t
  | none => .error (.tableNotFound id)

end Database

end Fieldbook
