import Fieldbook.View.Basic

/-!
# Tables

A `Table` has fields, rows and saved views.  What is looked up by id or name is the first that
has it.
-/

namespace Fieldbook

structure Table where
  id : String
  name : String
  fields : List Field
  rows : List Row
  views : List View
deriving DecidableEq

namespace Table

def field? (t : Table) (id : String) : Option Field := Field.withId? t.fields id

def fieldNamed? (t : Table) (name : String) : Option Field := Field.withName? t.fields name

def requireField (t : Table) (name : String) : Except ModelError Field :=
  match t.fieldNamed? name with
  | some f => .ok f
  | none => .error (.fieldNotFound name)

def row? (t : Table) (id : String) : Option Row := t.rows.find? (·.id == id)

def view? (t : Table) (id : String) : Option View := t.views.find? (·.id == id)

/-! ### Changing a table -/

def addField (t : Table) (f : Field) : Table := { t with fields := t.fields ++ [f] }

def dropField (t : Table) (id : String) : Table :=
  { t with fields := t.fields.filter (·.id != id) }

def addRow (t : Table) (r : Row) : Table := { t with rows := t.rows ++ [r] }

def dropRow (t : Table) (id : String) : Table := { t with rows := t.rows.filter (·.id != id) }

def addView (t : Table) (v : View) : Table := { t with views := t.views ++ [v] }

/-- Rows with the first that has an id replaced. -/
def updateRow (id : String) (change : Row → Row) : List Row → List Row
  | [] => []
  | r :: rest => if r.id = id then change r :: rest else r :: updateRow id change rest

def setCell (t : Table) (row field : String) (value : Cell) : Table :=
  { t with rows := updateRow row (·.setCell field value) t.rows }

end Table

end Fieldbook
