import Fieldbook.Database
import Fieldbook.Json.Basic
import Fieldbook.Time.Timestamp

/-!
# The stored form of the model

Every type of the model is written as JSON by `toJson` and read back by `ofJson?`.  Cells and hidden
fields are kept without an order: `toJson` writes them by key, `toJsonWith` in the order it is given.
Reading ignores members that it does not know; a missing member or one of the wrong type makes it
fail, except where a member may be left out.  A cell has no tag: each kind of cell is its own kind of
JSON value.  A field type has the tag `type` with its settings beside it.
-/

namespace Fieldbook

open Json (requiredString? required?)

namespace Cell

/-- A cell as JSON.  A number that is not finite has no form of its own and is written as nothing. -/
def toJson : Cell → Json
  | null => .null
  | bool b => .bool b
  | number n => if n.isFinite then .number n else .null
  | text s => .string s
  | list items => .ofStrings items

def ofJson? : Json → Option Cell
  | .null => some null
  | .bool b => some (bool b)
  | .number n => some (number n)
  | .string s => some (text s)
  | .array items => ((Json.array items).array? Json.string?).map list
  | .object _ => none

end Cell

namespace Instant

def toJson (i : Instant) : Json := .string (String.ofList i.exactText)

def ofJson? (json : Json) : Option Instant := json.string?.bind fun s => readStored? s.toList

end Instant

namespace Aggregation

def toJson (a : Aggregation) : Json := .string a.name

def ofJson? (json : Json) : Option Aggregation :=
  json.string?.bind fun s => (ofName s).toOption

end Aggregation

namespace FieldType

def tag : FieldType → String
  | text => "text"
  | number => "number"
  | checkbox => "checkbox"
  | select => "select"
  | multiSelect => "multi_select"
  | date => "date"
  | url => "url"
  | email => "email"
  | phone => "phone"
  | relation _ => "relation"
  | lookup _ => "lookup"
  | rollup _ => "rollup"
  | formula _ => "formula"
  | createdTime => "created_time"
  | lastEditedTime => "last_edited_time"

def plain : List FieldType :=
  [text, number, checkbox, select, multiSelect, date, url, email, phone, createdTime,
    lastEditedTime]

def lookupMembers (spec : LookupSpec) : List (String × Json) :=
  [("relation_field_id", .string spec.via), ("target_field_id", .string spec.target)]

def settings : FieldType → List (String × Json)
  | relation spec =>
    [("target_table_id", .string spec.targetTable),
      ("display_field_id", .ofOption spec.displayField),
      ("allow_multiple", .bool spec.multiple)]
  | lookup spec => lookupMembers spec
  | rollup spec => lookupMembers spec.source ++ [("aggregation", spec.aggregation.toJson)]
  | formula expression => [("expression", .string expression)]
  | _ => []

def toJson (t : FieldType) : Json := .object (("type", .string t.tag) :: t.settings)

def lookupOfJson? (json : Json) : Option LookupSpec := do
  let via ← json.requiredString? "relation_field_id"
  let target ← json.requiredString? "target_field_id"
  return { via, target }

def ofJson? (json : Json) : Option FieldType := do
  let tag ← json.requiredString? "type"
  match plain.find? (·.tag == tag) with
  | some t => return t
  | none =>
    match tag with
    | "relation" =>
      let targetTable ← json.requiredString? "target_table_id"
      let displayField ← Json.optional? Json.string? (json.member? "display_field_id")
      let multiple ← json.required? Json.bool? "allow_multiple"
      return relation { targetTable, displayField, multiple }
    | "lookup" => (lookupOfJson? json).map lookup
    | "rollup" =>
      let source ← lookupOfJson? json
      let aggregation ← json.required? Aggregation.ofJson? "aggregation"
      return rollup { source, aggregation }
    | "formula" => (json.requiredString? "expression").map formula
    | _ => none

end FieldType

namespace Field

def toJson (f : Field) : Json :=
  .object [("id", .string f.id), ("name", .string f.name), ("field_type", f.type.toJson)]

def ofJson? (json : Json) : Option Field := do
  let id ← json.requiredString? "id"
  let name ← json.requiredString? "name"
  let type ← json.required? FieldType.ofJson? "field_type"
  return { id, name, type }

end Field

namespace Row

/-- A row as JSON, with its cells in a given order. -/
def toJsonWith (r : Row) (cells : List (String × Cell)) : Json :=
  .object [("id", .string r.id),
    ("cells", .object (cells.map fun (key, cell) => (key, cell.toJson))),
    ("created_at", r.created.toJson), ("updated_at", r.updated.toJson)]

def toJson (r : Row) : Json := r.toJsonWith r.cells.entries

def ofJson? (json : Json) : Option Row := do
  let id ← json.requiredString? "id"
  let cells ← json.required? (Json.object? Cell.ofJson?) "cells"
  let created ← json.required? Instant.ofJson? "created_at"
  let updated ← json.required? Instant.ofJson? "updated_at"
  return { id, cells := .ofList cells, created, updated }

end Row

namespace Filter

def toJson (f : Filter) : Json :=
  .object [("field_id", .string f.field), ("operator", .string f.operator.name),
    ("value", .string f.value)]

def ofJson? (json : Json) : Option Filter := do
  let field ← json.requiredString? "field_id"
  let operator ← json.requiredString? "operator"
  let value ← json.requiredString? "value"
  return { field, operator := .ofName operator, value }

end Filter

namespace SortKey

def directionName : SortDirection → String
  | .ascending => "asc"
  | .descending => "desc"

def toJson (k : SortKey) : Json :=
  .object [("field_id", .string k.field), ("direction", .string (directionName k.direction))]

/-- The direction of a stored name, which has one spelling only. -/
def directionOfName? (name : String) : Option SortDirection :=
  [SortDirection.ascending, .descending].find? (directionName · == name)

def ofJson? (json : Json) : Option SortKey := do
  let field ← json.requiredString? "field_id"
  let direction ← json.requiredString? "direction" >>= directionOfName?
  return { field, direction }

end SortKey

namespace View

/-- A view as JSON, with its hidden fields in a given order. -/
def toJsonWith (v : View) (hidden : List String) : Json :=
  .object [("id", .string v.id), ("name", .string v.name),
    ("filters", .array (v.filters.map Filter.toJson)),
    ("sorts", .array (v.sorts.map SortKey.toJson)),
    ("group_by", .ofOption v.groupBy),
    ("hidden_fields", .ofStrings hidden),
    ("field_order", .ofStrings v.fieldOrder)]

def toJson (v : View) : Json := v.toJsonWith v.hiddenFields.keys

def ofJson? (json : Json) : Option View := do
  let id ← json.requiredString? "id"
  let name ← json.requiredString? "name"
  let filters ← json.required? (Json.array? Filter.ofJson?) "filters"
  let sorts ← json.required? (Json.array? SortKey.ofJson?) "sorts"
  let groupBy ← Json.optional? Json.string? (json.member? "group_by")
  let hidden ← json.required? (Json.array? Json.string?) "hidden_fields"
  let fieldOrder ← json.required? (Json.array? Json.string?) "field_order"
  return { id, name, filters, sorts, groupBy, hiddenFields := .ofNames hidden, fieldOrder }

end View

namespace Table

/-- A table as JSON, with the JSON of its rows and views. -/
def toJsonWith (t : Table) (rows views : List Json) : Json :=
  .object [("id", .string t.id), ("name", .string t.name),
    ("fields", .array (t.fields.map Field.toJson)), ("rows", .array rows), ("views", .array views)]

def toJson (t : Table) : Json := t.toJsonWith (t.rows.map Row.toJson) (t.views.map View.toJson)

def ofJson? (json : Json) : Option Table := do
  let id ← json.requiredString? "id"
  let name ← json.requiredString? "name"
  let fields ← json.required? (Json.array? Field.ofJson?) "fields"
  let rows ← json.required? (Json.array? Row.ofJson?) "rows"
  let views ← json.required? (Json.array? View.ofJson?) "views"
  return { id, name, fields, rows, views }

end Table

namespace Database

def toJson (db : Database) : Json := .object [("tables", .array (db.tables.map Table.toJson))]

/-- The database that JSON stands for; ids may repeat. -/
def ofJson? (json : Json) : Option Database :=
  (json.required? (Json.array? Table.ofJson?) "tables").map (⟨·⟩)

end Database

end Fieldbook
