import Fieldbook.Number.Basic

/-!
# JSON values

A `Json` value as the stored form of the model uses it: numbers are `Number`s, and the members
of an object keep their order.
-/

namespace Fieldbook

inductive Json where
  | null
  | bool (value : Bool)
  | number (value : Number)
  | string (value : String)
  | array (items : List Json)
  | object (members : List (String × Json))

namespace Json

def member? (key : String) : Json → Option Json
  | object members => members.lookup key
  | _ => none

def string? : Json → Option String
  | string s => some s
  | _ => none

def bool? : Json → Option Bool
  | bool b => some b
  | _ => none

/-- The items of an array, each read by `read`; all of them must be readable. -/
def array? {α : Type} (read : Json → Option α) : Json → Option (List α)
  | array items => items.mapM read
  | _ => none

def object? {α : Type} (read : Json → Option α) : Json → Option (List (String × α))
  | object members => members.mapM fun (key, value) => (read value).map (key, ·)
  | _ => none

/-- Nothing for null or a missing member, otherwise what `read` reads. -/
def optional? {α : Type} (read : Json → Option α) : Option Json → Option (Option α)
  | none | some null => some none
  | some value => (read value).map some

def required? {α : Type} (read : Json → Option α) (key : String) (json : Json) : Option α :=
  json.member? key >>= read

def requiredString? (key : String) (json : Json) : Option String := required? string? key json

def ofStrings (items : List String) : Json := array (items.map string)

def ofOption : Option String → Json
  | some s => string s
  | none => null

end Json

end Fieldbook
