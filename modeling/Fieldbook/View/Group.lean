import Fieldbook.Row

/-!
# Grouping

A `Group` collects what has one key.  `Group.collect` goes once through a list and puts each item
into the group of its key, starting a new group at the end where the key is new.
-/

namespace Fieldbook

structure Group (α : Type) where
  key : String
  items : List α

namespace Group

variable {α β : Type}

/-- An item put into the group of its key, or into a new last group. -/
def add (key : String) (item : α) : List (Group α) → List (Group α)
  | [] => [⟨key, [item]⟩]
  | g :: rest =>
    if g.key = key then { g with items := g.items ++ [item] } :: rest
    else g :: add key item rest

/-- **Items grouped by a key**, in order of the first item of each group. -/
def collect (key : α → String) (items : List α) : List (Group α) :=
  items.foldl (fun groups item => add (key item) item groups) []

def map (f : α → β) (g : Group α) : Group β := ⟨g.key, g.items.map f⟩

end Group

def uncategorized : String := "Uncategorized"

namespace Row

/-- **The key of a row**: the text of its cell, or a common key where the cell is false. -/
def groupKey (r : Row) (field : String) : String :=
  let cell := r.cell field
  if cell.isFalsy then uncategorized else cell.display

def group (field : String) (rows : List Row) : List (Group Row) :=
  Group.collect (·.groupKey field) rows

end Row

end Fieldbook
