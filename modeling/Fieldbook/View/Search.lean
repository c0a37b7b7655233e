import Fieldbook.Row
import Fieldbook.Text.Order

/-!
# Searching rows

A search looks for a text in every cell that a row stores, without regard to case.
-/

namespace Fieldbook

namespace Row

/-- Whether some stored cell contains the text, which is in lower case already. -/
def mentions (r : Row) (needle : List Char) : Bool :=
  r.cells.values.any fun cell => Text.occursIn needle (Text.lower cell.display.toList)

/-- **The items whose row a search finds**, in their order.  A blank query finds every row; otherwise
its blanks count. -/
def searchOn {α : Type} (row : α → Row) (query : String) (items : List α) : List α :=
  if Text.isBlankText query.toList then items
  else
    let needle := Text.lower query.toList
    items.filter fun a => (row a).mentions needle

def search (query : String) (rows : List Row) : List Row := searchOn (fun r => r) query rows

end Row

end Fieldbook
