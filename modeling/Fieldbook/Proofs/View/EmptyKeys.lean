import Fieldbook.Proofs.View.Partition

/-!
# The empty key

A row is kept out of the common group by whether its cell is true, and gets the text of the cell as its
key.  The two agree on every cell but one: a list of one empty text is not an empty list and is true,
yet shows as nothing.  So the key of a row is empty on exactly that cell (`Row.groupKey_eq_empty_iff`),
and rows that have it under a field are what it takes for a group without a name
(`Row.exists_key_empty_iff`).
-/

namespace Fieldbook

/-! ### Texts that are never empty -/

theorem Decimal.positional_ne_nil (d : Decimal) : d.positional ≠ [] := by
  have hdigits : Nat.toDigits 10 d.digits ≠ [] := Nat.toDigits_ne_nil
  unfold positional
  dsimp only
  split
  · exact List.append_ne_nil_of_left_ne_nil hdigits _
  · split
    · exact List.append_ne_nil_of_right_ne_nil _ (List.cons_ne_nil _ _)
    · exact List.cons_ne_nil _ _

theorem Magnitude.text_ne_nil (m : Magnitude) : m.text ≠ [] := by
  unfold text
  split
  · exact Nat.toDigits_ne_nil
  · exact Decimal.positional_ne_nil _

namespace Number

theorem chars_ne_nil (n : Number) : n.chars ≠ [] := by
  cases n with
  | nan => decide
  | signed negative m =>
    unfold chars
    dsimp only
    split
    · exact List.cons_ne_nil _ _
    · cases negative with
      | true => exact List.cons_ne_nil _ _
      | false =>
        show (if m.isFinite then m.text else _) ≠ []
        split
        · exact m.text_ne_nil
        · decide

theorem text_ne_empty (n : Number) : n.text ≠ "" := by
  intro h
  exact n.chars_ne_nil (by simpa [text] using h)

end Number

theorem boolText_ne_empty (b : Bool) : boolText b ≠ "" := by
  cases b <;> decide

/-! ### Cells that show as nothing -/

namespace Cell

/-- A list shows as nothing if it is empty or holds one empty text, since two items have a separator
between them. -/
theorem display_list_eq_empty_iff (items : List String) :
    (list items).display = "" ↔ items = [] ∨ items = [""] := by
  match items with
  | [] => simp [display]
  | [s] => simp [display]
  | s :: t :: rest =>
    have hseparator : listSeparator ≠ "" := by decide
    simp [display, String.intercalate_cons_cons, hseparator]

/-- **The cells that show as nothing.** -/
theorem display_eq_empty_iff (c : Cell) :
    c.display = "" ↔ c = null ∨ c = text "" ∨ c = list [] ∨ c = list [""] := by
  cases c with
  | null => simp [display]
  | bool b => simp [display, boolText_ne_empty]
  | number n => simp [display, Number.text_ne_empty]
  | text s => simp [display]
  | list items => simp [display_list_eq_empty_iff]

/-- **A cell that shows as nothing is false**, unless it is a list of one empty text. -/
theorem isFalsy_of_display_eq_empty {c : Cell} (h : c.display = "") :
    c.isFalsy = true ∨ c = list [""] := by
  rcases (display_eq_empty_iff c).1 h with rfl | rfl | rfl | rfl
  · exact .inl rfl
  · exact .inl rfl
  · exact .inl rfl
  · exact .inr rfl

end Cell

/-! ### Rows without a name for their group -/

namespace Row

/-- **The rows whose key is empty**: those with a list of one empty text. -/
theorem groupKey_eq_empty_iff (r : Row) (field : String) :
    r.groupKey field = "" ↔ r.cell field = .list [""] := by
  constructor
  · intro h
    unfold groupKey at h
    dsimp only at h
    split at h
    · exact absurd h (by decide)
    · rename_i htrue
      exact (Cell.isFalsy_of_display_eq_empty h).resolve_left htrue
  · intro h
    rw [groupKey, h]
    rfl

/-- **A row that shows as nothing under a field** goes into the common group, or has an empty key. -/
theorem groupKey_of_display_eq_empty {r : Row} {field : String} (h : (r.cell field).display = "")
    (hlist : r.cell field ≠ .list [""]) : r.groupKey field = uncategorized := by
  have hfalse := (Cell.isFalsy_of_display_eq_empty h).resolve_right hlist
  rw [groupKey]
  exact if_pos hfalse

/-- **A group without a name** is there exactly for rows with a list of one empty text, and holds
nothing else. -/
theorem exists_key_empty_iff (field : String) (rows : List Row) :
    (∃ g ∈ Row.group field rows, g.key = "") ↔ ∃ row ∈ rows, row.cell field = .list [""] := by
  have hkey : "" ∈ (Row.group field rows).map (·.key) ↔ ∃ row ∈ rows, row.groupKey field = "" :=
    Group.mem_keys_collect
  simp only [groupKey_eq_empty_iff, List.mem_map] at hkey
  exact hkey

example :
    (Row.group "tags" [⟨"r1", .ofList [("tags", .list [""])], default, default⟩]).map (·.key)
      = [""] := by
  decide +kernel

end Row

end Fieldbook
