import Fieldbook.Proofs.Keyed
import Fieldbook.Proofs.Text.Lowering
import Fieldbook.View.Filter
import Fieldbook.View.Search

/-!
# Finding a part of a cell

A search and the filters for containment put the query and the text of a cell into lower case, each as a
whole.  A part of the text, taken as it stands, is then found if its sigmas are alike in both
(`Row.part_found`): above all if it has no capital sigma, in whatever script
(`Row.part_found_of_notMem`), and if it is made of whole words (`Row.part_found_of_apart`).

Other parts may stay hidden.  `ΑΣ` stands in `ΑΣΑ`, but its sigma ends a word only where `ΑΣ` stands
alone; and `Σ` stands in `ΑΣ`, but ends a word only there.  Neither is found (`Row.part_hidden`).
-/

namespace Fieldbook

open Text

theorem containsIgnoringCase_of_part {text query : String} {front back : List Char}
    (htext : text.toList = front ++ query.toList ++ back)
    (hsigma : SigmasAlike front query.toList back) : containsIgnoringCase text query = true := by
  rw [containsIgnoringCase, occursIn_iff_infix, htext]
  exact lower_infix_lower hsigma

namespace Row

/-- **A part of a stored cell is found** by a search and by the filters, if its sigmas are alike alone and
where it stands. -/
theorem part_found {row : Row} {field query : String} {cell : Cell} {front back : List Char}
    (hcell : row.cells.get? field = some cell)
    (htext : cell.display.toList = front ++ query.toList ++ back)
    (hsigma : SigmasAlike front query.toList back) :
    (∀ rows, row ∈ rows → row ∈ search query rows)
    ∧ Filter.passes ⟨field, .contains, query⟩ row = true
    ∧ Filter.passes ⟨field, .notContains, query⟩ row = false := by
  have hcontains : containsIgnoringCase cell.display query = true :=
    containsIgnoringCase_of_part htext hsigma
  have hmentions : row.mentions (lower query.toList) = true :=
    List.any_eq_true.2 ⟨cell, Keyed.mem_values_of_get? hcell, hcontains⟩
  have hread : row.cell field = cell := by
    rw [Row.cell, hcell, Option.getD_some]
  refine ⟨?_, ?_, ?_⟩
  · intro rows hrow
    unfold search searchOn
    split
    · exact hrow
    · exact List.mem_filter.2 ⟨hrow, hmentions⟩
  · show containsIgnoringCase (row.cell field).display query = true
    rw [hread]
    exact hcontains
  · show (!containsIgnoringCase (row.cell field).display query) = false
    rw [hread, hcontains]
    rfl

/-- **A part without a capital sigma is found**, whatever the script. -/
theorem part_found_of_notMem {row : Row} {field query : String} {cell : Cell}
    (hcell : row.cells.get? field = some cell) (htext : query.toList <:+: cell.display.toList)
    (hsigma : 'Σ' ∉ query.toList) :
    (∀ rows, row ∈ rows → row ∈ search query rows)
    ∧ Filter.passes ⟨field, .contains, query⟩ row = true
    ∧ Filter.passes ⟨field, .notContains, query⟩ row = false := by
  obtain ⟨front, back, htext⟩ := htext
  exact part_found hcell htext.symm (sigmasAlike_of_notMem hsigma front back)

/-- **Whole words are found**, sigmas or not. -/
theorem part_found_of_apart {row : Row} {field query : String} {cell : Cell} {front back : List Char}
    (hcell : row.cells.get? field = some cell)
    (htext : cell.display.toList = front ++ query.toList ++ back)
    (hfront : casedNext front.reverse = false) (hback : casedNext back = false) :
    (∀ rows, row ∈ rows → row ∈ search query rows)
    ∧ Filter.passes ⟨field, .contains, query⟩ row = true
    ∧ Filter.passes ⟨field, .notContains, query⟩ row = false :=
  part_found hcell htext (sigmasAlike_of_apart hfront hback query.toList)

/-- **A part that is not found**: a sigma ends a word in the query and not in the cell, or the other way
round. -/
theorem part_hidden :
    let inside : Row := ⟨"r1", .ofList [("name", .text "ΑΣΑ")], default, default⟩
    let atEnd : Row := ⟨"r2", .ofList [("name", .text "ΑΣ")], default, default⟩
    search "ΑΣ" [inside] = []
    ∧ Filter.passes ⟨"name", .contains, "ΑΣ"⟩ inside = false
    ∧ Filter.passes ⟨"name", .notContains, "ΑΣ"⟩ inside = true
    ∧ search "Σ" [atEnd] = []
    ∧ Filter.passes ⟨"name", .contains, "Σ"⟩ atEnd = false
    ∧ Filter.passes ⟨"name", .notContains, "Σ"⟩ atEnd = true := by
  decide +kernel

end Row

end Fieldbook
