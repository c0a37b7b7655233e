import Fieldbook.Proofs.Calculation.Phases
import Fieldbook.Proofs.Formula.References
import Fieldbook.Proofs.Formula.SinglePass

/-!
# Finished rows

Formulas are computed one at a time, each from a row that is still changing.
`Table.finished_computeRow` says that the schedule makes up for it: a formula with a place in the
order has the cell that it would have if it were computed from the finished row.  Whatever it reads
is finished before its turn comes, since what is computed later is neither the formula itself nor
read by it.
-/

namespace Fieldbook

theorem Scope.fieldValue_congr {r r' : Row} {fields : List Field} {now : Instant} {name : String}
    (h : ∀ p, Field.withName? fields name = some p → r.cell p.id = r'.cell p.id) :
    (Scope.mk r fields now).fieldValue name = (Scope.mk r' fields now).fieldValue name := by
  unfold Scope.fieldValue
  cases hp : Field.withName? fields name with
  | none => rfl
  | some p => exact congrArg (Except.ok ∘ Value.ofCell) (h p hp)

theorem Row.cell_congr {r r' : Row} {key : String} (h : r.cells.get? key = r'.cells.get? key) :
    r.cell key = r'.cell key := by
  rw [Row.cell, Row.cell, h]

theorem Formula.value_congr_of_parse {expression : String} {tree : Expr} {r r' : Row}
    {fields : List Field} {now : Instant} (htree : Expr.parse expression = .ok tree)
    (h : ∀ name ∈ tree.fieldNames, ∀ p, Field.withName? fields name = some p →
      r.cell p.id = r'.cell p.id) :
    Formula.value expression ⟨r, fields, now⟩ = Formula.value expression ⟨r', fields, now⟩ := by
  rw [Formula.value_of_parse _ htree, Formula.value_of_parse _ htree]
  refine Expr.interpret_congr tree (fun name hname => ?_) fun _ _ => rfl
  exact Scope.fieldValue_congr (h name hname)

/-- **A formula that can be computed** is blank or has a tree. -/
def Formula.IsReadable (expression : String) : Prop :=
  Text.isBlankText expression.toList = true ∨ ∃ tree, Expr.parse expression = .ok tree

theorem Formula.value_congr_of_reads {expression : String} {f : Field} {r r' : Row}
    {fields : List Field} {now : Instant} (htype : f.type = .formula expression)
    (hreadable : IsReadable expression)
    (h : ∀ p, f.Reads fields p → r.cell p.id = r'.cell p.id) :
    Formula.value expression ⟨r, fields, now⟩ = Formula.value expression ⟨r', fields, now⟩ := by
  rcases hreadable with hblank | ⟨tree, htree⟩
  · rw [Formula.value, Formula.value, if_pos hblank, if_pos hblank]
  · refine Formula.value_congr_of_parse htree fun name hname p hp => ?_
    exact h p ⟨expression, tree, htype, htree, name, hname, hp⟩

/-- The order cut at one formula: nothing that the formula reads is computed in its turn or later. -/
theorem Schedule.notMem_later_of_reads {fields : List Field} (hids : (fields.map (·.id)).Nodup)
    {f p : Field} {front back : List String} (hf : f ∈ fields) (hreads : f.Reads fields p)
    (hsplit : (ofFields fields).order = front ++ f.id :: back) :
    p.id ∉ f.id :: (back ++ (ofFields fields).cyclic) := by
  have hall := all_eq_of_order_eq hsplit
  intro hmem
  have hp : p.id ∈ (ofFields fields).all := by
    rw [hall]
    exact List.mem_append_right _ hmem
  obtain ⟨q, hq, hformula, hid⟩ := mem_formulaIds.1 ((mem_all hids).1 hp)
  obtain rfl : q = p := Field.eq_of_id_eq hids hq hreads.mem hid
  have hfront : q.id ∈ front :=
    mem_front_of_reads hids hsplit ⟨f, hf, q, hq, rfl, rfl, hformula, hreads⟩
  exact notMem_back_of_mem_front hids hall hfront hmem

/-- **A formula agrees with the row that the formulas leave**, whatever row they started from. -/
theorem Row.get?_computed_all {fields : List Field} {now : Instant}
    (hids : (fields.map (·.id)).Nodup) (r : Row) {f : Field} {expression : String}
    (hf : f ∈ fields) (htype : f.type = .formula expression)
    (horder : f.id ∈ (Schedule.ofFields fields).order)
    (hreadable : Formula.IsReadable expression) :
    (r.computed fields now (Schedule.ofFields fields).all).cells.get? f.id
      = some (Formula.cell expression
        ⟨r.computed fields now (Schedule.ofFields fields).all, fields, now⟩) := by
  obtain ⟨front, back, hsplit⟩ := List.append_of_mem horder
  have hall := Schedule.all_eq_of_order_eq hsplit
  have hvalue : Formula.value expression ⟨r.computed fields now front, fields, now⟩
      = Formula.value expression
        ⟨r.computed fields now (Schedule.ofFields fields).all, fields, now⟩ := by
    refine Formula.value_congr_of_reads htype hreadable fun p hreads => Row.cell_congr ?_
    rw [hall]
    exact (get?_computed_append (Schedule.notMem_later_of_reads hids hf hreads hsplit) r).symm
  rw [Formula.cell, ← hvalue, hall]
  exact get?_computed_formula hids hf htype (Schedule.notMem_back hids hall) r

namespace Table

variable {t : Table} {registry : Registry} {now : Instant}

theorem get?_computeRow_of_notMem (hids : (t.fields.map (·.id)).Nodup) {key : String}
    (h : key ∉ Schedule.formulaIds t.fields) (row : Row) :
    (t.computeRow row registry (.full now)).cells.get? key
      = (row.prepared t.fields registry).cells.get? key := by
  rw [computeRow_eq_midway]
  exact get?_midway_of_notMem (fun hmem => h ((Schedule.mem_all hids).1 hmem)) row

theorem notMem_formulaIds (hids : (t.fields.map (·.id)).Nodup) {f : Field} (hf : f ∈ t.fields)
    (hother : ∀ expression, f.type ≠ .formula expression) :
    f.id ∉ Schedule.formulaIds t.fields := by
  intro hmem
  obtain ⟨expression, htype⟩ := Schedule.exists_formula_of_mem hids hf hmem
  exact hother expression htype

/-- **What a finished row is.** -/
structure Finished (t : Table) (registry : Registry) (now : Instant) (row out : Row) : Prop where
  /-- Links are followed from the row as it was given. -/
  linked : ∀ f ∈ t.fields, f.type.isLinked = true →
    out.cells.get? f.id = some (f.resolve row registry t.fields)
  created : ∀ f ∈ t.fields, f.type = .createdTime →
    out.cells.get? f.id = some (.text (String.ofList row.created.millisText))
  lastEdited : ∀ f ∈ t.fields, f.type = .lastEditedTime →
    out.cells.get? f.id = some (.text (String.ofList row.updated.millisText))
  /-- A formula agrees with the finished row. -/
  formula : ∀ f ∈ t.fields, ∀ expression, f.type = .formula expression →
    f.id ∈ (Schedule.ofFields t.fields).order →
    Text.isBlankText expression.toList = true ∨ (∃ tree, Expr.parse expression = .ok tree) →
    out.cells.get? f.id = some (Formula.cell expression ⟨out, t.fields, now⟩)
  id_eq : out.id = row.id
  created_eq : out.created = row.created
  updated_eq : out.updated = row.updated
  /-- What is not computed stays. -/
  stored : ∀ key, (∀ f ∈ t.fields, f.id = key →
      f.type.isLinked = false ∧ f.type.isComputed = false) →
    out.cells.get? key = row.cells.get? key

theorem get?_computeRow_timestamp (hids : (t.fields.map (·.id)).Nodup) (row : Row) {f : Field}
    {cell : Cell} (hf : f ∈ t.fields) (hcell : row.timestampCell? f = some cell) :
    (t.computeRow row registry (.full now)).cells.get? f.id = some cell := by
  have hother : ∀ expression, f.type ≠ .formula expression := by
    intro expression htype
    simp [Row.timestampCell?, htype] at hcell
  rw [get?_computeRow_of_notMem hids (notMem_formulaIds hids hf hother)]
  exact Row.get?_prepared_timestamp hids row hf hcell

theorem get?_computeRow_stored (hids : (t.fields.map (·.id)).Nodup) (row : Row) {key : String}
    (h : ∀ f ∈ t.fields, f.id = key → f.type.isLinked = false ∧ f.type.isComputed = false) :
    (t.computeRow row registry (.full now)).cells.get? key = row.cells.get? key := by
  have hformula : key ∉ Schedule.formulaIds t.fields := by
    intro hmem
    obtain ⟨f, hf, hformula, hid⟩ := Schedule.mem_formulaIds.1 hmem
    obtain ⟨expression, htype⟩ := Field.isFormula_iff.1 hformula
    obtain ⟨-, hcomputed⟩ := h f hf hid
    rw [htype] at hcomputed
    cases hcomputed
  rw [get?_computeRow_of_notMem hids hformula]
  refine Row.get?_prepared_other row fun f hf hid => ⟨(h f hf hid).1, ?_⟩
  obtain ⟨-, hcomputed⟩ := h f hf hid
  unfold Row.timestampCell?
  cases htype : f.type <;> simp [htype, FieldType.isComputed] at hcomputed ⊢

theorem header_computeRow (row : Row) (options : CalculationOptions) :
    (t.computeRow row registry options).id = row.id ∧
      (t.computeRow row registry options).created = row.created ∧
      (t.computeRow row registry options).updated = row.updated := by
  have hfilled := Row.header_store (row.filledEntries t.fields registry options) row
  rw [computeRow_eq_filled]
  split
  · obtain ⟨hid, hcreated, hupdated⟩ := hfilled
    obtain ⟨hid', hcreated', hupdated'⟩ := Row.header_computed
      (row.store (row.filledEntries t.fields registry options)) (Schedule.ofFields t.fields).all
    exact ⟨hid'.trans hid, hcreated'.trans hcreated, hupdated'.trans hupdated⟩
  · exact hfilled

/-- **A calculated row is finished.** -/
theorem finished_computeRow (t : Table) (hids : (t.fields.map (·.id)).Nodup) (row : Row)
    (registry : Registry) (now : Instant) :
    Finished t registry now row (t.computeRow row registry (.full now)) where
  linked f hf hlinked := by
    have hother : ∀ expression, f.type ≠ .formula expression := by
      intro expression htype
      rw [htype] at hlinked
      cases hlinked
    rw [get?_computeRow_of_notMem hids (notMem_formulaIds hids hf hother)]
    exact Row.get?_prepared_linked hids row hf hlinked
  created f hf htype := get?_computeRow_timestamp hids row hf (by simp [Row.timestampCell?, htype])
  lastEdited f hf htype :=
    get?_computeRow_timestamp hids row hf (by simp [Row.timestampCell?, htype])
  formula f hf expression htype horder hreads :=
    Row.get?_computed_all hids (row.prepared t.fields registry) hf htype horder hreads
  id_eq := (header_computeRow row _).1
  created_eq := (header_computeRow row _).2.1
  updated_eq := (header_computeRow row _).2.2
  stored key h := get?_computeRow_stored hids row h

/-- A formula that stands before the one it reads, a lookup, an instant, and a formula that reads
itself. -/
theorem finished_computeRow_badge :
    let t : Table := ⟨"tasks", "Tasks",
      [⟨"badge", "Badge", .formula "CONCAT({Owner}, ' ', {Loud})"⟩,
        ⟨"loud", "Loud", .formula "UPPER({Name})"⟩, ⟨"name", "Name", .text⟩,
        ⟨"link", "Link", .relation ⟨"people", none, true⟩⟩,
        ⟨"owner", "Owner", .lookup ⟨"link", "name"⟩⟩, ⟨"made", "Made", .createdTime⟩,
        ⟨"loop", "Loop", .formula "{Loop} + 1"⟩], [], []⟩
    let ada : Row := ⟨"p1", .ofList [("name", .text "Ada")], .ofSeconds 0, .ofSeconds 0⟩
    let people : Table := ⟨"people", "People", [⟨"name", "Name", .text⟩], [ada], []⟩
    let row : Row := ⟨"t1", .ofList [("name", .text "Plan"), ("link", .list ["p1"])],
      .ofSeconds 60, .ofSeconds 120⟩
    (t.fields.map (·.id)).Nodup ∧ Finished t (.ofTables [people]) (.ofSeconds 180) row
      (t.computeRow row (.ofTables [people]) (.full (.ofSeconds 180))) :=
  ⟨by decide, finished_computeRow _ (by decide) _ _ _⟩

end Table

end Fieldbook
