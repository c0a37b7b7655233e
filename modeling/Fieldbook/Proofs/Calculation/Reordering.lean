import Fieldbook.Proofs.Calculation.Solution

/-!
# Fields in another order

The order of the fields of a table decides in which order links and instants are filled in, in which
order formulas with chains of one length are computed, and which of several fields with one name a
formula reads.  Where names and ids are different, the last does not arise, and the others do not show:
`Table.computeRow_reordered`.  Filling in stores each cell once, in whatever order, and the formulas
are the same equations, which have one solution.
-/

namespace Fieldbook

namespace Field

/-- **The same fields in another order**, with nothing that the order could decide. -/
structure Reordered (fields fields' : List Field) : Prop where
  perm : fields'.Perm fields
  ids : (fields.map (·.id)).Nodup
  names : (fields.map (·.name)).Nodup

namespace Reordered

variable {fields fields' : List Field} (h : Reordered fields fields')

include h

theorem withId?_eq : withId? fields' = withId? fields := funext (find?_perm h.perm h.ids)

theorem withName?_eq : withName? fields' = withName? fields := funext (find?_perm h.perm h.names)

theorem nodup_ids : (fields'.map (·.id)).Nodup := (h.perm.map (·.id)).nodup_iff.2 h.ids

/-! ### Filling in -/

theorem resolve_eq (f : Field) (r : Row) (registry : Registry) :
    f.resolve r registry fields' = f.resolve r registry fields := by
  have hlinks : linkSpec? fields' = linkSpec? fields := by
    funext id
    rw [linkSpec?, linkSpec?, h.withId?_eq]
  unfold resolve LookupSpec.cells?
  rw [hlinks]

theorem filledEntries_perm (r : Row) (registry : Registry) (options : CalculationOptions) :
    (r.filledEntries fields' registry options).Perm (r.filledEntries fields registry options) := by
  have hlinks : (r.linkEntries fields' registry).Perm (r.linkEntries fields registry) := by
    unfold Row.linkEntries
    simp only [h.resolve_eq]
    exact (h.perm.filter _).map _
  have htimes : (r.timestampEntries fields').Perm (r.timestampEntries fields) :=
    h.perm.filterMap _
  refine List.Perm.append ?_ ?_
  · split
    · exact hlinks
    · exact .refl _
  · split
    · exact htimes
    · exact .refl _

/-! ### Formulas -/

theorem reads_eq : Reads fields' = Reads fields := by
  unfold Reads
  rw [h.withName?_eq]

theorem formulaReads_eq : Schedule.FormulaReads fields' = Schedule.FormulaReads fields := by
  unfold Schedule.FormulaReads
  simp only [h.perm.mem_iff, h.reads_eq]

theorem mem_formulaIds {id : String} :
    id ∈ Schedule.formulaIds fields' ↔ id ∈ Schedule.formulaIds fields :=
  ((h.perm.filter _).map _).mem_iff

theorem mem_order {id : String} :
    id ∈ (Schedule.ofFields fields').order ↔ id ∈ (Schedule.ofFields fields).order := by
  rw [Schedule.mem_order_ofFields h.nodup_ids, Schedule.mem_order_ofFields h.ids, h.mem_formulaIds]
  unfold Schedule.LongestChain
  rw [h.formulaReads_eq]

theorem solvable (hsolvable : Solvable fields) : Solvable fields' where
  ids := h.nodup_ids
  readable f hf := hsolvable.readable f (h.perm.mem_iff.1 hf)
  acyclic := by
    rw [Schedule.cyclic_ofFields h.nodup_ids, List.filter_eq_nil_iff]
    intro id hid
    have horder := h.mem_order.2 (hsolvable.mem_order (h.mem_formulaIds.1 hid))
    simpa using horder

theorem cell_eq (expression : String) (r : Row) (now : Instant) :
    Formula.cell expression ⟨r, fields', now⟩ = Formula.cell expression ⟨r, fields, now⟩ := by
  have hvalue : Formula.value expression ⟨r, fields', now⟩
      = Formula.value expression ⟨r, fields, now⟩ := by
    refine Formula.value_congr rfl fun _ _ name _ => ?_
    rw [Scope.fieldValue, Scope.fieldValue, h.withName?_eq]
  rw [Formula.cell, Formula.cell, hvalue]

/-- **The formulas are the same equations.** -/
theorem solves {now : Instant} {start out : Row} (hout : Row.Solves fields' now start out) :
    Row.Solves fields now start out where
  id_eq := hout.id_eq
  created_eq := hout.created_eq
  updated_eq := hout.updated_eq
  other key hkey := hout.other key fun hmem => hkey (h.mem_formulaIds.1 hmem)
  formula f hf expression htype := by
    rw [← h.cell_eq]
    exact hout.formula f (h.perm.mem_iff.2 hf) expression htype

end Reordered

end Field

/-- **Reordering the fields of a table changes no computed cell.** -/
theorem Table.computeRow_reordered (t : Table) (fields : List Field) (hperm : fields.Perm t.fields)
    (hsolvable : Solvable t.fields) (hnames : (t.fields.map (·.name)).Nodup) (row : Row)
    (registry : Registry) (options : CalculationOptions) :
    Table.computeRow { t with fields } row registry options
      = t.computeRow row registry options := by
  have h : Field.Reordered t.fields fields := ⟨hperm, hsolvable.ids, hnames⟩
  have hfilled : row.store (row.filledEntries fields registry options)
      = row.store (row.filledEntries t.fields registry options) :=
    Row.store_perm (h.filledEntries_perm row registry options)
      (Row.nodup_keys_filledEntries h.nodup_ids row) row
  rw [computeRow_eq_filled, computeRow_eq_filled, hfilled]
  split
  · have hout := Row.solves_computed (h.solvable hsolvable) options.now
      (row.store (row.filledEntries t.fields registry options))
    exact (h.solves hout).unique hsolvable (Row.solves_computed hsolvable options.now _)
  · rfl

/-- Columns from last to first: formulas that read each other, a lookup they read, and its relation. -/
theorem Table.computeRow_reordered_backwards :
    let fields : List Field :=
      [⟨"badge", "Badge", .formula "CONCAT({Owner}, ' ', {Loud})"⟩,
        ⟨"loud", "Loud", .formula "UPPER({Name})"⟩, ⟨"name", "Name", .text⟩,
        ⟨"blank", "Blank", .formula " "⟩, ⟨"link", "Link", .relation ⟨"people", none, true⟩⟩,
        ⟨"owner", "Owner", .lookup ⟨"link", "name"⟩⟩, ⟨"made", "Made", .createdTime⟩]
    let t : Table := ⟨"tasks", "Tasks", fields, [], []⟩
    let ada : Row := ⟨"p1", .ofList [("name", .text "Ada")], .ofSeconds 0, .ofSeconds 0⟩
    let people : Table := ⟨"people", "People", [⟨"name", "Name", .text⟩], [ada], []⟩
    let row : Row := ⟨"t1", .ofList [("name", .text "Plan"), ("link", .list ["p1"])],
      .ofSeconds 60, .ofSeconds 120⟩
    fields.reverse.Perm t.fields ∧ Solvable t.fields ∧ (t.fields.map (·.name)).Nodup ∧
      Table.computeRow { t with fields := fields.reverse } row (.ofTables [people])
          (.full (.ofSeconds 180))
        = t.computeRow row (.ofTables [people]) (.full (.ofSeconds 180)) :=
  ⟨List.reverse_perm _, by decide +kernel, by decide,
    Table.computeRow_reordered _ _ (List.reverse_perm _) (by decide +kernel) (by decide) _ _ _⟩

end Fieldbook
