import Fieldbook.Proofs.Calculation.Solution

/-!
# Calculating a row again

A calculated row is not the row that was given: its links are written out, and the cells of an earlier
calculation are replaced.  Calculated once more it stays as it is (`Table.computeRow_computeRow`),
whichever phases are asked for.  The links written out are read as the links that were given
(`Field.links_resolve`), so that everything filled in is there already, and the formulas find the row
that solves them.
-/

namespace Fieldbook

/-- **Links that are written out are read as they were given.** -/
theorem Field.links_resolve {fields : List Field} {registry : Registry} {f : Field} {spec : LinkSpec}
    (htype : f.type = .relation spec) (r : Row) :
    (f.resolve r registry fields).links = (r.cell f.id).links := by
  unfold resolve
  rw [htype]
  cases (r.cell f.id).links with
  | nil => rfl
  | cons id rest => rfl

theorem Row.Solves.again {fields : List Field} {now : Instant} {start out : Row}
    (h : Solves fields now start out) : Solves fields now out out where
  id_eq := rfl
  created_eq := rfl
  updated_eq := rfl
  other _ _ := rfl
  formula := h.formula

namespace Table

variable {t : Table} {registry : Registry} {options : CalculationOptions}

theorem get?_computeRow_filled (hids : (t.fields.map (·.id)).Nodup) (row : Row)
    {e : String × Cell} (h : e ∈ row.filledEntries t.fields registry options) :
    (t.computeRow row registry options).cells.get? e.1 = some e.2 := by
  have hstored : (row.store (row.filledEntries t.fields registry options)).cells.get? e.1 = some e.2 :=
    Row.get?_store_of_mem (Row.nodup_keys_filledEntries hids row) h row
  rw [computeRow_eq_filled]
  split
  · obtain ⟨f, hf, hid, hother⟩ := Row.exists_field_of_mem_filledEntries h
    have hformula : e.1 ∉ (Schedule.ofFields t.fields).all := by
      rw [← hid, Schedule.mem_all hids]
      exact notMem_formulaIds hids hf hother
    rw [Row.get?_computed_of_notMem hformula, hstored]
  · exact hstored

/-- Whoever follows the links of a calculated row finds those of the row as it was given. -/
theorem links_computeRow (hids : (t.fields.map (·.id)).Nodup) (hphase : options.resolveLinks = true)
    (row : Row) {p : Field} {spec : LinkSpec} (hp : p ∈ t.fields) (htype : p.type = .relation spec) :
    ((t.computeRow row registry options).cell p.id).links = (row.cell p.id).links := by
  have hlinked : p.type.isLinked = true := by rw [htype]; rfl
  have hfilled : (p.id, p.resolve row registry t.fields)
      ∈ row.filledEntries t.fields registry options := by
    rw [Row.filledEntries, if_pos hphase]
    exact List.mem_append_left _ (Row.mem_linkEntries.2 ⟨p, hp, hlinked, rfl⟩)
  rw [Row.cell, get?_computeRow_filled hids row hfilled, Option.getD_some]
  exact Field.links_resolve htype row

theorem linkEntries_computeRow (hids : (t.fields.map (·.id)).Nodup)
    (hphase : options.resolveLinks = true) (row : Row) :
    Row.linkEntries t.fields registry (t.computeRow row registry options)
      = Row.linkEntries t.fields registry row := by
  refine List.map_congr_left fun f hf => ?_
  obtain ⟨hf, hlinked⟩ := List.mem_filter.1 hf
  have hcell : f.resolve (t.computeRow row registry options) registry t.fields
      = f.resolve row registry t.fields := by
    refine Field.resolve_congr (fun via _ hlink => ?_) (fun spec htype => ?_) fun hother => ?_
    · obtain ⟨p, hp, rfl, spec, htype⟩ := Field.exists_relation_of_linkSpec? hlink
      exact links_computeRow hids hphase row hp htype
    · exact links_computeRow hids hphase row hf htype
    · rw [hlinked] at hother
      cases hother
  rw [hcell]

/-- **The same is filled in again.** -/
theorem filledEntries_computeRow (hids : (t.fields.map (·.id)).Nodup) (row : Row) :
    (t.computeRow row registry options).filledEntries t.fields registry options
      = row.filledEntries t.fields registry options := by
  have htimes : Row.timestampEntries t.fields (t.computeRow row registry options)
      = Row.timestampEntries t.fields row :=
    Row.timestampEntries_congr t.fields (header_computeRow row options).2.1
      (header_computeRow row options).2.2
  rw [Row.filledEntries, Row.filledEntries, htimes]
  cases hphase : options.resolveLinks with
  | true => rw [linkEntries_computeRow hids hphase]
  | false => rfl

/-- **Calculating a calculated row changes nothing.** -/
theorem computeRow_computeRow (t : Table) (hsolvable : Solvable t.fields) (row : Row)
    (registry : Registry) (options : CalculationOptions) :
    t.computeRow (t.computeRow row registry options) registry options
      = t.computeRow row registry options := by
  have hstored : (t.computeRow row registry options).store
        (row.filledEntries t.fields registry options) = t.computeRow row registry options :=
    Row.store_eq_self fun _ he => get?_computeRow_filled hsolvable.ids row he
  rw [computeRow_eq_filled t (t.computeRow row registry options),
    filledEntries_computeRow hsolvable.ids, hstored]
  cases hphase : options.evaluateFormulas with
  | false => rfl
  | true =>
    -- the first calculation left a solution, and the second finds the only one
    have hout := Row.solves_computed hsolvable options.now
      (row.store (row.filledEntries t.fields registry options))
    have hfirst : t.computeRow row registry options
        = (row.store (row.filledEntries t.fields registry options)).computed t.fields options.now
          (Schedule.ofFields t.fields).all := by
      rw [computeRow_eq_filled, if_pos hphase]
    rw [← hfirst] at hout
    exact (Row.solves_computed hsolvable options.now _).unique hsolvable hout.again

/-- Links given as the text of one id, looked up and read by formulas; the instants are not filled
in. -/
theorem computeRow_computeRow_one_link :
    let t : Table := ⟨"tasks", "Tasks",
      [⟨"badge", "Badge", .formula "CONCAT({Owner}, ' ', {Loud})"⟩,
        ⟨"loud", "Loud", .formula "UPPER({Name})"⟩, ⟨"name", "Name", .text⟩,
        ⟨"link", "Link", .relation ⟨"people", none, true⟩⟩,
        ⟨"owner", "Owner", .lookup ⟨"link", "name"⟩⟩, ⟨"made", "Made", .createdTime⟩], [], []⟩
    let ada : Row := ⟨"p1", .ofList [("name", .text "Ada")], .ofSeconds 0, .ofSeconds 0⟩
    let people : Table := ⟨"people", "People", [⟨"name", "Name", .text⟩], [ada], []⟩
    let row : Row := ⟨"t1", .ofList [("name", .text "Plan"), ("link", .text "p1")],
      .ofSeconds 60, .ofSeconds 120⟩
    let options : CalculationOptions := ⟨true, true, false, .ofSeconds 180⟩
    Solvable t.fields ∧
      t.computeRow (t.computeRow row (.ofTables [people]) options) (.ofTables [people]) options
        = t.computeRow row (.ofTables [people]) options :=
  ⟨by decide +kernel, computeRow_computeRow _ (by decide +kernel) _ _ _⟩

end Table

end Fieldbook
