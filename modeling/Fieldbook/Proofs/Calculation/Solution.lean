import Fieldbook.Proofs.Calculation.Finished

/-!
# Formulas as equations

The formulas of a table can be read as equations: the cell of each is what its expression comes to in
the row that holds all of them.  `Row.Solves` says so, and of the order in which formulas are computed
it says nothing.  Where every formula is blank or can be read and none is cyclic, the equations have
one solution and no other (`Row.existsUnique_solves`): the row that the schedule computes solves them,
and two solutions agree on a formula as soon as they agree on what it reads, which is one chain of
references shorter.
-/

namespace Fieldbook

/-- **Fields whose formulas have one meaning.** -/
structure Solvable (fields : List Field) : Prop where
  /-- Fields have different ids. -/
  ids : (fields.map (·.id)).Nodup
  /-- A formula is blank or has a tree. -/
  readable : ∀ f ∈ fields, ∀ expression, f.type = .formula expression →
    Formula.IsReadable expression
  /-- No formula is cyclic. -/
  acyclic : (Schedule.ofFields fields).cyclic = []

instance (expression : String) : Decidable (∃ tree, Expr.parse expression = .ok tree) :=
  match Expr.parse expression with
  | .ok tree => .isTrue ⟨tree, rfl⟩
  | .error _ => .isFalse nofun

instance (expression : String) : Decidable (Formula.IsReadable expression) :=
  inferInstanceAs (Decidable (_ ∨ _))

instance (fields : List Field) : Decidable (Solvable fields) :=
  decidable_of_iff ((fields.map (·.id)).Nodup ∧
      (∀ f ∈ fields, ∀ expression ∈ f.type.expression?, Formula.IsReadable expression) ∧
      (Schedule.ofFields fields).cyclic = [])
    ⟨fun ⟨hids, hreadable, hacyclic⟩ =>
      ⟨hids, fun f hf e htype => hreadable f hf e (FieldType.expression?_eq_some.2 htype), hacyclic⟩,
    fun ⟨hids, hreadable, hacyclic⟩ =>
      ⟨hids, fun f hf e htype => hreadable f hf e (FieldType.expression?_eq_some.1 htype), hacyclic⟩⟩

namespace Solvable

variable {fields : List Field}

theorem mem_order (h : Solvable fields) {id : String} (hid : id ∈ Schedule.formulaIds fields) :
    id ∈ (Schedule.ofFields fields).order := by
  have hall := (Schedule.mem_all h.ids).2 hid
  rwa [Schedule.all, h.acyclic, List.append_nil] at hall

theorem exists_within (h : Solvable fields) {id : String} (hid : id ∈ Schedule.formulaIds fields) :
    ∃ n, Schedule.Within (DependencyGraph.ofFields fields) (Schedule.formulaIds fields) n id := by
  obtain ⟨-, n, hn⟩ := (Schedule.mem_rounds_iff (Schedule.nodup_formulaIds h.ids)).1 (h.mem_order hid)
  exact ⟨n + 1, hn.1⟩

end Solvable

namespace Row

variable {fields : List Field} {now : Instant} {start out out' : Row}

/-- **A row that solves the formulas of a table**, with everything else as it is in another row. -/
structure Solves (fields : List Field) (now : Instant) (start out : Row) : Prop where
  id_eq : out.id = start.id
  created_eq : out.created = start.created
  updated_eq : out.updated = start.updated
  other : ∀ key, key ∉ Schedule.formulaIds fields →
    out.cells.get? key = start.cells.get? key
  formula : ∀ f ∈ fields, ∀ expression, f.type = .formula expression →
    out.cells.get? f.id = some (Formula.cell expression ⟨out, fields, now⟩)

/-- **The schedule solves the formulas.** -/
theorem solves_computed (h : Solvable fields) (now : Instant) (start : Row) :
    Solves fields now start
      (start.computed fields now (Schedule.ofFields fields).all) where
  id_eq := (header_computed start _).1
  created_eq := (header_computed start _).2.1
  updated_eq := (header_computed start _).2.2
  other _ hkey := get?_computed_of_notMem (fun hmem => hkey ((Schedule.mem_all h.ids).1 hmem)) start
  formula f hf expression htype := by
    have hid : f.id ∈ Schedule.formulaIds fields :=
      Schedule.mem_formulaIds.2 ⟨f, hf, Field.isFormula_iff.2 ⟨expression, htype⟩, rfl⟩
    exact get?_computed_all h.ids start hf htype (h.mem_order hid) (h.readable f hf expression htype)

/-- Two solutions agree on a formula.  The induction is on how many references a chain below it may
have: what it reads has shorter chains, or is no formula. -/
theorem Solves.get?_eq_of_within (h : Solvable fields) (hout : Solves fields now start out)
    (hout' : Solves fields now start out') {n : Nat} {f : Field} (hf : f ∈ fields)
    (hwithin : Schedule.Within (DependencyGraph.ofFields fields) (Schedule.formulaIds fields) n f.id) :
    out.cells.get? f.id = out'.cells.get? f.id := by
  induction n generalizing f with
  | zero => exact hwithin.elim
  | succ n ih =>
    by_cases hid : f.id ∈ Schedule.formulaIds fields
    · obtain ⟨expression, htype⟩ := Schedule.exists_formula_of_mem h.ids hf hid
      have hvalue : Formula.value expression ⟨out, fields, now⟩
          = Formula.value expression ⟨out', fields, now⟩ := by
        refine Formula.value_congr_of_reads htype (h.readable f hf expression htype) fun p hreads => ?_
        refine cell_congr ?_
        by_cases hp : p.id ∈ Schedule.formulaIds fields
        · refine ih hreads.mem (hwithin p.id ⟨hp, ?_⟩)
          exact DependencyGraph.mem_edges_ofFields.2 ⟨f, hf, p, rfl, rfl, hreads⟩
        · rw [hout.other p.id hp, hout'.other p.id hp]
      rw [hout.formula f hf expression htype, hout'.formula f hf expression htype, Formula.cell,
        Formula.cell, hvalue]
    · rw [hout.other f.id hid, hout'.other f.id hid]

/-- **The formulas have no other solution.** -/
theorem Solves.unique (h : Solvable fields) (hout : Solves fields now start out)
    (hout' : Solves fields now start out') : out = out' := by
  refine eq_of_get?_eq (hout.id_eq.trans hout'.id_eq.symm)
    (hout.created_eq.trans hout'.created_eq.symm)
    (hout.updated_eq.trans hout'.updated_eq.symm) fun key => ?_
  by_cases hkey : key ∈ Schedule.formulaIds fields
  · obtain ⟨n, hn⟩ := h.exists_within hkey
    obtain ⟨f, hf, -, rfl⟩ := Schedule.mem_formulaIds.1 hkey
    exact hout.get?_eq_of_within h hout' hf hn
  · rw [hout.other key hkey, hout'.other key hkey]

/-- **The formulas have one solution**, and the schedule computes it. -/
theorem existsUnique_solves (h : Solvable fields) (now : Instant) (start : Row) :
    ∃! out, Solves fields now start out :=
  ⟨_, solves_computed h now start, fun _ hout => hout.unique h (solves_computed h now start)⟩

end Row

end Fieldbook
