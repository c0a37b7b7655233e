import Fieldbook.Proofs.Calculation.Phases
import Mathlib.Algebra.GroupWithZero.Nat
import Mathlib.Data.List.ProdSigma

/-!
# Counting again

A calculation counts while it runs: a counter goes up with every cell that it fills in.  `CountedRow` is
that run with its counters in plain sight, and `CountedRow.runFrom_eq` says that they come to what
`CalculationPlan.runFrom` adds up row by row.

What was counted can be counted again afterwards, from the fields and the rows that came out
(`Table.computeRows_recounted`).  Each formula has one step (`CalculationPlan.perm_steps`), and no step
writes over the cell of another, so that every cell that was computed still stands
(`Row.snd_fillFormulas`).
-/

namespace Fieldbook

/-! ### Counters -/

structure CountedRow where
  row : Row
  stats : CalculationStats

namespace CountedRow

variable {fields : List Field} {registry : Registry} {now : Instant}

/-- A cell is found by following links from the row as it was given. -/
def addLink (fields : List Field) (registry : Registry) (source : Row) (c : CountedRow) (f : Field) :
    CountedRow where
  row := c.row.setCell f.id (f.resolve source registry fields)
  stats := { c.stats with linkCells := c.stats.linkCells + 1 }

/-- A formula is computed from the row as it stands. -/
def addFormula (fields : List Field) (now : Instant) (c : CountedRow) (step : FormulaStep) :
    CountedRow :=
  let cell := Formula.cell step.expression ⟨c.row, fields, now⟩
  { row := c.row.setCell step.field cell
    stats := { c.stats with
      formulaCells := c.stats.formulaCells + 1
      formulaErrors := if cell.isError then c.stats.formulaErrors + 1 else c.stats.formulaErrors
      volatileCells :=
        if step.isVolatile then c.stats.volatileCells + 1 else c.stats.volatileCells } }

/-- **A row calculated cell by cell**, counting on from `stats`. -/
def run (plan : CalculationPlan) (registry : Registry) (options : CalculationOptions)
    (stats : CalculationStats) (row : Row) : CountedRow :=
  let c : CountedRow := ⟨row, { stats with rows := stats.rows + 1 }⟩
  let c := if options.resolveLinks then
      (plan.fields.filter (·.type.isLinked)).foldl (addLink plan.fields registry row) c
    else c
  let c := if options.fillTimestamps then { c with row := c.row.fillTimestamps plan.fields } else c
  if options.evaluateFormulas then plan.steps.foldl (addFormula plan.fields options.now) c else c

/-- **Rows calculated one after another**, with one set of counters. -/
def runFrom (plan : CalculationPlan) (registry : Registry) (options : CalculationOptions)
    (stats : CalculationStats) : List Row → List Row × CalculationStats
  | [] => ([], stats)
  | row :: rest =>
    let c := run plan registry options stats row
    let (rows, stats) := runFrom plan registry options c.stats rest
    (c.row :: rows, stats)

theorem foldl_addLink (source : Row) (linked : List Field) (c : CountedRow) :
    linked.foldl (addLink fields registry source) c =
      ⟨linked.foldl (fun out f => out.setCell f.id (f.resolve source registry fields)) c.row,
        { c.stats with linkCells := c.stats.linkCells + linked.length }⟩ := by
  induction linked generalizing c with
  | nil => rfl
  | cons f rest ih =>
    rw [List.foldl_cons, ih]
    simp only [addLink, List.foldl_cons, List.length_cons, Nat.add_assoc, Nat.add_comm 1]

theorem foldl_addFormula (steps : List FormulaStep) (c : CountedRow) :
    steps.foldl (addFormula fields now) c =
      ⟨(c.row.fillFormulas fields now steps).1,
        { c.stats with
          formulaCells := c.stats.formulaCells + (c.row.fillFormulas fields now steps).2.length
          formulaErrors :=
            c.stats.formulaErrors + (c.row.fillFormulas fields now steps).2.countP Cell.isError
          volatileCells := c.stats.volatileCells + steps.countP (·.isVolatile) }⟩ := by
  induction steps generalizing c with
  | nil => rfl
  | cons step rest ih =>
    rw [List.foldl_cons, ih]
    simp only [addFormula, Row.fillFormulas, List.length_cons, List.countP_cons]
    congr 2
    · omega
    · split <;> omega
    · split <;> omega

/-- **Counted cell by cell, a row adds what it adds as a whole.** -/
theorem run_eq (plan : CalculationPlan) (registry : Registry) (options : CalculationOptions)
    (stats : CalculationStats) (row : Row) :
    run plan registry options stats row =
      ⟨(plan.run registry options row).1,
        stats.addRow (plan.linkCells options) (plan.volatileCells options)
          (plan.run registry options row).2⟩ := by
  have hlinked : (plan.fields.filter (·.type.isLinked)).length
      = plan.fields.countP (·.type.isLinked) := List.countP_eq_length_filter.symm
  unfold run CalculationPlan.run CalculationPlan.linkCells CalculationPlan.volatileCells
    CalculationStats.addRow
  simp only [foldl_addLink, foldl_addFormula, hlinked]
  cases options.resolveLinks <;> cases options.fillTimestamps <;> cases options.evaluateFormulas <;>
    rfl

theorem runFrom_eq (plan : CalculationPlan) (registry : Registry) (options : CalculationOptions)
    (rows : List Row) (stats : CalculationStats) :
    runFrom plan registry options stats rows = plan.runFrom registry options stats rows := by
  induction rows generalizing stats with
  | nil => rfl
  | cons row rest ih =>
    rw [runFrom, run_eq, CalculationPlan.runFrom]
    simp only [ih]

end CountedRow

/-! ### One step for each formula -/

/-- Whether the field is a formula with a tree that calls a function which shows the clock. -/
def Field.callsClock (f : Field) : Bool :=
  match f.type with
  | .formula expression =>
    match Expr.parse expression with
    | .ok tree => tree.calls.contains .now || tree.calls.contains .today
    | .error _ => false
  | _ => false

namespace CalculationPlan

variable {fields : List Field}

theorem isSome_step? (f : Field) : (step? f).isSome = f.isFormula := Option.isSome_map

/-- **Each formula has one step**, whatever its place in the schedule. -/
theorem perm_steps (hids : (fields.map (·.id)).Nodup) :
    (ofFields fields).steps.Perm (fields.filterMap step?) := by
  have hall : (Schedule.ofFields fields).all.Perm (Schedule.formulaIds fields) :=
    (Schedule.sorted_ofFields fields hids).perm
  have hfound : (Schedule.formulaIds fields).filterMap (Field.withId? fields)
      = fields.filter Field.isFormula := by
    rw [Schedule.formulaIds, List.filterMap_map]
    refine (List.filterMap_congr fun f hf => ?_).trans List.filterMap_some
    exact Field.withId?_of_mem hids (List.mem_of_mem_filter hf)
  have hsteps : (fields.filter Field.isFormula).filterMap step? = fields.filterMap step? := by
    rw [List.filterMap_filter]
    refine List.filterMap_congr fun f _ => ?_
    split
    · rfl
    · rename_i hformula
      rw [← isSome_step?] at hformula
      exact (Option.not_isSome_iff_eq_none.1 hformula).symm
  rw [← hsteps, ← hfound]
  exact (hall.filterMap _).filterMap _

theorem isVolatile_step? (f : Field) : ((step? f).map (·.isVolatile)).getD false = f.callsClock := by
  unfold step? Field.callsClock
  cases f.type with
  | formula expression =>
    simp only [FieldType.expression?, Option.map_some, Option.getD_some, Formula.isVolatile]
    cases Expr.parse expression with
    | error e => rfl
    | ok tree =>
      show tree.calls.any Builtin.isVolatile = (tree.calls.contains .now || tree.calls.contains .today)
      rw [Bool.eq_iff_iff, List.any_eq_true, Bool.or_eq_true]
      constructor
      · rintro ⟨f, hf, hvolatile⟩
        cases f with
        | now => exact .inl (List.contains_iff_mem.2 hf)
        | today => exact .inr (List.contains_iff_mem.2 hf)
        | _ => cases hvolatile
      · rintro (h | h)
        · exact ⟨.now, List.contains_iff_mem.1 h, rfl⟩
        · exact ⟨.today, List.contains_iff_mem.1 h, rfl⟩
  | _ => rfl

end CalculationPlan

namespace Row

/-- **The cells that were computed stand in the row**, since no step writes over the cell of another. -/
theorem snd_fillFormulas {fields : List Field} {now : Instant} {steps : List FormulaStep}
    (hsteps : (steps.map (·.field)).Nodup) (r : Row) :
    (r.fillFormulas fields now steps).2 =
      steps.map fun step => (r.fillFormulas fields now steps).1.cell step.field := by
  induction steps generalizing r with
  | nil => rfl
  | cons step rest ih =>
    rw [List.map_cons, List.nodup_cons] at hsteps
    have hstays : (r.fillFormulas fields now (step :: rest)).1.cells.get? step.field
        = some (Formula.cell step.expression ⟨r, fields, now⟩) :=
      (get?_fillFormulas_of_notMem hsteps.1 _).trans (by rw [get?_setCell, if_pos rfl])
    rw [List.map_cons, cell, hstays]
    exact congrArg _ (ih hsteps.2 _)

end Row

/-! ### What a run counts -/

namespace CalculationStats

attribute [ext] CalculationStats

/-- **What was done, counted again** from the fields of the table and the rows that came out. -/
def recount (fields : List Field) (options : CalculationOptions) (out : List Row) :
    CalculationStats where
  rows := out.length
  formulaCells :=
    if options.evaluateFormulas then out.length * fields.countP Field.isFormula else 0
  formulaErrors :=
    if options.evaluateFormulas then
      (out ×ˢ fields).countP fun p => p.2.isFormula && (p.1.cell p.2.id).isError
    else 0
  volatileCells :=
    if options.evaluateFormulas then out.length * fields.countP Field.callsClock else 0
  linkCells := if options.resolveLinks then out.length * fields.countP (·.type.isLinked) else 0
  cyclicFields := (Schedule.ofFields fields).cyclic.length

end CalculationStats

namespace CalculationPlan

variable {fields : List Field} {registry : Registry} {options : CalculationOptions}

/-- **A counter that each row raises** by an amount of its own comes to the sum of the amounts. -/
theorem counter_runFrom (plan : CalculationPlan) (counter : CalculationStats → Nat)
    (amount : Row → Nat)
    (hrow : ∀ stats row, counter (CalculationStats.addRow stats (plan.linkCells options)
        (plan.volatileCells options) (plan.run registry options row).2)
      = counter stats + amount (plan.run registry options row).1)
    (rows : List Row) (stats : CalculationStats) :
    counter (plan.runFrom registry options stats rows).2
      = counter stats + ((plan.runFrom registry options stats rows).1.map amount).sum := by
  induction rows generalizing stats with
  | nil => rfl
  | cons row rest ih =>
    rw [runFrom, List.map_cons, List.sum_cons, ← Nat.add_assoc, ← hrow]
    exact ih _

theorem nodup_steps (hids : (fields.map (·.id)).Nodup) :
    ((ofFields fields).steps.map (·.field)).Nodup :=
  (keys_stepsOf_sublist fields (Schedule.ofFields fields).all).nodup (Schedule.nodup_all hids)

theorem countP_steps (hids : (fields.map (·.id)).Nodup) (p : FormulaStep → Bool) :
    (ofFields fields).steps.countP p = fields.countP fun f => ((step? f).map p).getD false := by
  rw [(perm_steps hids).countP_eq, List.countP_filterMap]

theorem snd_run (hids : (fields.map (·.id)).Nodup) (row : Row) :
    ((ofFields fields).run registry options row).2 =
      if options.evaluateFormulas then (ofFields fields).steps.map fun step =>
        ((ofFields fields).run registry options row).1.cell step.field
      else [] := by
  unfold run
  cases options.evaluateFormulas with
  | true => exact Row.snd_fillFormulas (nodup_steps hids) _
  | false => rfl

theorem length_snd_run (hids : (fields.map (·.id)).Nodup) (row : Row) :
    ((ofFields fields).run registry options row).2.length =
      if options.evaluateFormulas then fields.countP Field.isFormula else 0 := by
  rw [snd_run hids]
  split
  · rw [List.length_map, (perm_steps hids).length_eq, List.length_filterMap_eq_countP]
    simp only [isSome_step?]
  · rfl

theorem countP_isError_snd_run (hids : (fields.map (·.id)).Nodup) (row : Row) :
    ((ofFields fields).run registry options row).2.countP Cell.isError =
      if options.evaluateFormulas then fields.countP fun f =>
        f.isFormula && (((ofFields fields).run registry options row).1.cell f.id).isError
      else 0 := by
  rw [snd_run hids]
  split
  · rw [List.countP_map, countP_steps hids]
    congr 1
    funext f
    rw [← isSome_step?]
    cases hstep : step? f with
    | none => rfl
    | some step =>
      rw [← field_of_step? hstep]
      rfl
  · rfl

theorem volatileCells_ofFields (hids : (fields.map (·.id)).Nodup) :
    (ofFields fields).volatileCells options =
      if options.evaluateFormulas then fields.countP Field.callsClock else 0 := by
  rw [volatileCells, countP_steps hids]
  simp only [isVolatile_step?]

end CalculationPlan

/-! ### Many rows -/

theorem countP_product {α β : Type} (l : List α) (l' : List β) (p : α × β → Bool) :
    (l ×ˢ l').countP p = (l.map fun a => l'.countP fun b => p (a, b)).sum := by
  show (l.flatMap fun a => l'.map (Prod.mk a)).countP p = _
  rw [List.countP_flatMap]
  congr 1
  refine List.map_congr_left fun a _ => ?_
  exact List.countP_map

namespace Table

theorem computeRows_fst (t : Table) (rows : List Row) (registry : Registry)
    (options : CalculationOptions) :
    (t.computeRows rows registry options).1 = rows.map (t.computeRow · registry options) := by
  have hrun : ∀ stats, ((CalculationPlan.ofFields t.fields).runFrom registry options stats rows).1 =
      rows.map (t.computeRow · registry options) := by
    induction rows with
    | nil => exact fun _ => rfl
    | cons row rest ih =>
      intro stats
      rw [CalculationPlan.runFrom, List.map_cons]
      exact congrArg _ (ih _)
  exact hrun _

variable {t : Table} {registry : Registry} {options : CalculationOptions}

theorem counter_computeRows (counter : CalculationStats → Nat) (amount : Row → Nat)
    (hrow : ∀ stats row, counter (CalculationStats.addRow stats
        ((CalculationPlan.ofFields t.fields).linkCells options)
        ((CalculationPlan.ofFields t.fields).volatileCells options)
        ((CalculationPlan.ofFields t.fields).run registry options row).2)
      = counter stats + amount (t.computeRow row registry options))
    (rows : List Row) :
    counter (t.computeRows rows registry options).2
      = counter (.start (Schedule.ofFields t.fields).cyclic.length)
        + ((rows.map (t.computeRow · registry options)).map amount).sum := by
  rw [← computeRows_fst]
  exact CalculationPlan.counter_runFrom _ counter amount hrow rows _

theorem counter_computeRows_phase (counter : CalculationStats → Nat) (phase : Bool) (amount : Nat)
    (hrow : ∀ stats row, counter (CalculationStats.addRow stats
        ((CalculationPlan.ofFields t.fields).linkCells options)
        ((CalculationPlan.ofFields t.fields).volatileCells options)
        ((CalculationPlan.ofFields t.fields).run registry options row).2)
      = counter stats + if phase then amount else 0)
    (rows : List Row) :
    counter (t.computeRows rows registry options).2
      = counter (.start (Schedule.ofFields t.fields).cyclic.length)
        + if phase then (rows.map (t.computeRow · registry options)).length * amount else 0 := by
  rw [counter_computeRows counter (fun _ => if phase then amount else 0) hrow, List.map_const',
    List.sum_replicate_nat]
  cases phase <;> rfl

theorem formulaErrors_computeRows (hids : (t.fields.map (·.id)).Nodup) (rows : List Row) :
    (t.computeRows rows registry options).2.formulaErrors =
      if options.evaluateFormulas then
        (rows.map (t.computeRow · registry options) ×ˢ t.fields).countP fun p =>
          p.2.isFormula && (p.1.cell p.2.id).isError
      else 0 := by
  rw [counter_computeRows (·.formulaErrors)
    (fun r => if options.evaluateFormulas then
      t.fields.countP fun f => f.isFormula && (r.cell f.id).isError else 0)
    fun stats row =>
      congrArg (stats.formulaErrors + ·) (CalculationPlan.countP_isError_snd_run hids row)]
  refine (Nat.zero_add _).trans ?_
  split
  · rw [countP_product]
  · rw [List.map_const', List.sum_replicate_nat, Nat.mul_zero]

/-- **The counters of a calculation**, each by what one row adds to it. -/
theorem computeRows_snd (hids : (t.fields.map (·.id)).Nodup) (rows : List Row) :
    (t.computeRows rows registry options).2
      = .recount t.fields options (rows.map (t.computeRow · registry options)) := by
  ext
  case rows =>
    refine (counter_computeRows_phase (·.rows) true 1 (fun _ _ => rfl) rows).trans ?_
    exact (Nat.zero_add _).trans (Nat.mul_one _)
  case formulaCells =>
    refine (counter_computeRows_phase (·.formulaCells) options.evaluateFormulas _
      (fun stats row => ?_) rows).trans (Nat.zero_add _)
    exact congrArg (stats.formulaCells + ·) (CalculationPlan.length_snd_run hids row)
  case formulaErrors => exact formulaErrors_computeRows hids rows
  case volatileCells =>
    refine (counter_computeRows_phase (·.volatileCells) options.evaluateFormulas _
      (fun stats row => ?_) rows).trans (Nat.zero_add _)
    exact congrArg (stats.volatileCells + ·) (CalculationPlan.volatileCells_ofFields hids)
  case linkCells =>
    exact (counter_computeRows_phase (·.linkCells) options.resolveLinks _ (fun _ _ => rfl)
      rows).trans (Nat.zero_add _)
  case cyclicFields => exact counter_computeRows_phase (·.cyclicFields) false 0 (fun _ _ => rfl) rows

/-- **What a calculation counted can be counted again from the rows that came out**, and counting cell by
cell comes to the same. -/
theorem computeRows_recounted (t : Table) (hids : (t.fields.map (·.id)).Nodup) (rows : List Row)
    (registry : Registry) (options : CalculationOptions) :
    let out := rows.map (t.computeRow · registry options)
    t.computeRows rows registry options = (out, .recount t.fields options out) ∧
      CountedRow.runFrom (.ofFields t.fields) registry options
        (.start (Schedule.ofFields t.fields).cyclic.length) rows
        = (out, .recount t.fields options out) := by
  intro out
  have hrun : t.computeRows rows registry options = (out, .recount t.fields options out) :=
    Prod.ext (t.computeRows_fst rows registry options) (computeRows_snd hids rows)
  exact ⟨hrun, (CountedRow.runFrom_eq _ registry options rows _).trans hrun⟩

/-- Two formulas that read each other, one that fails, one that shows the clock and reads itself, one that
cannot be read, and a relation, in two rows. -/
theorem computeRows_recounted_two_rows :
    let fields : List Field := [⟨"a", "A", .formula "{B} + 1"⟩, ⟨"b", "B", .formula "{A} + 1"⟩,
      ⟨"c", "C", .formula "1 / 0"⟩, ⟨"d", "D", .formula "DAYS(NOW(), {D})"⟩,
      ⟨"e", "E", .formula "NOW("⟩, ⟨"f", "F", .relation ⟨"jobs", none, true⟩⟩]
    let t : Table := ⟨"jobs", "Jobs", fields, [], []⟩
    let rows : List Row := [⟨"r1", .empty, .ofSeconds 0, .ofSeconds 0⟩,
      ⟨"r2", .ofList [("f", .list ["r1"])], .ofSeconds 0, .ofSeconds 0⟩]
    let options : CalculationOptions := .full (.ofSeconds 0)
    let out := rows.map (t.computeRow · (.ofTables [t]) options)
    (t.fields.map (·.id)).Nodup ∧
      t.computeRows rows (.ofTables [t]) options = (out, .recount fields options out) ∧
      CountedRow.runFrom (.ofFields fields) (.ofTables [t]) options
        (.start (Schedule.ofFields fields).cyclic.length) rows = (out, .recount fields options out) :=
  ⟨by decide, computeRows_recounted _ (by decide) _ _ _⟩

end Table

end Fieldbook
