import Fieldbook.Dependency.Schedule
import Fieldbook.Link

/-!
# Calculation

Calculating a row fills in the cells that are computed, in three phases: cells found by
following links, then the instants at which the row was made and last changed, then formulas in
the order of their schedule, each seeing what was filled in before it.  Links are followed from
the row as it was given.
-/

namespace Fieldbook

structure CalculationOptions where
  resolveLinks : Bool
  evaluateFormulas : Bool
  fillTimestamps : Bool
  now : Instant
deriving DecidableEq

def CalculationOptions.full (now : Instant) : CalculationOptions := ⟨true, true, true, now⟩

structure CalculationStats where
  rows : Nat
  formulaCells : Nat
  /-- Formula cells that show an error. -/
  formulaErrors : Nat
  /-- Formula cells whose formula reads the clock. -/
  volatileCells : Nat
  /-- Relation, lookup and rollup cells. -/
  linkCells : Nat
  /-- Formulas without a place in the order. -/
  cyclicFields : Nat
deriving DecidableEq

namespace CalculationStats

def start (cyclicFields : Nat) : CalculationStats := ⟨0, 0, 0, 0, 0, cyclicFields⟩

/-- What was done, with one more row: so many cells found by links, and the formulas that were
computed with their cells. -/
def addRow (s : CalculationStats) (linkCells volatileCells : Nat) (formulaCells : List Cell) :
    CalculationStats :=
  { s with
    rows := s.rows + 1
    formulaCells := s.formulaCells + formulaCells.length
    formulaErrors := s.formulaErrors + formulaCells.countP Cell.isError
    volatileCells := s.volatileCells + volatileCells
    linkCells := s.linkCells + linkCells }

end CalculationStats

structure FormulaStep where
  field : String
  expression : String
  isVolatile : Bool

/-- The formulas of a table in the order in which they are computed, the cyclic ones last. -/
structure CalculationPlan where
  fields : List Field
  steps : List FormulaStep
  cyclicFields : Nat

namespace CalculationPlan

/-- The step that computes a field, if it is a formula.  A formula that cannot be read does not read
the clock either. -/
def step? (f : Field) : Option FormulaStep :=
  f.type.expression?.map fun expression =>
    ⟨f.id, expression, match Formula.isVolatile expression with | .ok b => b | .error _ => false⟩

def ofFields (fields : List Field) : CalculationPlan :=
  let schedule := Schedule.ofFields fields
  { fields
    steps := (schedule.all.filterMap (Field.withId? fields)).filterMap step?
    cyclicFields := schedule.cyclic.length }

end CalculationPlan

namespace Row

/-- **Links.**  Every field that is found by following links, from the cells of `source`. -/
def fillLinks (fields : List Field) (registry : Registry) (source : Row) : Row :=
  (fields.filter (·.type.isLinked)).foldl
    (fun out f => out.setCell f.id (f.resolve source registry fields)) source

/-- The cell that shows an instant of the row, under a field that asks for one. -/
def timestampCell? (r : Row) (f : Field) : Option Cell :=
  match f.type with
  | .createdTime => some (.text (String.ofList r.created.millisText))
  | .lastEditedTime => some (.text (String.ofList r.updated.millisText))
  | _ => none

/-- **Timestamps.** -/
def fillTimestamps (fields : List Field) (r : Row) : Row :=
  fields.foldl
    (fun out f =>
      match r.timestampCell? f with
      | some cell => out.setCell f.id cell
      | none => out) r

/-- **Formulas.**  Each step sees the cells of those before it.  The cells are also given in the order
in which they were computed. -/
def fillFormulas (fields : List Field) (now : Instant) : List FormulaStep → Row → Row × List Cell
  | [], r => (r, [])
  | step :: rest, r =>
    let cell := Formula.cell step.expression ⟨r, fields, now⟩
    let (out, cells) := fillFormulas fields now rest (r.setCell step.field cell)
    (out, cell :: cells)

end Row

namespace CalculationPlan

/-- **A calculated row**, with the formula cells in the order in which they were computed. -/
def run (plan : CalculationPlan) (registry : Registry) (options : CalculationOptions) (row : Row) :
    Row × List Cell :=
  let row := if options.resolveLinks then row.fillLinks plan.fields registry else row
  let row := if options.fillTimestamps then row.fillTimestamps plan.fields else row
  if options.evaluateFormulas then row.fillFormulas plan.fields options.now plan.steps
  else (row, [])

def linkCells (plan : CalculationPlan) (options : CalculationOptions) : Nat :=
  if options.resolveLinks then plan.fields.countP (·.type.isLinked) else 0

def volatileCells (plan : CalculationPlan) (options : CalculationOptions) : Nat :=
  if options.evaluateFormulas then plan.steps.countP (·.isVolatile) else 0

def runFrom (plan : CalculationPlan) (registry : Registry) (options : CalculationOptions)
    (stats : CalculationStats) : List Row → List Row × CalculationStats
  | [] => ([], stats)
  | row :: rest =>
    let (out, formulaCells) := plan.run registry options row
    let stats := stats.addRow (plan.linkCells options) (plan.volatileCells options) formulaCells
    let (rows, stats) := runFrom plan registry options stats rest
    (out :: rows, stats)

/-- **Calculated rows**, in their order, and what was done. -/
def runAll (plan : CalculationPlan) (registry : Registry) (options : CalculationOptions)
    (rows : List Row) : List Row × CalculationStats :=
  plan.runFrom registry options (.start plan.cyclicFields) rows

end CalculationPlan

namespace Table

/-- **One row with its computed cells filled in.**  The row need not be stored in the table. -/
def computeRow (t : Table) (row : Row) (registry : Registry) (options : CalculationOptions) : Row :=
  ((CalculationPlan.ofFields t.fields).run registry options row).1

def computeRows (t : Table) (rows : List Row) (registry : Registry)
    (options : CalculationOptions) : List Row × CalculationStats :=
  (CalculationPlan.ofFields t.fields).runAll registry options rows

def withRows (t : Table) (rows : List Row) : Table := { t with rows := rows }

end Table

end Fieldbook
