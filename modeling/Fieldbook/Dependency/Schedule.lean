import Fieldbook.Dependency.Graph
import Fieldbook.Formula.Evaluate

/-!
# The order of calculation

A formula that reads another formula has to be computed after it.  `Schedule.ofFields` orders
the formulas of a table in rounds: each round takes the formulas whose precedents among the
formulas are done, in the order of the fields.  What is never taken reads itself, or reads a
formula that does; it is listed as cyclic.
-/

namespace Fieldbook

structure Schedule where
  graph : DependencyGraph
  /-- The ids of the formulas that can be ordered, precedents first. -/
  order : List String
  /-- The ids of the others, in the order of the fields. -/
  cyclic : List String

namespace DependencyGraph

/-- The fields that a field refers to by name, each once.  Only a formula that can be read has any,
and a name without a field leads nowhere. -/
def referredFields (fields : List Field) (f : Field) : List Field :=
  match f.type.expression? with
  | some expression =>
    match Formula.references expression with
    | .ok names => names.filterMap (Field.withName? fields)
    | .error _ => []
  | none => []

def ofFields (fields : List Field) : DependencyGraph :=
  ⟨fields.flatMap fun f => (referredFields fields f).map fun precedent => (precedent.id, f.id)⟩

end DependencyGraph

namespace Schedule

def formulaPrecedents (g : DependencyGraph) (formulas : List String) (id : String) : Nat :=
  (g.precedents id).keys.countP fun p => formulas.contains p && p != id

/-- How many formulas of the order so far are read by a formula. -/
def settledPrecedents (g : DependencyGraph) (order : List String) (id : String) : Nat :=
  order.countP fun done => (g.dependents done).contains id

/-- **Whether a formula can be taken**: it does not read itself, and no formula that it reads is
missing from the order so far. -/
def isReady (g : DependencyGraph) (formulas order : List String) (id : String) : Bool :=
  !(g.precedents id).contains id
    && formulaPrecedents g formulas id ≤ settledPrecedents g order id

def ready (g : DependencyGraph) (formulas order waiting : List String) : List String :=
  waiting.filter (isReady g formulas order)

def notReady (g : DependencyGraph) (formulas order waiting : List String) : List String :=
  waiting.filter fun id => !isReady g formulas order id

theorem length_notReady {g : DependencyGraph} {formulas order waiting : List String}
    (h : ready g formulas order waiting ≠ []) :
    (notReady g formulas order waiting).length < waiting.length := by
  obtain ⟨id, hid⟩ := List.exists_mem_of_ne_nil _ h
  obtain ⟨hmem, hready⟩ := List.mem_filter.1 hid
  exact List.length_filter_lt_length_iff_exists.2 ⟨id, hmem, by simpa using hready⟩

/-- **Rounds.**  Those waiting that are ready join the order together, until none is.  The result is
the order and those left waiting. -/
def rounds (g : DependencyGraph) (formulas order waiting : List String) :
    List String × List String :=
  if _h : ready g formulas order waiting = [] then (order, waiting)
  else
    rounds g formulas (order ++ ready g formulas order waiting)
      (notReady g formulas order waiting)
termination_by waiting.length
decreasing_by exact length_notReady _h

def ofFields (fields : List Field) : Schedule :=
  let graph := DependencyGraph.ofFields fields
  let formulas := (fields.filter Field.isFormula).map (·.id)
  let (order, cyclic) := rounds graph formulas [] formulas
  { graph, order, cyclic }

/-- All formulas, those that cannot be ordered last. -/
def all (s : Schedule) : List String := s.order ++ s.cyclic

/-- **The formulas that a change of a field may change**, in the order of calculation. -/
def affectedBy (s : Schedule) (id : String) : List String :=
  s.all.filter (s.graph.allDependents id).contains

end Schedule

end Fieldbook
