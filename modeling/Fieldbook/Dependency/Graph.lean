import Fieldbook.Keyed

/-!
# Dependency graphs

A `DependencyGraph` records which field reads which.  An edge leads from a **precedent** to a
**dependent** that reads it.  `reachable` follows edges: every edge that leads on from where the
walk stands is used up, so the walk ends with the edges.
-/

namespace Fieldbook

structure DependencyGraph where
  /-- Pairs of a precedent and a dependent. -/
  edges : List (String × String)

def targets (edges : List (String × String)) (sources : List String) : List String :=
  (edges.filter fun e => sources.contains e.1).map (·.2)

def otherEdges (edges : List (String × String)) (sources : List String) :
    List (String × String) :=
  edges.filter fun e => !sources.contains e.1

theorem length_otherEdges {edges : List (String × String)} {sources : List String}
    (h : targets edges sources ≠ []) : (otherEdges edges sources).length < edges.length := by
  have hne : (edges.filter fun e => sources.contains e.1) ≠ [] := fun e => h (by rw [targets, e]; rfl)
  obtain ⟨e, he⟩ := List.exists_mem_of_ne_nil _ hne
  obtain ⟨hmem, hleads⟩ := List.mem_filter.1 he
  exact List.length_filter_lt_length_iff_exists.2 ⟨e, hmem, by simpa using hleads⟩

/-- **What can be reached** from the sources along one or more edges. -/
def reachable (edges : List (String × String)) (sources : List String) : List String :=
  if _h : targets edges sources = [] then []
  else targets edges sources ++ reachable (otherEdges edges sources) (targets edges sources)
termination_by edges.length
decreasing_by exact length_otherEdges _h

namespace DependencyGraph

def empty : DependencyGraph := ⟨[]⟩

/-- **Adding a dependency**: the dependent reads the precedent. -/
def add (g : DependencyGraph) (precedent dependent : String) : DependencyGraph :=
  ⟨g.edges ++ [(precedent, dependent)]⟩

/-- The edges turned around: each dependent with what it reads. -/
def reversed (g : DependencyGraph) : List (String × String) := g.edges.map fun e => (e.2, e.1)

def dependents (g : DependencyGraph) (id : String) : NameSet :=
  .ofNames ((g.edges.filter (·.1 == id)).map (·.2))

def precedents (g : DependencyGraph) (id : String) : NameSet :=
  .ofNames ((g.edges.filter (·.2 == id)).map (·.1))

/-- **All fields that read a field**, directly or through others. -/
def allDependents (g : DependencyGraph) (id : String) : NameSet :=
  .ofNames (reachable g.edges [id])

/-- **Whether a field reads itself**, directly or through others. -/
def isCircular (g : DependencyGraph) (id : String) : Bool :=
  (reachable g.reversed [id]).contains id

end DependencyGraph

end Fieldbook
