import Mathlib.Data.List.Induction
import Fieldbook.Proofs.Dependency.Edges

/-!
# Neighbours in two maps

A dependency graph may keep its edges in two maps, one from each field to those that read it and one
from each field to those it reads.  A call enters an edge into both, so that each map must stay the
mirror of the other: `NeighbourMaps.Records` says that both hold the calls made and nothing else, and
one more call keeps it (`NeighbourMaps.Records.add`).  The sets found there are those that
`DependencyGraph` gives out (`NeighbourMaps.dependents_ofCalls`, `NeighbourMaps.precedents_ofCalls`).
-/

namespace Fieldbook

namespace Keyed

variable (m : Keyed NameSet)

def names (key : String) : NameSet := (m.get? key).getD .empty

def addName (key name : String) : Keyed NameSet := m.insert key ((m.names key).insert name ())

theorem contains_names_empty {key k : String} :
    ((empty : Keyed NameSet).names key).contains k = false := rfl

theorem contains_names_addName {key name k n : String} :
    ((m.addName key name).names k).contains n = true ↔
      (k = key ∧ n = name) ∨ (m.names k).contains n = true := by
  rw [names, addName, get?_insert]
  by_cases hk : k = key
  · rw [if_pos hk, Option.getD_some, NameSet.contains_insert_iff, hk]
    simp
  · rw [if_neg hk]
    simp [hk, names]

end Keyed

/-- Edges in two maps, found from either end. -/
structure NeighbourMaps where
  dependents : Keyed NameSet
  precedents : Keyed NameSet

namespace NeighbourMaps

def empty : NeighbourMaps := ⟨.empty, .empty⟩

/-- **One more call**: the dependent reads the precedent.  It goes into both maps. -/
def add (maps : NeighbourMaps) (precedent dependent : String) : NeighbourMaps :=
  ⟨maps.dependents.addName precedent dependent, maps.precedents.addName dependent precedent⟩

/-- The maps after some calls, each a precedent with a dependent. -/
def ofCalls (calls : List (String × String)) : NeighbourMaps :=
  calls.foldl (fun maps c => maps.add c.1 c.2) empty

/-- **Both maps hold the calls that were made.** -/
structure Records (calls : List (String × String)) (maps : NeighbourMaps) : Prop where
  dependents : ∀ p d, (maps.dependents.names p).contains d = true ↔ (p, d) ∈ calls
  precedents : ∀ p d, (maps.precedents.names d).contains p = true ↔ (p, d) ∈ calls

variable {calls : List (String × String)} {maps : NeighbourMaps}

theorem records_empty : Records [] empty :=
  ⟨fun _ _ => by simp [empty, Keyed.contains_names_empty],
    fun _ _ => by simp [empty, Keyed.contains_names_empty]⟩

theorem Records.add (h : Records calls maps) (c : String × String) :
    Records (calls ++ [c]) (maps.add c.1 c.2) := by
  obtain ⟨precedent, dependent⟩ := c
  refine ⟨fun p d => ?_, fun p d => ?_⟩
  · show ((maps.dependents.addName precedent dependent).names p).contains d = true ↔ _
    rw [Keyed.contains_names_addName, h.dependents, List.mem_append, List.mem_singleton,
      Prod.mk.injEq, or_comm]
  · show ((maps.precedents.addName dependent precedent).names d).contains p = true ↔ _
    rw [Keyed.contains_names_addName, h.precedents, List.mem_append, List.mem_singleton,
      Prod.mk.injEq, or_comm, and_comm]

theorem records_ofCalls (calls : List (String × String)) : Records calls (ofCalls calls) := by
  induction calls using List.reverseRecOn with
  | nil => exact records_empty
  | append_singleton calls c ih =>
    unfold ofCalls
    rw [List.foldl_append]
    exact ih.add c

end NeighbourMaps

def DependencyGraph.ofCalls (calls : List (String × String)) : DependencyGraph :=
  calls.foldl (fun g c => g.add c.1 c.2) empty

theorem DependencyGraph.edges_ofCalls (calls : List (String × String)) :
    (ofCalls calls).edges = calls := by
  induction calls using List.reverseRecOn with
  | nil => rfl
  | append_singleton calls c ih =>
    unfold ofCalls
    rw [List.foldl_append]
    exact congrArg (· ++ [c]) ih

namespace NeighbourMaps

theorem dependents_ofCalls (calls : List (String × String)) (id : String) :
    (ofCalls calls).dependents.names id = (DependencyGraph.ofCalls calls).dependents id :=
  NameSet.ext_contains fun d => by
    rw [(records_ofCalls calls).dependents, DependencyGraph.contains_dependents,
      DependencyGraph.edges_ofCalls]

theorem precedents_ofCalls (calls : List (String × String)) (id : String) :
    (ofCalls calls).precedents.names id = (DependencyGraph.ofCalls calls).precedents id :=
  NameSet.ext_contains fun p => by
    rw [(records_ofCalls calls).precedents, DependencyGraph.contains_precedents,
      DependencyGraph.edges_ofCalls]

end NeighbourMaps

end Fieldbook
