import Mathlib.Logic.Relation
import Fieldbook.Dependency.Schedule
import Fieldbook.Proofs.Keyed

/-!
# Edges

What the sets that a dependency graph gives out hold, said by its edges: `contains_precedents`,
`contains_dependents`, and `contains_allDependents` and `isCircular_iff` for what is reached along one
or more of them.  None of it depends on the order or the repetition of edges (`precedents_congr`,
`dependents_congr`).
-/

namespace Fieldbook

/-! ### What is reached -/

theorem mem_targets {edges : List (String × String)} {sources : List String} {d : String} :
    d ∈ targets edges sources ↔ ∃ s ∈ sources, (s, d) ∈ edges := by
  simp only [targets, List.mem_map, List.mem_filter, List.contains_iff_mem]
  constructor
  · rintro ⟨⟨s, t⟩, ⟨hmem, hs⟩, rfl⟩
    exact ⟨s, hs, hmem⟩
  · rintro ⟨s, hs, hmem⟩
    exact ⟨(s, d), ⟨hmem, hs⟩, rfl⟩

theorem mem_otherEdges {edges : List (String × String)} {sources : List String}
    {e : String × String} : e ∈ otherEdges edges sources ↔ e ∈ edges ∧ e.1 ∉ sources := by
  simp [otherEdges]

theorem path_of_mem_reachable {edges : List (String × String)} {sources : List String}
    {d : String} (h : d ∈ reachable edges sources) :
    ∃ s ∈ sources, Relation.TransGen (fun a b => (a, b) ∈ edges) s d := by
  fun_induction reachable edges sources with
  | case1 edges sources hnone => cases h
  | case2 edges sources hsome ih =>
    rcases List.mem_append.1 h with h | h
    · obtain ⟨s, hs, hedge⟩ := mem_targets.1 h
      exact ⟨s, hs, .single hedge⟩
    · obtain ⟨m, hm, hpath⟩ := ih h
      obtain ⟨s, hs, hedge⟩ := mem_targets.1 hm
      exact ⟨s, hs, .head hedge (Relation.TransGen.mono (fun a b hab => (mem_otherEdges.1 hab).1) _ _ hpath)⟩

/-- Whatever lies at the end of a path is found.  The edges that are used up start in a source, so
a path can be cut where it last leaves one. -/
theorem mem_reachable_of_path {edges : List (String × String)} {sources : List String}
    {s d : String} (hs : s ∈ sources) (h : Relation.TransGen (fun a b => (a, b) ∈ edges) s d) :
    d ∈ reachable edges sources := by
  fun_induction reachable edges sources generalizing s d with
  | case1 edges sources hnone =>
    obtain ⟨m, hedge, -⟩ := Relation.TransGen.head'_iff.1 h
    have hm : m ∈ targets edges sources := mem_targets.2 ⟨s, hs, hedge⟩
    rw [hnone] at hm
    cases hm
  | case2 edges sources hsome ih =>
    -- The induction is on the path from its end: its last edge leaves a source or what is found.
    induction h with
    | single hedge =>
      exact List.mem_append_left _ (mem_targets.2 ⟨s, hs, hedge⟩)
    | @tail m e hpath hedge ihpath =>
      by_cases hm : m ∈ sources
      · exact List.mem_append_left _ (mem_targets.2 ⟨m, hm, hedge⟩)
      · have hedge' : (m, e) ∈ otherEdges edges sources := mem_otherEdges.2 ⟨hedge, hm⟩
        refine List.mem_append_right _ ?_
        rcases List.mem_append.1 ihpath with hfirst | hlater
        · exact ih hfirst (.single hedge')
        · obtain ⟨t, ht, htm⟩ := path_of_mem_reachable hlater
          exact ih ht (htm.tail hedge')

/-- **The walk finds exactly what a path of one or more edges leads to.** -/
theorem mem_reachable {edges : List (String × String)} {sources : List String} {d : String} :
    d ∈ reachable edges sources
      ↔ ∃ s ∈ sources, Relation.TransGen (fun a b => (a, b) ∈ edges) s d :=
  ⟨path_of_mem_reachable, fun ⟨_, hs, h⟩ => mem_reachable_of_path hs h⟩

namespace DependencyGraph

variable {g g' : DependencyGraph}

theorem mem_precedents_names {id p : String} :
    p ∈ (g.edges.filter (·.2 == id)).map (·.1) ↔ (p, id) ∈ g.edges := by
  simp only [List.mem_map, List.mem_filter, beq_iff_eq]
  constructor
  · rintro ⟨⟨x, y⟩, ⟨hmem, rfl⟩, rfl⟩
    exact hmem
  · intro h
    exact ⟨(p, id), ⟨h, rfl⟩, rfl⟩

theorem mem_dependents_names {id d : String} :
    d ∈ (g.edges.filter (·.1 == id)).map (·.2) ↔ (id, d) ∈ g.edges := by
  simp only [List.mem_map, List.mem_filter, beq_iff_eq]
  constructor
  · rintro ⟨⟨x, y⟩, ⟨hmem, rfl⟩, rfl⟩
    exact hmem
  · intro h
    exact ⟨(id, d), ⟨h, rfl⟩, rfl⟩

@[simp] theorem contains_precedents {id p : String} :
    (g.precedents id).contains p = true ↔ (p, id) ∈ g.edges :=
  NameSet.contains_ofNames.trans mem_precedents_names

@[simp] theorem contains_dependents {id d : String} :
    (g.dependents id).contains d = true ↔ (id, d) ∈ g.edges :=
  NameSet.contains_ofNames.trans mem_dependents_names

/-- **All dependents are those at the end of a path.** -/
theorem contains_allDependents {id d : String} :
    (g.allDependents id).contains d = true
      ↔ Relation.TransGen (fun a b => (a, b) ∈ g.edges) id d := by
  rw [allDependents, NameSet.contains_ofNames, mem_reachable]
  simp

theorem mem_reversed {a b : String} : (a, b) ∈ g.reversed ↔ (b, a) ∈ g.edges := by
  simp only [reversed, List.mem_map, Prod.mk.injEq]
  constructor
  · rintro ⟨⟨x, y⟩, hmem, rfl, rfl⟩
    exact hmem
  · intro h
    exact ⟨(b, a), h, rfl, rfl⟩

/-- **A field is circular if a path leads from it back to it.** -/
theorem isCircular_iff {id : String} :
    g.isCircular id = true ↔ Relation.TransGen (fun a b => (a, b) ∈ g.edges) id id := by
  rw [isCircular, List.contains_iff_mem, mem_reachable, ← Relation.transGen_swap]
  simp only [List.mem_singleton, exists_eq_left, mem_reversed]

theorem precedents_congr (h : ∀ e, e ∈ g.edges ↔ e ∈ g'.edges) (id : String) :
    g.precedents id = g'.precedents id :=
  NameSet.ofNames_congr fun p => by
    rw [mem_precedents_names, mem_precedents_names, h]

theorem dependents_congr (h : ∀ e, e ∈ g.edges ↔ e ∈ g'.edges) (id : String) :
    g.dependents id = g'.dependents id :=
  NameSet.ofNames_congr fun d => by
    rw [mem_dependents_names, mem_dependents_names, h]

end DependencyGraph

end Fieldbook
