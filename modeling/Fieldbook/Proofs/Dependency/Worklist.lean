import Mathlib.Data.List.Perm.Subperm
import Mathlib.Logic.Function.Iterate
import Fieldbook.Proofs.Dependency.Neighbours

/-!
# Searches with a worklist

What is reached from a field may also be found with a stack of fields still to look at and a set of
fields that were visited; whether a field reads itself, by the same search against the edges until the
field turns up.  The neighbours of a field come in whatever order its set is gone through.

Two things hold of every turn of such a search.  What is on the stack or visited is reached, and
whatever a visited field leads to is on the stack or visited (`Worklist.Explores.visit`); and a turn
uses up an edge that was not followed or an entry of the stack (`Worklist.work_visit`).  So both
searches end after at most two turns for each edge, and find what `DependencyGraph` finds.
-/

namespace Fieldbook

/-- Neighbours as they come when each set is gone through: once each, in any order. -/
structure Enumeration (m : Keyed NameSet) where
  list : String → List String
  perm : ∀ id, (list id).Perm (m.names id).keys

instance (m : Keyed NameSet) : Inhabited (Enumeration m) :=
  ⟨⟨fun id => (m.names id).keys, fun _ => .refl _⟩⟩

/-- **Neighbours along some edges**, each listed once. -/
structure Lists (edges : List (String × String)) (next : String → List String) : Prop where
  nodup : ∀ id, (next id).Nodup
  mem_iff : ∀ {id d}, d ∈ next id ↔ (id, d) ∈ edges

theorem Enumeration.lists {m : Keyed NameSet} {edges : List (String × String)} (order : Enumeration m)
    (h : ∀ id d, (m.names id).contains d = true ↔ (id, d) ∈ edges) : Lists edges order.list where
  nodup id := (order.perm id).nodup_iff.2 (Keyed.nodup_keys _)
  mem_iff := by
    intro id d
    rw [(order.perm id).mem_iff, Keyed.mem_keys_iff, h]

theorem Lists.length_le {edges : List (String × String)} {next : String → List String}
    (h : Lists edges next) (id : String) : (next id).length ≤ edges.countP (·.1 == id) := by
  have hsub : next id ⊆ (edges.filter (·.1 == id)).map (·.2) := by
    intro d hd
    exact List.mem_map.2 ⟨(id, d), List.mem_filter.2 ⟨h.mem_iff.1 hd, by simp⟩, rfl⟩
  have := (List.subperm_of_subset (h.nodup id) hsub).length_le
  rwa [List.length_map, ← List.countP_eq_length_filter] at this

structure Worklist where
  /-- The fields to look at, the last one put on first. -/
  stack : List String
  visited : NameSet

namespace Worklist

/-- A field taken from the stack: its neighbours are put on, unless it was visited before. -/
def visit (next : String → List String) (current : String) (rest : List String)
    (visited : NameSet) : Worklist :=
  if visited.contains current then ⟨rest, visited⟩
  else ⟨(next current).reverse ++ rest, visited.insert current ()⟩

/-- **One turn of the search for all that is reached**; nothing happens once the stack is empty. -/
def turn (next : String → List String) : Worklist → Worklist
  | ⟨[], visited⟩ => ⟨[], visited⟩
  | ⟨current :: rest, visited⟩ => visit next current rest visited

def start (next : String → List String) (id : String) : Worklist := ⟨(next id).reverse, .empty⟩

variable {edges : List (String × String)} {next : String → List String} {id current : String}
  {rest : List String} {visited : NameSet} {w : Worklist}

/-! ### Every turn uses something up -/

/-- What is left to do: the entries of the stack and the edges from fields that were not visited. -/
def work (edges : List (String × String)) (w : Worklist) : Nat :=
  w.stack.length + edges.countP fun e => !w.visited.contains e.1

/-- Visiting a field takes its edges out of what is left. -/
theorem countP_insert (edges : List (String × String)) (h : visited.contains current = false) :
    (edges.countP fun e => !(visited.insert current ()).contains e.1) +
        edges.countP (·.1 == current) =
      edges.countP fun e => !visited.contains e.1 := by
  induction edges with
  | nil => rfl
  | cons e rest ih =>
    rw [List.countP_cons, List.countP_cons, List.countP_cons, NameSet.contains_insert, ← ih]
    by_cases he : e.1 = current
    · simp [he, h]
      omega
    · simp [he]
      omega

theorem work_visit (h : Lists edges next) (current : String) (rest : List String)
    (visited : NameSet) :
    (visit next current rest visited).work edges + 1 ≤ work edges ⟨current :: rest, visited⟩ := by
  unfold visit
  cases hvisited : visited.contains current with
  | true =>
    rw [if_pos rfl]
    simp only [work, List.length_cons]
    omega
  | false =>
    have hcount := countP_insert edges hvisited
    have hnext := h.length_le current
    rw [if_neg Bool.false_ne_true]
    simp only [work, List.length_cons, List.length_append, List.length_reverse]
    omega

theorem work_start_le (h : Lists edges next) (id : String) :
    (start next id).work edges ≤ 2 * edges.length := by
  have hnext := h.length_le id
  have hcount : edges.countP (·.1 == id) ≤ edges.length := List.countP_le_length
  have hall : (edges.countP fun e => !Keyed.contains (Keyed.empty : NameSet) e.1) ≤ edges.length :=
    List.countP_le_length
  simp only [work, start, List.length_reverse]
  omega

/-- **The search ends** as soon as it had a turn for each piece of work. -/
theorem stack_iterate_eq_nil (h : Lists edges next) {n : Nat} {w : Worklist}
    (hn : w.work edges ≤ n) : ((turn next)^[n] w).stack = [] := by
  induction n generalizing w with
  | zero =>
    have : w.stack.length = 0 := by
      unfold work at hn
      omega
    exact List.eq_nil_of_length_eq_zero this
  | succ n ih =>
    obtain ⟨stack, visited⟩ := w
    rw [Function.iterate_succ_apply]
    cases stack with
    | nil =>
      have hfixed : turn next ⟨[], visited⟩ = ⟨[], visited⟩ := rfl
      rw [hfixed, Function.iterate_fixed hfixed]
    | cons current rest =>
      have hwork := work_visit h current rest visited
      exact ih (w := visit next current rest visited) (by omega)

/-! ### What a search knows is what is reached -/

def Knows (w : Worklist) (x : String) : Prop := w.visited.contains x = true ∨ x ∈ w.stack

/-- **What is known is reached, and what is visited leads to what is known.** -/
structure Explores (edges : List (String × String)) (id : String) (w : Worklist) : Prop where
  sound : ∀ {x}, w.Knows x → Relation.TransGen (fun a b => (a, b) ∈ edges) id x
  closed : ∀ {y x}, y = id ∨ w.visited.contains y = true → (y, x) ∈ edges → w.Knows x

theorem explores_start (h : Lists edges next) (id : String) :
    Explores edges id (start next id) where
  sound := by
    rintro x (hx | hx)
    · cases hx
    · exact .single (h.mem_iff.1 (List.mem_reverse.1 hx))
  closed := by
    rintro y x (rfl | hy) hedge
    · exact .inr (List.mem_reverse.2 (h.mem_iff.2 hedge))
    · cases hy

theorem contains_visited_visit {y : String} : (visit next current rest visited).visited.contains y = true ↔
    y = current ∨ visited.contains y = true := by
  unfold visit
  split
  · rename_i hvisited
    constructor
    · exact .inr
    · rintro (rfl | hy)
      · exact hvisited
      · exact hy
  · exact NameSet.contains_insert_iff

theorem knows_visit (h : Lists edges next) {x : String} :
    (visit next current rest visited).Knows x ↔
      Knows ⟨current :: rest, visited⟩ x ∨ visited.contains current = false ∧ (current, x) ∈ edges := by
  unfold Knows
  rw [contains_visited_visit, List.mem_cons]
  unfold visit
  cases hvisited : visited.contains current with
  | true =>
    rw [if_pos rfl]
    grind
  | false =>
    rw [if_neg Bool.false_ne_true, List.mem_append, List.mem_reverse, h.mem_iff]
    grind

theorem Explores.visit (h : Lists edges next) (hw : Explores edges id ⟨current :: rest, visited⟩) :
    Explores edges id (visit next current rest visited) where
  sound := by
    intro x hx
    rcases (knows_visit h).1 hx with hx | ⟨-, hedge⟩
    · exact hw.sound hx
    · exact (hw.sound (.inr List.mem_cons_self)).tail hedge
  closed := by
    intro y x hy hedge
    refine (knows_visit h).2 ?_
    rw [contains_visited_visit] at hy
    by_cases hold : y = id ∨ visited.contains y = true
    · exact .inl (hw.closed hold hedge)
    · -- only the field that is visited now is new
      push Not at hold
      obtain rfl : y = current := (hy.resolve_left hold.1).resolve_right hold.2
      exact .inr ⟨by simpa using hold.2, hedge⟩

theorem Explores.iterate (h : Lists edges next) (hw : Explores edges id w) (n : Nat) :
    Explores edges id ((turn next)^[n] w) := by
  induction n with
  | zero => exact hw
  | succ n ih =>
    rw [Function.iterate_succ_apply']
    generalize (turn next)^[n] w = v at ih
    obtain ⟨stack, visited⟩ := v
    cases stack with
    | nil => exact ih
    | cons current rest => exact ih.visit h

/-- **With an empty stack all that is reached is visited.** -/
theorem Explores.contains_iff (hw : Explores edges id ⟨[], visited⟩) {x : String} :
    visited.contains x = true ↔ Relation.TransGen (fun a b => (a, b) ∈ edges) id x := by
  have hknown : ∀ {y}, Knows ⟨[], visited⟩ y → visited.contains y = true :=
    fun h => h.resolve_right List.not_mem_nil
  constructor
  · exact fun hx => hw.sound (.inl hx)
  · intro hpath
    induction hpath with
    | single hedge => exact hknown (hw.closed (.inl rfl) hedge)
    | tail _ hedge ih => exact hknown (hw.closed (.inr ih) hedge)

/-- **The search finds all that is reached**, after at most two turns for each edge. -/
theorem iterate_start (h : Lists edges next) {found : NameSet}
    (hfound : ∀ x, found.contains x = true ↔ Relation.TransGen (fun a b => (a, b) ∈ edges) id x)
    {n : Nat} (hn : 2 * edges.length ≤ n) : (turn next)^[n] (start next id) = ⟨[], found⟩ := by
  have hstack := stack_iterate_eq_nil (n := n) h (Nat.le_trans (work_start_le h id) hn)
  have hexplores := (explores_start h id).iterate h n
  generalize (turn next)^[n] (start next id) = w at hstack hexplores
  obtain ⟨stack, visited⟩ := w
  obtain rfl : stack = [] := hstack
  rw [NameSet.ext_contains fun x => hexplores.contains_iff.trans (hfound x).symm]

end Worklist

/-! ### The search for a cycle -/

inductive CycleSearch where
  | searching (w : Worklist)
  | answered (found : Bool)

namespace CycleSearch

open Worklist

/-- **One turn of the search**: it ends with the field on top of the stack, or with an empty stack. -/
def turn (next : String → List String) (id : String) : CycleSearch → CycleSearch
  | searching ⟨[], _⟩ => answered false
  | searching ⟨current :: rest, visited⟩ =>
    if current = id then answered true else searching (visit next current rest visited)
  | answered found => answered found

variable {edges : List (String × String)} {next : String → List String} {id : String}
  {s : CycleSearch}

theorem turn_searching_cons (current : String) (rest : List String) (visited : NameSet) :
    turn next id (searching ⟨current :: rest, visited⟩) =
      if current = id then answered true else searching (visit next current rest visited) := rfl

/-- What is left to do, with one turn for the answer. -/
def work (edges : List (String × String)) : CycleSearch → Nat
  | searching w => w.work edges + 1
  | answered _ => 0

theorem exists_iterate_eq_answered (h : Lists edges next) (id : String) {n : Nat} {s : CycleSearch}
    (hn : s.work edges ≤ n) : ∃ found, (turn next id)^[n] s = answered found := by
  induction n generalizing s with
  | zero =>
    cases s with
    | searching w => cases hn
    | answered found => exact ⟨found, rfl⟩
  | succ n ih =>
    rw [Function.iterate_succ_apply]
    refine ih ?_
    match s with
    | answered _ => exact Nat.zero_le n
    | searching ⟨[], _⟩ => exact Nat.zero_le n
    | searching ⟨current :: rest, visited⟩ =>
      have hwork := work_visit h current rest visited
      rw [turn_searching_cons]
      split
      · exact Nat.zero_le n
      · simp only [work] at hn ⊢
        omega

/-- **A search that goes on has not visited the field, and an answer is right.** -/
def Sound (edges : List (String × String)) (id : String) : CycleSearch → Prop
  | searching w => Explores edges id w ∧ w.visited.contains id = false
  | answered found => found = true ↔ Relation.TransGen (fun a b => (a, b) ∈ edges) id id

theorem Sound.turn (h : Lists edges next) (hs : s.Sound edges id) :
    (s.turn next id).Sound edges id := by
  match s with
  | answered _ => exact hs
  | searching ⟨[], visited⟩ =>
    obtain ⟨hexplores, hid⟩ := hs
    show false = true ↔ _
    rw [← hexplores.contains_iff, show visited.contains id = false from hid]
  | searching ⟨current :: rest, visited⟩ =>
    obtain ⟨hexplores, hid⟩ := hs
    rw [turn_searching_cons]
    split
    · rename_i heq
      have hpath := hexplores.sound (.inr List.mem_cons_self)
      rw [heq] at hpath
      exact ⟨fun _ => hpath, fun _ => rfl⟩
    · rename_i hne
      refine ⟨hexplores.visit h, Bool.eq_false_iff.2 fun hvisited => ?_⟩
      rcases contains_visited_visit.1 hvisited with heq | hvisited
      · exact hne heq.symm
      · exact absurd (hid.symm.trans hvisited) Bool.false_ne_true

theorem Sound.iterate (h : Lists edges next) (hs : s.Sound edges id) (n : Nat) :
    ((CycleSearch.turn next id)^[n] s).Sound edges id := by
  induction n with
  | zero => exact hs
  | succ n ih =>
    rw [Function.iterate_succ_apply']
    exact ih.turn h

/-- **The search tells whether a path leads back**, after at most two turns for each edge and one. -/
theorem iterate_start (h : Lists edges next) {circular : Bool}
    (hcircular : circular = true ↔ Relation.TransGen (fun a b => (a, b) ∈ edges) id id)
    {n : Nat} (hn : 2 * edges.length < n) :
    (turn next id)^[n] (searching (start next id)) = answered circular := by
  have hwork : work edges (searching (start next id)) ≤ n := by
    have := work_start_le h id
    simp only [work]
    omega
  obtain ⟨found, hfound⟩ := exists_iterate_eq_answered h id hwork
  have hsound : Sound edges id (searching (start next id)) := ⟨explores_start h id, rfl⟩
  have hanswer := hsound.iterate h n
  rw [hfound] at hanswer
  rw [hfound, Bool.eq_iff_iff.2 (hanswer.trans hcircular.symm)]

end CycleSearch

/-! ### The graph of some calls -/

namespace DependencyGraph

variable {g g' : DependencyGraph} {calls : List (String × String)}

theorem transGen_reversed_iff {id : String} :
    Relation.TransGen (fun a b => (a, b) ∈ g.reversed) id id ↔
      Relation.TransGen (fun a b => (a, b) ∈ g.edges) id id := by
  rw [← Relation.transGen_swap]
  simp only [mem_reversed]

theorem isCircular_iff_contains_allDependents {id : String} :
    g.isCircular id = true ↔ (g.allDependents id).contains id = true := by
  rw [isCircular_iff, contains_allDependents]

theorem allDependents_congr (h : ∀ e, e ∈ g.edges ↔ e ∈ g'.edges) (id : String) :
    g.allDependents id = g'.allDependents id :=
  NameSet.ext_contains fun d => by
    rw [contains_allDependents, contains_allDependents]
    simp only [h]

theorem isCircular_congr (h : ∀ e, e ∈ g.edges ↔ e ∈ g'.edges) (id : String) :
    g.isCircular id = g'.isCircular id := by
  rw [Bool.eq_iff_iff, isCircular_iff_contains_allDependents, isCircular_iff_contains_allDependents,
    allDependents_congr h]

theorem lists_dependents (down : Enumeration (NeighbourMaps.ofCalls calls).dependents) :
    Lists calls down.list :=
  down.lists (NeighbourMaps.records_ofCalls calls).dependents

theorem lists_precedents (up : Enumeration (NeighbourMaps.ofCalls calls).precedents) :
    Lists (ofCalls calls).reversed up.list :=
  up.lists fun d p => by
    rw [(NeighbourMaps.records_ofCalls calls).precedents, mem_reversed, edges_ofCalls]

variable (calls)

/-- **What a graph answers after some calls.**  It finds an edge from either end.  In whatever order it
goes through the neighbours, the search for all dependents ends with what paths of edges lead to, and
the search for a cycle ends with whether the field is among them; neither takes more than two turns
for each call and one.  Calls made again, or in another order, give the same answers. -/
theorem searches_ofCalls (down : Enumeration (NeighbourMaps.ofCalls calls).dependents)
    (up : Enumeration (NeighbourMaps.ofCalls calls).precedents) (id : String) :
    let g := ofCalls calls
    let maps := NeighbourMaps.ofCalls calls
    (∀ p d, (maps.dependents.names p).contains d = true
      ↔ (maps.precedents.names d).contains p = true)
    ∧ maps.dependents.names id = g.dependents id
    ∧ maps.precedents.names id = g.precedents id
    ∧ (∀ n, 2 * calls.length ≤ n →
        (Worklist.turn down.list)^[n] (.start down.list id) = ⟨[], g.allDependents id⟩)
    ∧ (∀ d, (g.allDependents id).contains d = true
        ↔ Relation.TransGen (fun a b => (a, b) ∈ calls) id d)
    ∧ (∀ n, 2 * calls.length < n →
        (CycleSearch.turn up.list id)^[n] (.searching (.start up.list id))
          = .answered (g.isCircular id))
    ∧ (g.isCircular id = true ↔ (g.allDependents id).contains id = true)
    ∧ ∀ calls', (∀ c, c ∈ calls' ↔ c ∈ calls) →
        (ofCalls calls').dependents id = g.dependents id
        ∧ (ofCalls calls').precedents id = g.precedents id
        ∧ (ofCalls calls').allDependents id = g.allDependents id
        ∧ (ofCalls calls').isCircular id = g.isCircular id := by
  intro g maps
  have hedges : g.edges = calls := edges_ofCalls calls
  have hrecords : maps.Records calls := NeighbourMaps.records_ofCalls calls
  have hreached : ∀ d, (g.allDependents id).contains d = true
      ↔ Relation.TransGen (fun a b => (a, b) ∈ calls) id d := fun d => by
    rw [contains_allDependents, hedges]
  refine ⟨fun p d => (hrecords.dependents p d).trans (hrecords.precedents p d).symm,
    NeighbourMaps.dependents_ofCalls calls id, NeighbourMaps.precedents_ofCalls calls id,
    fun n hn => Worklist.iterate_start (lists_dependents down) hreached hn, hreached,
    fun n hn => ?_, isCircular_iff_contains_allDependents, fun calls' hcalls => ?_⟩
  · refine CycleSearch.iterate_start (lists_precedents up) ?_ ?_
    · rw [transGen_reversed_iff, isCircular_iff]
    · rwa [reversed, List.length_map, hedges]
  · have hsame : ∀ e, e ∈ (ofCalls calls').edges ↔ e ∈ g.edges := fun e => by
      rw [edges_ofCalls, hedges, hcalls]
    exact ⟨dependents_congr hsame id, precedents_congr hsame id, allDependents_congr hsame id,
      isCircular_congr hsame id⟩

/-- Two fields that read each other, one of them also itself, and one that reads it; a call is made
twice. -/
theorem searches_ofCalls_pair_loop_and_tail :
    let calls := [("ping", "pong"), ("pong", "ping"), ("pong", "pong"), ("pong", "echo"),
      ("ping", "pong")]
    let calls' := [("pong", "echo"), ("pong", "pong"), ("pong", "ping"), ("ping", "pong")]
    let down : Enumeration (NeighbourMaps.ofCalls calls).dependents := default
    let up : Enumeration (NeighbourMaps.ofCalls calls).precedents := default
    (Worklist.turn down.list)^[10] (.start down.list "ping")
      = ⟨[], .ofNames ["echo", "ping", "pong"]⟩
    ∧ (CycleSearch.turn up.list "ping")^[11] (.searching (.start up.list "ping")) = .answered true
    ∧ (ofCalls calls').allDependents "ping" = (ofCalls calls).allDependents "ping" := by
  intro calls calls' down up
  obtain ⟨-, -, -, hall, -, hcycle, -, hcalls⟩ := searches_ofCalls calls down up "ping"
  obtain ⟨-, -, hsame, -⟩ := hcalls calls' (by simp [calls, calls']; tauto)
  refine ⟨(hall 10 (by decide)).trans ?_, (hcycle 11 (by decide)).trans ?_, hsame⟩
  · exact congrArg (Worklist.mk []) (by decide +kernel)
  · exact congrArg CycleSearch.answered (by decide +kernel)

end DependencyGraph

end Fieldbook
