import Fieldbook.Formula.Walk
import Mathlib.Order.Bounds.Defs

/-!
# Passes over a tree

What a tree reads and what it calls is found on a pass over it (`Expr.passes_eq_walkFrom`), and a pass
recurs exactly as deep as the tree is high (`Expr.isGreatest_depth_walk`).
-/

namespace Fieldbook.Expr

mutual

/-- **The height of a tree**: how many nodes stand one below the other. -/
def height : Expr → Nat
  | negate operand => height operand + 1
  | binary _ left right => max (height left) (height right) + 1
  | call _ arguments => heightAll arguments + 1
  | number _ | text _ | bool _ | field _ => 1

def heightAll : List Expr → Nat
  | [] => 0
  | expr :: rest => max (height expr) (heightAll rest)

end

mutual

theorem depth_of_mem_walkFrom : ∀ (tree : Expr) {depth : Nat} {visit : Visit},
    visit ∈ walkFrom depth tree → visit.depth + 1 ≤ depth + tree.height
  | .number _, depth, visit, h | .text _, depth, visit, h | .bool _, depth, visit, h
  | .field _, depth, visit, h => by
    rw [walkFrom] at h
    obtain rfl := List.mem_singleton.1 h
    exact Nat.le_refl _
  | .negate operand, depth, visit, h => by
    rw [walkFrom] at h
    rw [height]
    rcases List.mem_cons.1 h with rfl | h
    · show depth + 1 ≤ _
      omega
    · have := depth_of_mem_walkFrom operand h
      omega
  | .binary op left right, depth, visit, h => by
    rw [walkFrom] at h
    rw [height]
    rcases List.mem_cons.1 h with rfl | h
    · show depth + 1 ≤ _
      omega
    · rcases List.mem_append.1 h with h | h
      · have := depth_of_mem_walkFrom left h
        omega
      · have := depth_of_mem_walkFrom right h
        omega
  | .call f arguments, depth, visit, h => by
    rw [walkFrom] at h
    rw [height]
    rcases List.mem_cons.1 h with rfl | h
    · show depth + 1 ≤ _
      omega
    · have := depth_of_mem_walkAllFrom arguments h
      omega

theorem depth_of_mem_walkAllFrom : ∀ (trees : List Expr) {depth : Nat} {visit : Visit},
    visit ∈ walkAllFrom depth trees → visit.depth + 1 ≤ depth + heightAll trees
  | [], depth, visit, h => by
    rw [walkAllFrom] at h
    cases h
  | tree :: rest, depth, visit, h => by
    rw [walkAllFrom] at h
    rw [heightAll]
    rcases List.mem_append.1 h with h | h
    · have := depth_of_mem_walkFrom tree h
      omega
    · have := depth_of_mem_walkAllFrom rest h
      omega

end

mutual

theorem exists_mem_walkFrom : ∀ (tree : Expr) (depth : Nat),
    ∃ visit ∈ walkFrom depth tree, visit.depth + 1 = depth + tree.height
  | .number _, depth | .text _, depth | .bool _, depth | .field _, depth => by
    rw [walkFrom]
    exact ⟨_, List.mem_singleton_self _, rfl⟩
  | .negate operand, depth => by
    obtain ⟨visit, hvisit, hdepth⟩ := exists_mem_walkFrom operand (depth + 1)
    rw [walkFrom, height]
    exact ⟨visit, List.mem_cons_of_mem _ hvisit, by omega⟩
  | .binary op left right, depth => by
    obtain ⟨visit, hvisit, hdepth⟩ := exists_mem_walkFrom left (depth + 1)
    obtain ⟨visit', hvisit', hdepth'⟩ := exists_mem_walkFrom right (depth + 1)
    rw [walkFrom, height]
    rcases Nat.le_total left.height right.height with hle | hle
    · exact ⟨visit', List.mem_cons_of_mem _ (List.mem_append_right _ hvisit'), by omega⟩
    · exact ⟨visit, List.mem_cons_of_mem _ (List.mem_append_left _ hvisit), by omega⟩
  | .call f arguments, depth => by
    rw [walkFrom, height]
    rcases exists_mem_walkAllFrom arguments (depth + 1) with rfl | ⟨visit, hvisit, hdepth⟩
    · exact ⟨_, List.mem_cons_self, rfl⟩
    · exact ⟨visit, List.mem_cons_of_mem _ hvisit, by omega⟩

theorem exists_mem_walkAllFrom : ∀ (trees : List Expr) (depth : Nat),
    trees = [] ∨ ∃ visit ∈ walkAllFrom depth trees, visit.depth + 1 = depth + heightAll trees
  | [], _ => .inl rfl
  | tree :: rest, depth => by
    obtain ⟨visit, hvisit, hdepth⟩ := exists_mem_walkFrom tree depth
    rw [walkAllFrom, heightAll]
    right
    rcases Nat.le_total (heightAll rest) tree.height with hle | hlt
    · exact ⟨visit, List.mem_append_left _ hvisit, by omega⟩
    · rcases exists_mem_walkAllFrom rest depth with rfl | ⟨visit', hvisit', hdepth'⟩
      · exact ⟨visit, List.mem_append_left _ hvisit, by rw [heightAll]; omega⟩
      · exact ⟨visit', List.mem_append_right _ hvisit', by omega⟩

end

/-- **The height is how deep a pass recurs.** -/
theorem isGreatest_depth_walk (tree : Expr) :
    IsGreatest {depth | ∃ visit ∈ tree.walk, visit.depth = depth} tree.height := by
  constructor
  · obtain ⟨visit, hvisit, hdepth⟩ := exists_mem_walkFrom tree 1
    exact ⟨visit, hvisit, by omega⟩
  · rintro _ ⟨visit, hvisit, rfl⟩
    have := depth_of_mem_walkFrom tree hvisit
    omega

mutual

/-- **What a tree reads and calls is found on a pass.** -/
theorem passes_eq_walkFrom : ∀ (tree : Expr) (depth : Nat),
    tree.fieldNames = (walkFrom depth tree).filterMap (·.node.fieldName?) ∧
      tree.calls = (walkFrom depth tree).filterMap (·.node.callee?)
  | .number _, depth | .text _, depth | .bool _, depth | .field _, depth => by
    rw [fieldNames, calls, walkFrom]
    exact ⟨rfl, rfl⟩
  | .negate operand, depth => by
    obtain ⟨hnames, hcalls⟩ := passes_eq_walkFrom operand (depth + 1)
    rw [fieldNames, calls, walkFrom, hnames, hcalls]
    exact ⟨rfl, rfl⟩
  | .binary op left right, depth => by
    obtain ⟨hnames, hcalls⟩ := passes_eq_walkFrom left (depth + 1)
    obtain ⟨hnames', hcalls'⟩ := passes_eq_walkFrom right (depth + 1)
    rw [fieldNames, calls, walkFrom, hnames, hcalls, hnames', hcalls', ← List.filterMap_append,
      ← List.filterMap_append]
    exact ⟨rfl, rfl⟩
  | .call f arguments, depth => by
    obtain ⟨hnames, hcalls⟩ := passesAll_eq_walkAllFrom arguments (depth + 1)
    rw [fieldNames, calls, walkFrom, hnames, hcalls]
    exact ⟨rfl, rfl⟩

theorem passesAll_eq_walkAllFrom : ∀ (trees : List Expr) (depth : Nat),
    fieldNamesAll trees = (walkAllFrom depth trees).filterMap (·.node.fieldName?) ∧
      callsAll trees = (walkAllFrom depth trees).filterMap (·.node.callee?)
  | [], depth => by
    rw [fieldNamesAll, callsAll, walkAllFrom]
    exact ⟨rfl, rfl⟩
  | tree :: rest, depth => by
    obtain ⟨hnames, hcalls⟩ := passes_eq_walkFrom tree depth
    obtain ⟨hnames', hcalls'⟩ := passesAll_eq_walkAllFrom rest depth
    rw [fieldNamesAll, callsAll, walkAllFrom, hnames, hcalls, hnames', hcalls',
      ← List.filterMap_append, ← List.filterMap_append]
    exact ⟨rfl, rfl⟩

end

end Fieldbook.Expr
