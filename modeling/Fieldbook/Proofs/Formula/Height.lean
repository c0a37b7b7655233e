import Fieldbook.Proofs.Formula.Accepted
import Fieldbook.Proofs.Formula.Passes
import Fieldbook.Proofs.Formula.TokenText

/-!
# How high a tree is

The nesting that a formula is allowed bounds its parentheses, calls and minus signs, and each of them
leaves room for three levels of operators and one operand: four nodes, one below the other.  But
operators of one level group to the left without being nested, `a + b + c` stands as high as it is long,
and no height is too much for it (`parse_ones`).

So the bound is on `Expr.chainHeight`, in which operators of one level that group to the left count as
one node.  `Derives.chainHeight_le` finds it over the grammar, where each production adds at most one;
`Expr.height_le_mul` compares it with the height itself, which is at most as many times larger as the
longest such chain is long.  Nested calls with an operator of each level around them attain the bound
(`Formula.chainHeight_of_parse_nested`).
-/

namespace Fieldbook

namespace Expr

/-- How many operators of a level group to the left, one below the other, from the root down. -/
def chainLength (level : Nat) : Expr → Nat
  | binary op left _ => if op.level = level then chainLength level left + 1 else 0
  | negate _ | call _ _ | number _ | text _ | bool _ | field _ => 0

mutual

/-- **The height of a tree, each chain counted as one node**: from an operator it is no step down to
a left operand that is an operator of the same level. -/
def chainHeight : Expr → Nat
  | negate operand => chainHeight operand + 1
  | binary op left right =>
    max (if chainLength op.level left = 0 then chainHeight left + 1 else chainHeight left)
      (chainHeight right + 1)
  | call _ arguments => chainHeightAll arguments + 1
  | number _ | text _ | bool _ | field _ => 1

def chainHeightAll : List Expr → Nat
  | [] => 0
  | expr :: rest => max (chainHeight expr) (chainHeightAll rest)

end

mutual

/-- **The longest chain of a tree**: how many operators of one level group to the left. -/
def longestChain : Expr → Nat
  | negate operand => longestChain operand
  | binary op left right =>
    max (chainLength op.level left + 1) (max (longestChain left) (longestChain right))
  | call _ arguments => longestChainAll arguments
  | number _ | text _ | bool _ | field _ => 0

def longestChainAll : List Expr → Nat
  | [] => 0
  | expr :: rest => max (longestChain expr) (longestChainAll rest)

end

variable {k : Nat}

/-! ### Chains counted as one node -/

mutual

/-- **A tree is at most as much higher as its chains are long.**  From the root down a chain has only
its own length, whatever the longest one is. -/
theorem height_le_mul (hk : 1 ≤ k) : ∀ tree : Expr, tree.longestChain ≤ k →
    tree.height ≤ k * tree.chainHeight ∧
      ∀ level, tree.chainLength level ≠ 0 →
        tree.height + k ≤ k * tree.chainHeight + tree.chainLength level
  | .number _, _ | .text _, _ | .bool _, _ | .field _, _ => by
    rw [height, chainHeight, Nat.mul_one]
    exact ⟨hk, fun level h => absurd rfl h⟩
  | .negate operand, h => by
    rw [longestChain] at h
    have hoperand := (height_le_mul hk operand h).1
    rw [height, chainHeight, Nat.mul_succ]
    exact ⟨by omega, fun level h => absurd rfl h⟩
  | .call f arguments, h => by
    rw [longestChain] at h
    have harguments := heightAll_le_mul hk arguments h
    rw [height, chainHeight, Nat.mul_succ]
    exact ⟨by omega, fun level h => absurd rfl h⟩
  | .binary op left right, h => by
    rw [longestChain] at h
    obtain ⟨hleft, hchain⟩ := height_le_mul hk left (by omega)
    have hright := (height_le_mul hk right (by omega)).1
    have hroot : (binary op left right).height + k
        ≤ k * (binary op left right).chainHeight + (left.chainLength op.level + 1) := by
      rw [height, chainHeight]
      generalize hC : max _ (right.chainHeight + 1) = C
      have hrightC : k * right.chainHeight + k ≤ k * C := by
        rw [← Nat.mul_succ]
        exact Nat.mul_le_mul_left k (by omega)
      -- The left operand goes on with the chain, or stands one step down like the right one.
      by_cases hzero : left.chainLength op.level = 0
      · rw [if_pos hzero] at hC
        have hleftC : k * left.chainHeight + k ≤ k * C := by
          rw [← Nat.mul_succ]
          exact Nat.mul_le_mul_left k (by omega)
        omega
      · rw [if_neg hzero] at hC
        have hleftC : k * left.chainHeight ≤ k * C := Nat.mul_le_mul_left k (by omega)
        have := hchain op.level hzero
        omega
    refine ⟨by omega, fun level hlevel => ?_⟩
    rw [chainLength] at hlevel ⊢
    split at hlevel
    · rename_i heq
      subst heq
      rw [if_pos rfl]
      exact hroot
    · exact absurd rfl hlevel

theorem heightAll_le_mul (hk : 1 ≤ k) : ∀ trees : List Expr, longestChainAll trees ≤ k →
    heightAll trees ≤ k * chainHeightAll trees
  | [], _ => by
    rw [heightAll]
    exact Nat.zero_le _
  | tree :: rest, h => by
    rw [longestChainAll] at h
    have htree := (height_le_mul hk tree (by omega)).1
    have hrest := heightAll_le_mul hk rest (by omega)
    rw [heightAll, chainHeightAll, ← Nat.mul_max_mul_left]
    omega

end

theorem chainHeightAll_le {trees : List Expr} {b : Nat} (h : ∀ tree ∈ trees, tree.chainHeight ≤ b) :
    chainHeightAll trees ≤ b := by
  induction trees with
  | nil => exact Nat.zero_le b
  | cons tree rest ih =>
    obtain ⟨htree, hrest⟩ := List.forall_mem_cons.1 h
    rw [chainHeightAll]
    exact Nat.max_le.2 ⟨htree, ih hrest⟩

variable {level b : Nat} {parts : List ChainPart}

theorem chainHeight_joinTrees_of_chain {left : Expr} (hop : ∀ part ∈ parts, part.op.level = level)
    (hparts : ∀ part ∈ parts, part.tree.chainHeight ≤ b) (hchain : left.chainLength level ≠ 0)
    (hleft : left.chainHeight ≤ b + 1) : (ChainPart.joinTrees left parts).chainHeight ≤ b + 1 := by
  induction parts generalizing left with
  | nil => exact hleft
  | cons part rest ih =>
    obtain ⟨hlevel, hoprest⟩ := List.forall_mem_cons.1 hop
    obtain ⟨hpart, hrest⟩ := List.forall_mem_cons.1 hparts
    subst hlevel
    refine ih hoprest hrest ?_ ?_
    · rw [chainLength, if_pos rfl]
      exact Nat.succ_ne_zero _
    · rw [chainHeight, if_neg hchain]
      omega

/-- **A chain is one node above its operands.** -/
theorem chainHeight_joinTrees {first : Expr} (hop : ∀ part ∈ parts, part.op.level = level)
    (hparts : ∀ part ∈ parts, part.tree.chainHeight ≤ b) (hfirst : first.chainHeight ≤ b) :
    (ChainPart.joinTrees first parts).chainHeight ≤ b + 1 := by
  cases parts with
  | nil => exact Nat.le_succ_of_le hfirst
  | cons part rest =>
    obtain ⟨hlevel, hoprest⟩ := List.forall_mem_cons.1 hop
    obtain ⟨hpart, hrest⟩ := List.forall_mem_cons.1 hparts
    change (ChainPart.joinTrees (.binary part.op first part.tree) rest).chainHeight ≤ b + 1
    refine chainHeight_joinTrees_of_chain hoprest hrest ?_ ?_
    · rw [chainLength, if_pos hlevel]
      exact Nat.succ_ne_zero _
    · rw [chainHeight]
      split <;> omega

end Expr

/-- **Each level of nesting leaves room for four nodes**, one for each level of the grammar. -/
theorem Derives.chainHeight_le {level depth : Nat} {tokens : List Token} {tree : Expr}
    (h : Derives level depth tokens tree) : tree.chainHeight + level ≤ 4 * depth + 5 := by
  induction h with
  | number n => rw [Expr.chainHeight]; omega
  | text s => rw [Expr.chainHeight]; omega
  | bool b => rw [Expr.chainHeight]; omega
  | field name => rw [Expr.chainHeight]; omega
  | negate h ih =>
    rw [Expr.chainHeight]
    omega
  | group h ih => omega
  | @call depth f arguments h ih =>
    have hall : Expr.chainHeightAll (arguments.map (·.2)) ≤ 4 * depth + 4 := by
      refine Expr.chainHeightAll_le fun tree htree => ?_
      obtain ⟨a, ha, rfl⟩ := List.mem_map.1 htree
      have := ih a ha
      omega
    rw [Expr.chainHeight]
    omega
  | @chain level depth tokens first hpos hle hfirst parts hop hparts ihfirst ih =>
    have hchain : (ChainPart.joinTrees first parts).chainHeight ≤ 4 * depth + 4 - level + 1 := by
      refine Expr.chainHeight_joinTrees hop (fun part hpart => ?_) (by omega)
      have := ih part hpart
      omega
    omega

/-! ### Formulas of ones -/

namespace Token

def spaced (tokens : List Token) : String := " ".intercalate (tokens.map display)

/-- A one, or a token that is only ever written as it is shown. -/
def IsPlain : Token → Prop
  | number n => n = 1
  | operator _ | openParen | closeParen | comma | function _ => True
  | text _ | bool _ | field _ => False

theorem scansTo_display {t : Token} (h : t.IsPlain) : ScansTo t t.display.toList := by
  refine scansTo_of_written (.shown ?_) ?_ ?_
  · rintro s rfl
    exact h
  · cases t with
    | number n => exact ⟨_, h⟩
    | text | bool | field => exact h.elim
    | operator | openParen | closeParen | comma | function => trivial
  · rintro n rfl
    rw [show n = 1 from h]
    decide +kernel

theorem scan_spaced {tokens : List Token} (h : ∀ t ∈ tokens, t.IsPlain) :
    scan (spaced tokens) = .ok tokens := by
  rw [scan, spaced, String.toList_intercalate]
  refine scanFrom_intercalate _ ?_
  induction tokens with
  | nil => exact .nil
  | cons t rest ih =>
    obtain ⟨ht, hrest⟩ := List.forall_mem_cons.1 h
    exact .cons (scansTo_display ht) (ih hrest)

end Token

theorem Expr.parse_spaced {tokens : List Token} {tree : Expr} (h : ∀ t ∈ tokens, t.IsPlain)
    (hderives : Derives 1 maxDepth tokens tree) : Expr.parse (Token.spaced tokens) = .ok tree := by
  rw [Expr.parse, Algebra.read, Token.scan_spaced h]
  exact readTokens_of_derives hderives

namespace ChainPart

def plusOne : ChainPart := ⟨.add, [.number 1], .number 1⟩

theorem isPlain_of_mem_allTokens {n : Nat} :
    ∀ t ∈ allTokens (List.replicate n plusOne), t.IsPlain := by
  intro t ht
  obtain ⟨part, hpart, ht⟩ := List.mem_flatMap.1 ht
  rw [List.eq_of_mem_replicate hpart] at ht
  simp only [plusOne, List.mem_cons, List.not_mem_nil, or_false] at ht
  rcases ht with rfl | rfl
  · trivial
  · rfl

theorem height_joinTrees_plusOne (left : Expr) (hleft : 1 ≤ left.height) (n : Nat) :
    (joinTrees left (List.replicate n plusOne)).height = left.height + n := by
  induction n generalizing left with
  | zero => rfl
  | succ n ih =>
    have hnext : (Expr.binary .add left (.number 1)).height = left.height + 1 := by
      rw [Expr.height, Expr.height, Nat.max_eq_left hleft]
    rw [List.replicate_succ]
    change (joinTrees (.binary .add left (.number 1)) _).height = _
    rw [ih _ (by omega), hnext]
    omega

end ChainPart

def onesTokens (plusSigns : Nat) : List Token :=
  .number 1 :: ChainPart.allTokens (List.replicate plusSigns ChainPart.plusOne)

/-- **No height is too much for a sum**: it is accepted however long it is. -/
theorem parse_ones (plusSigns : Nat) : ∃ tree,
    Expr.parse (Token.spaced (onesTokens plusSigns)) = .ok tree ∧ tree.height = plusSigns + 1 := by
  refine ⟨ChainPart.joinTrees (.number 1) (List.replicate plusSigns ChainPart.plusOne), ?_, ?_⟩
  · refine Expr.parse_spaced ?_ (Derives.loosen (m := 2) ?_ (by decide) (by decide))
    · exact List.forall_mem_cons.2 ⟨rfl, ChainPart.isPlain_of_mem_allTokens⟩
    · have hone : Derives 3 maxDepth [.number 1] (.number 1) :=
        (Derives.number 1).loosen (by decide) (by decide)
      refine Derives.chain (by decide) (by decide) hone _ (fun part hpart => ?_) fun part hpart => ?_
      · rw [List.eq_of_mem_replicate hpart]
        rfl
      · rw [List.eq_of_mem_replicate hpart]
        exact hone
  · have hone : (Expr.number 1).height = 1 := by rw [Expr.height]
    rw [ChainPart.height_joinTrees_plusOne _ (Nat.le_of_eq hone.symm), hone, Nat.add_comm]

example : Token.spaced (onesTokens 2) = "1 + 1 + 1" := by decide +kernel

/-! ### Formulas as high as they can be without chains -/

/-- An operator of each level, each in the right operand of the one before. -/
def stairTokens (operand : List Token) : List Token :=
  .number 1 :: .operator .greaterThan :: .number 1 :: .operator .add :: .number 1 ::
    .operator .multiply :: operand

def stairTree (operand : Expr) : Expr :=
  .binary .greaterThan (.number 1)
    (.binary .add (.number 1) (.binary .multiply (.number 1) operand))

/-- Calls nested to a depth, with the three operators around each of them. -/
def nestedTokens : Nat → List Token
  | 0 => stairTokens [.number 1]
  | depth + 1 =>
    stairTokens (.function .abs :: .openParen :: nestedTokens depth ++ [.closeParen])

def nestedTree : Nat → Expr
  | 0 => stairTree (.number 1)
  | depth + 1 => stairTree (.call .abs [nestedTree depth])

theorem isPlain_of_mem_stairTokens {operand : List Token} (h : ∀ t ∈ operand, t.IsPlain) :
    ∀ t ∈ stairTokens operand, t.IsPlain := by
  simpa [stairTokens, Token.IsPlain] using h

theorem isPlain_of_mem_nestedTokens (depth : Nat) : ∀ t ∈ nestedTokens depth, t.IsPlain := by
  induction depth with
  | zero =>
    refine isPlain_of_mem_stairTokens (List.forall_mem_singleton.2 ?_)
    rfl
  | succ depth ih =>
    refine isPlain_of_mem_stairTokens fun t ht => ?_
    simp only [List.cons_append, List.mem_cons, List.mem_append, List.not_mem_nil, or_false] at ht
    rcases ht with rfl | rfl | ht | rfl
    · trivial
    · trivial
    · exact ih t ht
    · trivial

theorem Derives.stair {depth : Nat} {tokens : List Token} {tree : Expr}
    (h : Derives 4 depth tokens tree) : Derives 1 depth (stairTokens tokens) (stairTree tree) := by
  have hone : ∀ level, 1 ≤ level → level ≤ 4 → Derives level depth [.number 1] (.number 1) :=
    fun level => (Derives.number 1).loosen
  have hproduct := (hone Operator.multiply.level (by decide) (by decide)).binary h
  have hsum := (hone Operator.add.level (by decide) (by decide)).binary hproduct
  exact (hone Operator.greaterThan.level (by decide) (by decide)).binary hsum

theorem derives_nested (depth : Nat) : Derives 1 depth (nestedTokens depth) (nestedTree depth) := by
  induction depth with
  | zero => exact (Derives.number 1).stair
  | succ depth ih =>
    have hcall := Derives.call .abs [(nestedTokens depth, nestedTree depth)]
      (List.forall_mem_singleton.2 ih)
    rw [argumentTokens_singleton] at hcall
    exact hcall.stair

theorem height_stairTree {tree : Expr} (h : 1 ≤ tree.height) :
    (stairTree tree).height = tree.height + 3 := by
  simp only [stairTree, Expr.height]
  omega

/-- Each level of nesting adds four nodes, and no chain is longer than one operator. -/
theorem height_nestedTree (depth : Nat) :
    (nestedTree depth).height = 4 * (depth + 1) ∧ (nestedTree depth).longestChain = 1 := by
  induction depth with
  | zero =>
    constructor
    · simp [nestedTree, stairTree, Expr.height]
    · simp [nestedTree, stairTree, Expr.longestChain, Expr.chainLength]
  | succ depth ih =>
    obtain ⟨hheight, hchain⟩ := ih
    constructor
    · have hcall : (Expr.call .abs [nestedTree depth]).height = 4 * (depth + 1) + 1 := by
        rw [Expr.height, Expr.heightAll, Expr.heightAll, hheight, Nat.max_zero]
      rw [nestedTree, height_stairTree (by omega), hcall]
      omega
    · simp [nestedTree, stairTree, Expr.longestChain, Expr.longestChainAll, Expr.chainLength, hchain]

namespace Formula

/-- **The trees of formulas are bounded but for their chains.**  A pass recurs as deep as a tree is high;
with each chain counted as one node no tree is higher than four nodes for each level of nesting and one
level more, so that its height is within this bound times the length of its longest chain. -/
theorem chainHeight_of_parse {expression : String} {tree : Expr}
    (h : Expr.parse expression = .ok tree) :
    IsGreatest {depth | ∃ visit ∈ tree.walk, visit.depth = depth} tree.height ∧
      tree.chainHeight ≤ 4 * (maxDepth + 1) ∧
      tree.height ≤ max 1 tree.longestChain * (4 * (maxDepth + 1)) := by
  obtain ⟨tokens, -, hread⟩ := bind_eq_ok h
  have hchain : tree.chainHeight ≤ 4 * (maxDepth + 1) := by
    have := (derives_of_readTokens hread).chainHeight_le
    omega
  refine ⟨tree.isGreatest_depth_walk, hchain, ?_⟩
  have hheight := (Expr.height_le_mul (Nat.le_max_left 1 tree.longestChain) tree
    (Nat.le_max_right _ _)).1
  exact Nat.le_trans hheight (Nat.mul_le_mul_left _ hchain)

/-- Calls nested as deep as they may be, with operators of every level around each: no chain is longer than
one operator, and the bounds are attained. -/
theorem chainHeight_of_parse_nested :
    let expression := Token.spaced (nestedTokens maxDepth)
    let tree := nestedTree maxDepth
    Expr.parse expression = .ok tree ∧ tree.longestChain = 1 ∧
      IsGreatest {depth | ∃ visit ∈ tree.walk, visit.depth = depth} (4 * (maxDepth + 1)) ∧
      tree.chainHeight = 4 * (maxDepth + 1) ∧ tree.height = 4 * (maxDepth + 1) := by
  intro expression tree
  have hparse : Expr.parse expression = .ok tree :=
    Expr.parse_spaced (isPlain_of_mem_nestedTokens maxDepth) (derives_nested maxDepth)
  obtain ⟨hheight, hlongest⟩ := height_nestedTree maxDepth
  obtain ⟨hgreatest, hchain, -⟩ := chainHeight_of_parse hparse
  have hle := (Expr.height_le_mul (Nat.le_refl 1) tree (Nat.le_of_eq hlongest)).1
  rw [Nat.one_mul] at hle
  refine ⟨hparse, hlongest, ?_, Nat.le_antisymm hchain ?_, hheight⟩
  · rw [← hheight]
    exact hgreatest
  · rw [← hheight]
    exact hle

/-- `1 + 1 + … + 1` with 1028 plus signs is accepted and stands higher than the nesting alone allows. -/
theorem exceeds_of_ones :
    ∃ tree, Expr.parse (Token.spaced (onesTokens 1028)) = .ok tree ∧
      4 * (maxDepth + 1) < tree.height := by
  obtain ⟨tree, hparse, hheight⟩ := parse_ones 1028
  refine ⟨tree, hparse, ?_⟩
  rw [hheight]
  decide

end Formula

end Fieldbook
