import Fieldbook.Formula.Expr

/-!
# The grammar of formulas

`Derives level depth tokens tree` says that tokens are an expression of the grammar, and which tree
they stand for:

    level 1   Expr = Sum (comparison Sum)*         level 3   Term = Prim ((* | / | %) Prim)*
    level 2   Sum  = Term ((+ | -) Term)*          level 4   Prim = literal | field | -Prim
                                                           | (Expr) | f([Expr (, Expr)*])

It is the grammar and nothing of a reader.  `reading_of_derives` is one half of what joins it to
`Algebra.readTokens`: tokens that are derived are read, from any stack that has room for their depth,
and what the reader then holds settles to their tree.
-/

namespace Fieldbook

/-- One more operand of a chain: the operator before it, its tokens and its tree. -/
structure ChainPart where
  op : Operator
  tokens : List Token
  tree : Expr

namespace ChainPart

def allTokens (parts : List ChainPart) : List Token :=
  parts.flatMap fun part => .operator part.op :: part.tokens

/-- **Operators of one level group to the left**: each has all that stands before it as its left
operand. -/
def joinTrees (first : Expr) (parts : List ChainPart) : Expr :=
  parts.foldl (fun left part => .binary part.op left part.tree) first

end ChainPart

def argumentTokens (arguments : List (List Token × Expr)) : List Token :=
  [Token.comma].intercalate (arguments.map (·.1))

/-- **The grammar.**  Tokens are an expression of a level that stands for a tree, and no point of it
lies within more than `depth` parentheses, calls and minus signs. -/
inductive Derives : Nat → Nat → List Token → Expr → Prop
  | number {depth : Nat} (n : Number) : Derives 4 depth [.number n] (.number n)
  | text {depth : Nat} (s : String) : Derives 4 depth [.text s] (.text s)
  | bool {depth : Nat} (b : Bool) : Derives 4 depth [.bool b] (.bool b)
  | field {depth : Nat} (name : String) : Derives 4 depth [.field name] (.field name)
  | negate {depth : Nat} {tokens : List Token} {tree : Expr} (h : Derives 4 depth tokens tree) :
      Derives 4 (depth + 1) (.operator .subtract :: tokens) (.negate tree)
  /-- A parenthesis leaves no trace in the tree. -/
  | group {depth : Nat} {tokens : List Token} {tree : Expr} (h : Derives 1 depth tokens tree) :
      Derives 4 (depth + 1) (.openParen :: tokens ++ [.closeParen]) tree
  | call {depth : Nat} (f : Builtin) (arguments : List (List Token × Expr))
      (h : ∀ a ∈ arguments, Derives 1 depth a.1 a.2) :
      Derives 4 (depth + 1)
        (.function f :: .openParen :: argumentTokens arguments ++ [.closeParen])
        (.call f (arguments.map (·.2)))
  /-- One operand, or several with operators of the level between them. -/
  | chain {level depth : Nat} {tokens : List Token} {first : Expr} (hpos : 1 ≤ level)
      (hle : level ≤ 3) (hfirst : Derives (level + 1) depth tokens first)
      (parts : List ChainPart) (hop : ∀ part ∈ parts, part.op.level = level)
      (hparts : ∀ part ∈ parts, Derives (level + 1) depth part.tokens part.tree) :
      Derives level depth (tokens ++ ChainPart.allTokens parts) (ChainPart.joinTrees first parts)

@[simp] theorem argumentTokens_singleton (a : List Token × Expr) : argumentTokens [a] = a.1 :=
  List.intercalate_singleton

theorem argumentTokens_cons_cons (a b : List Token × Expr) (rest : List (List Token × Expr)) :
    argumentTokens (a :: b :: rest) = a.1 ++ .comma :: argumentTokens (b :: rest) := by
  simp [argumentTokens, List.intercalate_cons_cons]

theorem argumentTokens_concat (arguments : List (List Token × Expr)) (a : List Token × Expr) :
    argumentTokens (arguments ++ [a]) = (arguments.flatMap fun b => b.1 ++ [.comma]) ++ a.1 := by
  induction arguments with
  | nil => simp
  | cons b rest ih =>
    cases rest with
    | nil => simp [argumentTokens_cons_cons]
    | cons c rest =>
      rw [List.cons_append, List.cons_append, argumentTokens_cons_cons, ← List.cons_append, ih]
      simp

theorem Operator.level_pos (op : Operator) : 1 ≤ op.level := by
  cases op <;> decide

theorem Operator.level_le (op : Operator) : op.level ≤ 3 := by
  cases op <;> decide

namespace Derives

variable {level depth : Nat} {tokens : List Token} {tree : Expr}

theorem level_le (h : Derives level depth tokens tree) : level ≤ 4 := by
  cases h with
  | chain hpos hle => exact Nat.le_succ_of_le hle
  | _ => exact Nat.le_refl 4

theorem loosen {m : Nat} (h : Derives m depth tokens tree) (hpos : 1 ≤ level) (hle : level ≤ m) :
    Derives level depth tokens tree := by
  induction m with
  | zero => omega
  | succ m ih =>
    have hm : m + 1 ≤ 4 := h.level_le
    by_cases heq : level = m + 1
    · rw [heq]
      exact h
    · have hchain : Derives m depth (tokens ++ ChainPart.allTokens [])
          (ChainPart.joinTrees tree []) :=
        .chain (by omega) (by omega) h [] (by simp) (by simp)
      rw [ChainPart.allTokens, List.flatMap_nil, List.append_nil] at hchain
      exact ih hchain (by omega)

/-- **A chain grows at its end.** -/
theorem binary {op : Operator} {right : List Token} {rightTree : Expr}
    (hleft : Derives op.level depth tokens tree)
    (hright : Derives (op.level + 1) depth right rightTree) :
    Derives op.level depth (tokens ++ .operator op :: right) (.binary op tree rightTree) := by
  have hle : op.level ≤ 3 := op.level_le
  generalize hlevel : op.level = level at *
  cases hleft with
  | @chain _ _ front first hpos hle hfirst parts hop hparts =>
    have hlast : ∀ part ∈ parts ++ [⟨op, right, rightTree⟩],
        part.op.level = level ∧ Derives (level + 1) depth part.tokens part.tree := by
      intro part hpart
      rcases List.mem_append.1 hpart with hpart | hpart
      · exact ⟨hop part hpart, hparts part hpart⟩
      · obtain rfl := List.mem_singleton.1 hpart
        exact ⟨hlevel, hright⟩
    have hchain := Derives.chain hpos hle hfirst (parts ++ [⟨op, right, rightTree⟩])
      (fun part hpart => (hlast part hpart).1) fun part hpart => (hlast part hpart).2
    simpa [ChainPart.allTokens, ChainPart.joinTrees] using hchain
  | _ => omega

end Derives

/-! ### Readings that stand for an operand -/

/-- **What is open binds more loosely than a level**: the innermost part is no minus sign, and no
operator that would take an operand of the level before the operand goes on. -/
def Looser {α : Type} (level : Nat) : List (OpenPart α) → Prop
  | .minus :: _ => False
  | .pending _ op :: _ => op.level < level
  | _ => True

theorem Looser.mono {α : Type} {level level' : Nat} {stack : List (OpenPart α)}
    (h : Looser level stack) (hle : level ≤ level') : Looser level' stack := by
  cases stack with
  | nil => trivial
  | cons part rest =>
    cases part with
    | minus => exact h
    | pending left op => exact Nat.lt_of_lt_of_le h hle
    | group => trivial
    | call f arguments => trivial

theorem looser_of_ne_minus {α : Type} {stack : List (OpenPart α)}
    (h : ∀ below, stack = .minus :: below → False) : Looser 4 stack := by
  cases stack with
  | nil => trivial
  | cons part rest =>
    cases part with
    | minus => exact h rest rfl
    | pending left op => exact Nat.lt_succ_of_le op.level_le
    | group => trivial
    | call f arguments => trivial

theorem Looser.of_ne_pending {α : Type} {level : Nat} {stack : List (OpenPart α)}
    (h : Looser level stack) (hpending : ∀ left op below, stack = .pending left op :: below → False)
    (level' : Nat) : Looser level' stack := by
  cases stack with
  | nil => trivial
  | cons part rest =>
    cases part with
    | minus => exact h
    | pending left op => exact (hpending left op rest rfl).elim
    | group => trivial
    | call f arguments => trivial

namespace Reading

variable {α : Type} {A : Algebra α}

theorem complete_of_looser {level : Nat} {stack : List (OpenPart α)} (h : Looser level stack)
    (value : α) : complete A value stack = .operand value stack := by
  rw [complete]
  rintro rest rfl
  exact h

theorem settle_of_looser {level : Nat} {stack : List (OpenPart α)} (h : Looser level stack)
    (value : α) : settle A level value stack = .ok (value, stack) := by
  cases stack with
  | nil => rfl
  | cons part rest =>
    cases part with
    | minus => rfl
    | pending left op =>
      have hlt : ¬ level ≤ op.level := Nat.not_le_of_lt h
      rw [settle, if_neg hlt]
    | group => rfl
    | call f arguments => rfl

/-- **A reading stands for an operand on a stack** up to a level: whatever of at most that level comes
next settles it to the same. -/
def StandsFor (level : Nat) (tree : Expr) (stack : List (OpenPart Expr)) (r : Reading Expr) : Prop :=
  ∃ value below, r = .operand value below ∧
    ∀ k ≤ level, settle Expr.algebra k value below = settle Expr.algebra k tree stack

/-- An operator takes all of its level before it as its left operand. -/
theorem StandsFor.step_operator {op : Operator} {tree : Expr} {stack : List (OpenPart Expr)}
    {r : Reading Expr} (h : StandsFor op.level tree stack r) (hstack : Looser op.level stack) :
    step Expr.algebra r (.operator op) = .ok (.start (.pending tree op :: stack)) := by
  obtain ⟨value, below, rfl, hsettle⟩ := h
  rw [step, hsettle op.level (Nat.le_refl _), settle_of_looser hstack]
  rfl

/-- Its right operand joins it. -/
theorem StandsFor.of_pending {op : Operator} {left right : Expr} {stack : List (OpenPart Expr)}
    {r : Reading Expr} (h : StandsFor (op.level + 1) right (.pending left op :: stack) r) :
    StandsFor op.level (.binary op left right) stack r := by
  obtain ⟨value, below, rfl, hsettle⟩ := h
  refine ⟨value, below, rfl, fun k hk => ?_⟩
  rw [hsettle k (Nat.le_succ_of_le hk), settle, if_pos hk]
  rfl

/-- After a whole expression the next token meets the part around it. -/
theorem StandsFor.step_end {tree : Expr} {stack : List (OpenPart Expr)} {r : Reading Expr}
    (h : StandsFor 1 tree stack r) (hstack : Looser 0 stack) {token : Token}
    (htoken : ∀ op, token ≠ .operator op) :
    step Expr.algebra r token = closeWith Expr.algebra tree stack token := by
  obtain ⟨value, below, rfl, hsettle⟩ := h
  have hzero : settle Expr.algebra 0 value below = .ok (tree, stack) := by
    rw [hsettle 0 (Nat.zero_le 1), settle_of_looser hstack]
  rw [step, hzero]
  · rfl
  · exact htoken

/-! ### Reading what is derived -/

theorem deeper_of_lt {stack : List (OpenPart α)} (h : openDepth stack < maxDepth)
    (next : Reading α) : deeper stack next = .ok next := by
  rw [deeper, if_pos h]

theorem openDepth_cons_of_nests {part : OpenPart α} (h : part.nests = true)
    (stack : List (OpenPart α)) : openDepth (part :: stack) = openDepth stack + 1 := by
  rw [openDepth, openDepth, List.countP_cons_of_pos h]

theorem openDepth_cons_pending (left : α) (op : Operator) (stack : List (OpenPart α)) :
    openDepth (.pending left op :: stack) = openDepth stack := by
  rw [openDepth, openDepth, List.countP_cons_of_neg]
  exact Bool.false_ne_true

/-- **Tokens are read to a tree** of a level from a stack. -/
def Reads (level : Nat) (tokens : List Token) (tree : Expr) (stack : List (OpenPart Expr)) : Prop :=
  ∃ r, tokens.foldlM (step Expr.algebra) (start stack) = .ok r ∧ StandsFor level tree stack r

theorem reads_parts {level depth : Nat} {stack : List (OpenPart Expr)}
    (hdepth : openDepth stack + depth ≤ maxDepth) (hstack : Looser level stack)
    (parts : List ChainPart) (hop : ∀ part ∈ parts, part.op.level = level)
    (hparts : ∀ part ∈ parts, ∀ s, openDepth s + depth ≤ maxDepth → Looser (level + 1) s →
      Reads (level + 1) part.tokens part.tree s)
    {left : Expr} {r : Reading Expr} (h : StandsFor level left stack r) :
    ∃ r', (ChainPart.allTokens parts).foldlM (step Expr.algebra) r = .ok r' ∧
      StandsFor level (ChainPart.joinTrees left parts) stack r' := by
  induction parts generalizing left r with
  | nil => exact ⟨r, rfl, h⟩
  | cons part rest ih =>
    obtain rfl : part.op.level = level := hop part List.mem_cons_self
    have hroom : openDepth (.pending left part.op :: stack) + depth ≤ maxDepth := by
      rw [openDepth_cons_pending]
      exact hdepth
    obtain ⟨r₁, hread, hr₁⟩ := hparts part List.mem_cons_self (.pending left part.op :: stack)
      hroom (Nat.lt_succ_self _)
    obtain ⟨r₂, hrest, hr₂⟩ := ih (fun p hp => hop p (List.mem_cons_of_mem _ hp))
      (fun p hp => hparts p (List.mem_cons_of_mem _ hp)) hr₁.of_pending
    refine ⟨r₂, ?_, hr₂⟩
    change (.operator part.op :: (part.tokens ++ ChainPart.allTokens rest)).foldlM _ r = _
    rw [List.foldlM_cons, h.step_operator hstack]
    change (part.tokens ++ ChainPart.allTokens rest).foldlM _ (start _) = _
    rw [List.foldlM_append, hread]
    exact hrest

/-- The arguments of a call and its closing parenthesis, some arguments having been read. -/
theorem reads_arguments {depth : Nat} (f : Builtin) {stack : List (OpenPart Expr)}
    (hdepth : openDepth stack + 1 + depth ≤ maxDepth) (a : List Token × Expr)
    (rest : List (List Token × Expr))
    (h : ∀ b ∈ a :: rest, ∀ s, openDepth s + depth ≤ maxDepth → Looser 1 s → Reads 1 b.1 b.2 s)
    (done : List Expr) :
    (argumentTokens (a :: rest) ++ [Token.closeParen]).foldlM (step Expr.algebra)
        (start (.call f done :: stack))
      = .ok (complete Expr.algebra (.call f (done ++ (a :: rest).map Prod.snd)) stack) := by
  have hroom : ∀ done, openDepth (OpenPart.call f done :: stack) + depth ≤ maxDepth := by
    intro done
    rw [openDepth_cons_of_nests rfl]
    exact hdepth
  induction rest generalizing a done with
  | nil =>
    obtain ⟨r, hread, hr⟩ := h a List.mem_cons_self _ (hroom done) trivial
    have hclose : step Expr.algebra r .closeParen
        = .ok (complete Expr.algebra (.call f (done ++ [a.2])) stack) := by
      rw [hr.step_end trivial (by simp)]
      rfl
    rw [argumentTokens_singleton, List.foldlM_append, hread]
    change step Expr.algebra r .closeParen >>= pure = _
    rw [hclose]
    rfl
  | cons b rest ih =>
    obtain ⟨r, hread, hr⟩ := h a List.mem_cons_self _ (hroom done) trivial
    have hcomma : step Expr.algebra r .comma
        = .ok (start (.call f (done ++ [a.2]) :: stack)) := by
      rw [hr.step_end trivial (by simp)]
      rfl
    have hrest := ih b (fun c hc => h c (List.mem_cons_of_mem _ hc)) (done ++ [a.2])
    have htrees : done ++ (a :: b :: rest).map Prod.snd
        = (done ++ [a.2]) ++ (b :: rest).map Prod.snd := by
      simp
    rw [argumentTokens_cons_cons, htrees, List.append_assoc, List.foldlM_append, hread]
    change (Token.comma :: (argumentTokens (b :: rest) ++ [Token.closeParen])).foldlM
      (step Expr.algebra) r = _
    rw [List.foldlM_cons, hcomma]
    exact hrest

/-- A call that has been opened goes on like an argument of it, unless it is closed at once. -/
theorem foldlM_opened {f : Builtin} {stack : List (OpenPart Expr)} {tokens : List Token}
    {r : Reading Expr} (hne : tokens ≠ [])
    (h : tokens.foldlM (step Expr.algebra) (start (.call f [] :: stack)) = .ok r) :
    tokens.foldlM (step Expr.algebra) (opened f stack) = .ok r := by
  cases tokens with
  | nil => exact absurd rfl hne
  | cons token rest =>
    have hopen : token ≠ .closeParen := by
      rintro rfl
      cases h
    rw [List.foldlM_cons] at h ⊢
    rw [step, if_neg hopen]
    exact h

/-- **Derived tokens are read to their tree.**  A primary also completes the minus signs before it. -/
theorem reading_of_derives {level depth : Nat} {tokens : List Token} {tree : Expr}
    (h : Derives level depth tokens tree) (stack : List (OpenPart Expr))
    (hdepth : openDepth stack + depth ≤ maxDepth) :
    (level = 4 → tokens.foldlM (step Expr.algebra) (start stack)
        = .ok (complete Expr.algebra tree stack)) ∧
      (Looser level stack → Reads level tokens tree stack) := by
  -- Where nothing but the first half is to be shown, the second one follows.
  have primary : ∀ {tokens : List Token} {tree : Expr} {stack : List (OpenPart Expr)},
      tokens.foldlM (step Expr.algebra) (start stack) = .ok (complete Expr.algebra tree stack) →
      (4 = 4 → tokens.foldlM (step Expr.algebra) (start stack)
          = .ok (complete Expr.algebra tree stack)) ∧
        (Looser 4 stack → Reads 4 tokens tree stack) := by
    intro tokens tree stack hread
    refine ⟨fun _ => hread, fun hstack => ⟨_, hread, tree, stack, ?_, fun _ _ => rfl⟩⟩
    exact complete_of_looser hstack tree
  induction h generalizing stack with
  | number n => exact primary rfl
  | text s => exact primary rfl
  | bool b => exact primary rfl
  | field name => exact primary rfl
  | @negate depth tokens tree h ih =>
    refine primary ?_
    have hopen : step Expr.algebra (start stack) (.operator .subtract)
        = .ok (start (.minus :: stack)) :=
      deeper_of_lt (by omega) _
    have hroom : openDepth (.minus :: stack) + depth ≤ maxDepth := by
      rw [openDepth_cons_of_nests rfl]
      omega
    rw [List.foldlM_cons, hopen]
    exact (ih (.minus :: stack) hroom).1 rfl
  | @group depth tokens tree h ih =>
    refine primary ?_
    have hopen : step Expr.algebra (start stack) .openParen = .ok (start (.group :: stack)) :=
      deeper_of_lt (by omega) _
    have hroom : openDepth (.group :: stack) + depth ≤ maxDepth := by
      rw [openDepth_cons_of_nests rfl]
      omega
    obtain ⟨r, hread, hr⟩ := (ih (.group :: stack) hroom).2 trivial
    have hclose : step Expr.algebra r .closeParen = .ok (complete Expr.algebra tree stack) := by
      rw [hr.step_end trivial (by simp)]
      rfl
    rw [List.cons_append, List.foldlM_cons, hopen]
    change (tokens ++ [Token.closeParen]).foldlM _ (start (.group :: stack)) = _
    rw [List.foldlM_append, hread]
    change step Expr.algebra r .closeParen >>= pure = _
    rw [hclose]
    rfl
  | @call depth f arguments h ih =>
    refine primary ?_
    have hname : step Expr.algebra (start stack) (.function f) = .ok (named f stack) :=
      deeper_of_lt (by omega) _
    rw [List.cons_append, List.cons_append, List.foldlM_cons, hname]
    change (argumentTokens arguments ++ [Token.closeParen]).foldlM _ (opened f stack) = _
    cases arguments with
    | nil => rfl
    | cons a rest =>
      have hroom : openDepth stack + 1 + depth ≤ maxDepth := by omega
      exact foldlM_opened (by simp)
        (reads_arguments f hroom a rest (fun b hb s hs => (ih b hb s hs).2) [])
  | @chain level depth tokens first hpos hle hfirst parts hop hparts ihfirst ih =>
    refine ⟨fun h4 => by omega, fun hstack => ?_⟩
    obtain ⟨r, hread, hr⟩ := (ihfirst stack hdepth).2 (hstack.mono (Nat.le_succ level))
    have hlower : StandsFor level first stack r := by
      obtain ⟨value, below, rfl, hsettle⟩ := hr
      exact ⟨value, below, rfl, fun k hk => hsettle k (Nat.le_succ_of_le hk)⟩
    obtain ⟨r', hrest, hr'⟩ := reads_parts hdepth hstack parts hop
      (fun part hpart s hs hlooser => (ih part hpart s hs).2 hlooser) hlower
    refine ⟨r', ?_, hr'⟩
    rw [List.foldlM_append, hread]
    exact hrest

end Reading

end Fieldbook
