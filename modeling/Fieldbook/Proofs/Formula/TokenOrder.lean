import Fieldbook.Formula.Evaluate
import Fieldbook.Proofs.Formula.Accepted
import Fieldbook.Proofs.Formula.Passes
import Fieldbook.Proofs.View.Partition

/-!
# Trees in the order of their tokens

Reading a formula drops its parentheses and commas and nothing else: a tree spelled out from left to
right (`Expr.tokens`) is the formula without them (`Derives.tokens_eq`), whatever grouping the tree
stands for.

What is known of a formula is found on a pass over its tree, which comes to an operator before its left
operand.  Literals, fields and calls it meets in the order of the text all the same, so that the
references of a formula are the names of its tokens in order of first use, and it is volatile if one of
its tokens is a function that reads the clock (`Formula.references_in_order`).
-/

namespace Fieldbook

namespace Token

/-- Parentheses and commas group other tokens and have no node of their own. -/
def isMark : Token → Bool
  | openParen | closeParen | comma => true
  | _ => false

/-- Literals, fields and functions stand for themselves, wherever they are. -/
def isTerm : Token → Bool
  | number _ | text _ | bool _ | field _ | function _ => true
  | _ => false

def fieldName? : Token → Option String
  | field name => some name
  | _ => none

def callee? : Token → Option Builtin
  | function f => some f
  | _ => none

theorem fieldName?_eq_some {t : Token} {name : String} :
    t.fieldName? = some name ↔ t = .field name := by
  cases t <;> simp [fieldName?]

theorem callee?_eq_some {t : Token} {f : Builtin} : t.callee? = some f ↔ t = .function f := by
  cases t <;> simp [callee?]

theorem isTerm_of_fieldName? {t : Token} {name : String} (h : t.fieldName? = some name) :
    t.isTerm = true := by
  rw [fieldName?_eq_some.1 h]
  rfl

theorem isTerm_of_callee? {t : Token} {f : Builtin} (h : t.callee? = some f) : t.isTerm = true := by
  rw [callee?_eq_some.1 h]
  rfl

theorem not_isMark_of_isTerm {t : Token} (h : t.isTerm = true) : (!t.isMark) = true := by
  cases t with
  | operator | openParen | closeParen | comma => cases h
  | number | text | bool | field | function => rfl

theorem filterMap_filter_of_imp {β : Type} {part : Token → Option β} {p : Token → Bool}
    (h : ∀ t b, part t = some b → p t = true) (tokens : List Token) :
    (tokens.filter p).filterMap part = tokens.filterMap part := by
  rw [List.filterMap_filter]
  refine List.filterMap_congr fun t _ => ?_
  cases hpart : part t with
  | none => exact ite_self none
  | some b => rw [if_pos (h t b hpart)]

end Token

namespace Expr

/-- **The token of a node**, which it has to itself. -/
def token : Expr → Token
  | number n => .number n
  | text s => .text s
  | bool b => .bool b
  | field name => .field name
  | negate _ => .operator .subtract
  | binary op _ _ => .operator op
  | call f _ => .function f

mutual

/-- **A tree spelled out** from left to right, without parentheses and commas. -/
def tokens : Expr → List Token
  | negate operand => .operator .subtract :: tokens operand
  | binary op left right => tokens left ++ .operator op :: tokens right
  | call f arguments => .function f :: tokensAll arguments
  | number n => [.number n]
  | text s => [.text s]
  | bool b => [.bool b]
  | field name => [.field name]

def tokensAll : List Expr → List Token
  | [] => []
  | expr :: rest => tokens expr ++ tokensAll rest

end

/-! ### A pass meets the tokens in order -/

mutual

/-- **A pass comes to every token of a tree once**, and but for operators in their order. -/
theorem walkFrom_tokens : ∀ (tree : Expr) (depth : Nat),
    ((walkFrom depth tree).map (·.node.token)).Perm tree.tokens ∧
      ((walkFrom depth tree).map (·.node.token)).filter Token.isTerm
        = tree.tokens.filter Token.isTerm
  | .number _, depth | .text _, depth | .bool _, depth | .field _, depth => by
    rw [walkFrom, tokens]
    exact ⟨.refl _, rfl⟩
  | .negate operand, depth => by
    obtain ⟨hperm, horder⟩ := walkFrom_tokens operand (depth + 1)
    rw [walkFrom, tokens]
    exact ⟨hperm.cons _, horder⟩
  | .binary op left right, depth => by
    obtain ⟨hperm, horder⟩ := walkFrom_tokens left (depth + 1)
    obtain ⟨hperm', horder'⟩ := walkFrom_tokens right (depth + 1)
    rw [walkFrom, tokens, List.map_cons, List.map_append]
    constructor
    · exact ((hperm.append hperm').cons _).trans List.perm_middle.symm
    · rw [List.filter_cons_of_neg Bool.false_ne_true, List.filter_append, horder, horder',
        List.filter_append, List.filter_cons_of_neg Bool.false_ne_true]
  | .call f arguments, depth => by
    obtain ⟨hperm, horder⟩ := walkAllFrom_tokens arguments (depth + 1)
    rw [walkFrom, tokens]
    refine ⟨hperm.cons _, ?_⟩
    show Token.function f :: _ = Token.function f :: _
    rw [horder]

theorem walkAllFrom_tokens : ∀ (trees : List Expr) (depth : Nat),
    ((walkAllFrom depth trees).map (·.node.token)).Perm (tokensAll trees) ∧
      ((walkAllFrom depth trees).map (·.node.token)).filter Token.isTerm
        = (tokensAll trees).filter Token.isTerm
  | [], depth => by
    rw [walkAllFrom, tokensAll]
    exact ⟨.refl _, rfl⟩
  | tree :: rest, depth => by
    obtain ⟨hperm, horder⟩ := walkFrom_tokens tree depth
    obtain ⟨hperm', horder'⟩ := walkAllFrom_tokens rest depth
    rw [walkAllFrom, tokensAll, List.map_append, List.filter_append, List.filter_append, horder,
      horder']
    exact ⟨hperm.append hperm', rfl⟩

end

/-! ### What is read and called -/

theorem fieldName?_token (node : Expr) : node.token.fieldName? = node.fieldName? := by
  cases node <;> rfl

theorem callee?_token (node : Expr) : node.token.callee? = node.callee? := by
  cases node <;> rfl

/-- What only terms have, a pass finds in the order of the text. -/
theorem filterMap_walk {β : Type} {part : Token → Option β}
    (hpart : ∀ t b, part t = some b → t.isTerm = true) (tree : Expr) :
    tree.walk.filterMap (fun visit => part visit.node.token) = tree.tokens.filterMap part := by
  calc tree.walk.filterMap (fun visit => part visit.node.token)
      = (tree.walk.map (·.node.token)).filterMap part := by rw [List.filterMap_map]; rfl
    _ = (tree.tokens.filter Token.isTerm).filterMap part := by
      rw [← Token.filterMap_filter_of_imp hpart, walk, (walkFrom_tokens tree 1).2]
    _ = tree.tokens.filterMap part := Token.filterMap_filter_of_imp hpart _

theorem fieldNames_eq_tokens (tree : Expr) :
    tree.fieldNames = tree.tokens.filterMap Token.fieldName? := by
  rw [(passes_eq_walkFrom tree 1).1, ← filterMap_walk fun _ _ => Token.isTerm_of_fieldName?]
  simp only [fieldName?_token]
  rfl

theorem calls_eq_tokens (tree : Expr) : tree.calls = tree.tokens.filterMap Token.callee? := by
  rw [(passes_eq_walkFrom tree 1).2, ← filterMap_walk fun _ _ => Token.isTerm_of_callee?]
  simp only [callee?_token]
  rfl

/-! ### Reading keeps the order -/

theorem tokens_joinTrees (first : Expr) (parts : List ChainPart) :
    (ChainPart.joinTrees first parts).tokens
      = first.tokens ++ parts.flatMap fun part => .operator part.op :: part.tree.tokens := by
  induction parts generalizing first with
  | nil => exact (List.append_nil _).symm
  | cons part rest ih =>
    show (ChainPart.joinTrees (.binary part.op first part.tree) rest).tokens = _
    rw [ih, tokens, List.flatMap_cons, List.append_assoc]

end Expr

theorem tokensAll_arguments {arguments : List (List Token × Expr)}
    (h : ∀ a ∈ arguments, a.2.tokens = a.1.filter (!·.isMark)) :
    Expr.tokensAll (arguments.map (·.2)) = (argumentTokens arguments).filter (!·.isMark) := by
  induction arguments with
  | nil => rfl
  | cons a rest ih =>
    obtain ⟨ha, hrest⟩ := List.forall_mem_cons.1 h
    rw [List.map_cons, Expr.tokensAll, ha, ih hrest]
    cases rest with
    | nil => rw [argumentTokens_singleton]; exact List.append_nil _
    | cons b rest =>
      rw [argumentTokens_cons_cons, List.filter_append,
        List.filter_cons_of_neg (by exact Bool.false_ne_true)]

/-- **What is derived is spelled out by its tree**: nothing but parentheses and commas is dropped, nothing
is added and nothing is moved. -/
theorem Derives.tokens_eq {level depth : Nat} {tokens : List Token} {tree : Expr}
    (h : Derives level depth tokens tree) : tree.tokens = tokens.filter (!·.isMark) := by
  induction h with
  | number n => rfl
  | text s => rfl
  | bool b => rfl
  | field name => rfl
  | negate h ih =>
    rw [Expr.tokens, ih]
    rfl
  | @group depth tokens tree h ih =>
    rw [ih, List.cons_append, List.filter_cons_of_neg (by exact Bool.false_ne_true),
      List.filter_append]
    exact (List.append_nil _).symm
  | @call depth f arguments h ih =>
    rw [Expr.tokens, tokensAll_arguments ih, List.cons_append, List.cons_append,
      List.filter_cons_of_pos rfl, List.filter_cons_of_neg (by exact Bool.false_ne_true),
      List.filter_append]
    exact congrArg _ (List.append_nil _).symm
  | @chain level depth tokens first hpos hle hfirst parts hop hparts ihfirst ih =>
    rw [Expr.tokens_joinTrees, ihfirst, List.filter_append, ChainPart.allTokens,
      List.filter_flatMap]
    refine congrArg _ (List.flatMap_congr fun part hpart => ?_)
    rw [ih part hpart]
    rfl

/-! ### Names in order of first use -/

/-- **Names in order of first use** in tokens: those that the tokens refer to, each once, and of two names
the one that is used first stands first. -/
structure FirstUses (tokens : List Token) (names : List String) : Prop where
  nodup : names.Nodup
  mem_iff : ∀ name, name ∈ names ↔ .field name ∈ tokens
  ordered : names.Pairwise fun a b => tokens.idxOf (.field a) < tokens.idxOf (.field b)

/-- Of two names, the one that comes first among the names comes first among the tokens. -/
theorem idxOf_field_lt {tokens : List Token} {a b : String}
    (h : (tokens.filterMap Token.fieldName?).idxOf a < (tokens.filterMap Token.fieldName?).idxOf b) :
    tokens.idxOf (.field a) < tokens.idxOf (.field b) := by
  induction tokens with
  | nil => exact absurd h (Nat.lt_irrefl _)
  | cons t rest ih =>
    cases ht : t.fieldName? with
    | none =>
      have hne : ∀ name, t ≠ .field name := by
        rintro name rfl
        cases ht
      rw [List.filterMap_cons_none ht] at h
      rw [List.idxOf_cons_ne _ (hne a), List.idxOf_cons_ne _ (hne b)]
      exact Nat.succ_lt_succ (ih h)
    | some name =>
      obtain rfl := Token.fieldName?_eq_some.1 ht
      rw [List.filterMap_cons_some ht] at h
      by_cases hb : name = b
      · subst hb
        rw [List.idxOf_cons_self] at h
        exact absurd h (Nat.not_lt_zero _)
      have hb' : Token.field name ≠ .field b := fun heq => hb (Token.field.inj heq)
      by_cases ha : name = a
      · subst ha
        rw [List.idxOf_cons_self, List.idxOf_cons_ne _ hb']
        exact Nat.succ_pos _
      · have ha' : Token.field name ≠ .field a := fun heq => ha (Token.field.inj heq)
        rw [List.idxOf_cons_ne _ ha, List.idxOf_cons_ne _ hb] at h
        rw [List.idxOf_cons_ne _ ha', List.idxOf_cons_ne _ hb']
        exact Nat.succ_lt_succ (ih (Nat.lt_of_succ_lt_succ h))

theorem firstUses_eraseDups (tokens : List Token) :
    FirstUses tokens (tokens.filterMap Token.fieldName?).eraseDups where
  nodup := Group.nodup_eraseDups _
  mem_iff name := by
    rw [List.mem_eraseDups, List.mem_filterMap]
    simp only [Token.fieldName?_eq_some, exists_eq_right]
  ordered := (Group.pairwise_eraseDups _).imp idxOf_field_lt

/-- **One list only** has the names in order of first use. -/
theorem FirstUses.unique {tokens : List Token} {names other : List String}
    (h : FirstUses tokens names) (h' : FirstUses tokens other) : names = other := by
  have hperm : names.Perm other := by
    rw [List.perm_ext_iff_of_nodup h.nodup h'.nodup]
    intro name
    rw [h.mem_iff, h'.mem_iff]
  exact List.Perm.eq_of_pairwise (fun a b _ _ hab hba => absurd hba (Nat.lt_asymm hab)) h.ordered
    h'.ordered hperm

theorem Builtin.isVolatile_iff (f : Builtin) : f.isVolatile = true ↔ f = now ∨ f = today := by
  cases f <;> decide

/-! ### Formulas -/

namespace Formula

/-- **What is known of a formula stands in its tokens.**  Its tree has all of them but parentheses and
commas, in the order of the text; a pass over the tree comes to each once, and but for the operators in
that order.  So the references of the formula are the names of its field tokens in order of first use,
and it is volatile if one of its tokens is a function that reads the clock. -/
theorem references_in_order {expression : String} {tree : Expr}
    (h : Expr.parse expression = .ok tree) :
    ∃ tokens names volatile, Token.scan expression = .ok tokens ∧
      references expression = .ok names ∧ isVolatile expression = .ok volatile ∧
      tree.tokens = tokens.filter (!·.isMark) ∧
      (tree.walk.map (·.node.token)).Perm (tokens.filter (!·.isMark)) ∧
      (tree.walk.map (·.node.token)).filter Token.isTerm = tokens.filter Token.isTerm ∧
      FirstUses tokens names ∧ (∀ other, FirstUses tokens other → other = names) ∧
      (volatile = true ↔ .function .now ∈ tokens ∨ .function .today ∈ tokens) := by
  obtain ⟨tokens, hscan, hread⟩ := bind_eq_ok h
  have htokens : tree.tokens = tokens.filter (!·.isMark) := (derives_of_readTokens hread).tokens_eq
  obtain ⟨hperm, horder⟩ := Expr.walkFrom_tokens tree 1
  have hterms : tree.tokens.filter Token.isTerm = tokens.filter Token.isTerm := by
    rw [htokens, List.filter_filter]
    refine List.filter_congr fun t _ => ?_
    cases t <;> rfl
  have hnames : FirstUses tokens tree.references := by
    rw [Expr.references, Expr.fieldNames_eq_tokens, htokens, Token.filterMap_filter_of_imp]
    · exact firstUses_eraseDups tokens
    · exact fun _ _ hname => Token.not_isMark_of_isTerm (Token.isTerm_of_fieldName? hname)
  have hcalls : tree.calls = tokens.filterMap Token.callee? := by
    rw [Expr.calls_eq_tokens, htokens, Token.filterMap_filter_of_imp]
    exact fun _ _ hf => Token.not_isMark_of_isTerm (Token.isTerm_of_callee? hf)
  have hvolatile : tree.isVolatile = true ↔ .function .now ∈ tokens ∨ .function .today ∈ tokens := by
    rw [Expr.isVolatile, hcalls, List.any_eq_true]
    simp only [List.mem_filterMap, Token.callee?_eq_some, exists_eq_right, Builtin.isVolatile_iff,
      and_or_left, exists_or, exists_eq_right]
  refine ⟨tokens, tree.references, tree.isVolatile, hscan, ?_, ?_, htokens, ?_, horder.trans hterms,
    hnames, fun other hother => hother.unique hnames, hvolatile⟩
  · rw [references, h]
    rfl
  · rw [isVolatile, h]
    rfl
  · rw [← htokens]
    exact hperm

set_option maxRecDepth 20000 in
/-- `{B}` is used again behind `{A}`, in parentheses and below another operator; `NOW()` is volatile. -/
theorem references_in_order_again :
    let tokens : List Token := [.field "B", .operator .subtract, .openParen, .field "A",
      .operator .add, .field "B", .closeParen]
    let tree : Expr := .binary .subtract (.field "B") (.binary .add (.field "A") (.field "B"))
    (Token.scan "{B}-({A}+{B})" = .ok tokens ∧ Expr.parse "{B}-({A}+{B})" = .ok tree ∧
      references "{B}-({A}+{B})" = .ok ["B", "A"] ∧ FirstUses tokens ["B", "A"] ∧
      tree.tokens = tokens.filter (!·.isMark)) ∧
    Expr.parse "NOW()" = .ok (.call .now []) ∧ isVolatile "NOW()" = .ok true := by
  intro tokens tree
  have htokens : Token.scan "{B}-({A}+{B})" = .ok tokens := by
    with_unfolding_all rfl
  have htree : Expr.parse "{B}-({A}+{B})" = .ok tree := by
    rw [Expr.parse, Algebra.read, htokens]
    rfl
  have hnames : references "{B}-({A}+{B})" = .ok ["B", "A"] := by
    rw [references, htree]
    rfl
  have hclock : Token.scan "NOW()" = .ok [.function .now, .openParen, .closeParen] := by
    with_unfolding_all rfl
  have hcall : Expr.parse "NOW()" = .ok (.call .now []) := by
    rw [Expr.parse, Algebra.read, hclock]
    rfl
  refine ⟨⟨htokens, htree, hnames, ?_⟩, hcall, ?_⟩
  · obtain ⟨_, _, _, hscan, hread, -, hspelled, -, -, hfirst, -⟩ := references_in_order htree
    rw [htokens] at hscan
    cases hscan
    rw [hnames] at hread
    cases hread
    exact ⟨hfirst, hspelled⟩
  · obtain ⟨_, _, volatile, hscan, -, hread, -, -, -, -, -, hvolatile⟩ := references_in_order hcall
    rw [hclock] at hscan
    cases hscan
    rw [hread, hvolatile.2 (.inl List.mem_cons_self)]

end Formula

end Fieldbook
