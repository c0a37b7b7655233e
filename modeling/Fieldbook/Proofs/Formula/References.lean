import Fieldbook.Proofs.Formula.TreeReading

/-!
# What a formula reads

The value of a formula hangs on the cells that its references name, and on no others.  For a formula
with a tree they are the references of the tree (`Expr.interpret_congr`).  A formula without a tree
is evaluated up to the place where it fails, and may read whatever its tokens name
(`Algebra.readTokens_withField`).
-/

namespace Fieldbook

/-! ### Trees -/

mutual

/-- **A tree has one meaning** in two scopes that agree on its references and on the functions that it
calls. -/
theorem Expr.interpret_congr {s s' : Scope} :
    ∀ tree : Expr, (∀ name ∈ tree.fieldNames, s.fieldValue name = s'.fieldValue name) →
      (∀ f ∈ tree.calls, s.algebra.call f = s'.algebra.call f) →
      tree.interpret s.algebra = tree.interpret s'.algebra
  | .number _, _, _ | .text _, _, _ | .bool _, _, _ => by
    rw [interpret, interpret]
    rfl
  | .field name, h, _ => by
    rw [interpret, interpret]
    exact h name (by rw [fieldNames]; exact List.mem_singleton_self name)
  | .negate operand, h, hcalls => by
    rw [fieldNames] at h
    rw [calls] at hcalls
    rw [interpret, interpret, interpret_congr operand h hcalls]
    rfl
  | .binary op left right, h, hcalls => by
    rw [fieldNames] at h
    rw [calls] at hcalls
    have hleft : left.interpret s.algebra = left.interpret s'.algebra :=
      interpret_congr left (fun name hname => h name (List.mem_append_left _ hname))
        fun f hf => hcalls f (List.mem_append_left _ hf)
    have hright : right.interpret s.algebra = right.interpret s'.algebra :=
      interpret_congr right (fun name hname => h name (List.mem_append_right _ hname))
        fun f hf => hcalls f (List.mem_append_right _ hf)
    rw [interpret, interpret, hleft, hright]
    rfl
  | .call f arguments, h, hcalls => by
    rw [fieldNames] at h
    rw [calls] at hcalls
    rw [interpret, interpret,
      interpretAll_congr arguments h fun g hg => hcalls g (List.mem_cons_of_mem _ hg),
      hcalls f List.mem_cons_self]

theorem Expr.interpretAll_congr {s s' : Scope} :
    ∀ trees : List Expr,
      (∀ name ∈ Expr.fieldNamesAll trees, s.fieldValue name = s'.fieldValue name) →
      (∀ f ∈ Expr.callsAll trees, s.algebra.call f = s'.algebra.call f) →
      Expr.interpretAll s.algebra trees = Expr.interpretAll s'.algebra trees
  | [], _, _ => by
    rw [interpretAll, interpretAll]
  | tree :: rest, h, hcalls => by
    rw [fieldNamesAll] at h
    rw [callsAll] at hcalls
    have htree : tree.interpret s.algebra = tree.interpret s'.algebra :=
      interpret_congr tree (fun name hname => h name (List.mem_append_left _ hname))
        fun f hf => hcalls f (List.mem_append_left _ hf)
    have hrest : Expr.interpretAll s.algebra rest = Expr.interpretAll s'.algebra rest :=
      interpretAll_congr rest (fun name hname => h name (List.mem_append_right _ hname))
        fun f hf => hcalls f (List.mem_append_right _ hf)
    rw [interpretAll, interpretAll, htree, hrest]

end

/-! ### Tokens -/

namespace Reading

variable {α : Type} {A : Algebra α} {g : String → Except FormulaError α}

theorem complete_withField : complete { A with field := g } = complete A := by
  funext value stack
  fun_induction complete A value stack with
  | case1 value stack ih =>
    rw [complete]
    exact ih
  | case2 value stack hminus =>
    rw [complete]
    exact hminus

theorem settle_withField : settle { A with field := g } = settle A := by
  funext level value stack
  fun_induction settle A level value stack with
  | case1 value left op stack hlevel result hresult ih =>
    rw [settle, if_pos hlevel, hresult]
    exact ih
  | case2 value left op stack hlevel e he => rw [settle, if_pos hlevel, he]
  | case3 value left op stack hlevel => rw [settle, if_neg hlevel]
  | case4 value stack hpending =>
    rw [settle]
    exact hpending

theorem closeWith_withField : closeWith { A with field := g } = closeWith A := by
  funext value stack token
  unfold closeWith
  rw [complete_withField]

theorem beginOperand_withField {token : Token} (h : ∀ name, token = .field name → A.field name = g name)
    (stack : List (OpenPart α)) :
    beginOperand { A with field := g } stack token = beginOperand A stack token := by
  cases token with
  | field name => simp only [beginOperand, complete_withField, h name rfl]
  | operator op => cases op <;> rfl
  | _ => simp only [beginOperand, complete_withField]

/-- A step reads no field but the one that its token names. -/
theorem step_withField {token : Token} (h : ∀ name, token = .field name → A.field name = g name)
    (r : Reading α) : step { A with field := g } r token = step A r token := by
  cases r with
  | start stack => exact beginOperand_withField h stack
  | named f stack => rfl
  | opened f stack => simp only [step, complete_withField, beginOperand_withField h]
  | operand value stack =>
    cases token <;> simp only [step, settle_withField, closeWith_withField]

theorem finish_withField (r : Reading α) : finish { A with field := g } r = finish A r := by
  cases r with
  | operand value stack => simp only [finish, settle_withField]
  | _ => rfl

theorem foldlM_step_withField {tokens : List Token}
    (h : ∀ name, .field name ∈ tokens → A.field name = g name) (r : Reading α) :
    tokens.foldlM (step { A with field := g }) r = tokens.foldlM (step A) r := by
  induction tokens generalizing r with
  | nil => rfl
  | cons token rest ih =>
    have htoken : ∀ name, token = .field name → A.field name = g name :=
      fun name heq => h name (heq ▸ List.mem_cons_self)
    rw [List.foldlM_cons, List.foldlM_cons, step_withField htoken]
    exact congrArg _ (funext fun r => ih (fun name hname => h name (List.mem_cons_of_mem _ hname)) r)

end Reading

/-- **Tokens have one value** in two algebras that differ in fields which the tokens do not name. -/
theorem Algebra.readTokens_withField {α : Type} {A : Algebra α} {g : String → Except FormulaError α}
    {tokens : List Token} (h : ∀ name, .field name ∈ tokens → A.field name = g name) :
    Algebra.readTokens { A with field := g } tokens = A.readTokens tokens := by
  unfold Algebra.readTokens
  rw [Reading.foldlM_step_withField h]
  exact congrArg _ (funext Reading.finish_withField)

namespace Formula

/-- **A formula has one value** in two scopes that show the same clock and agree on what the tokens of
the formula name. -/
theorem value_congr {expression : String} {s s' : Scope} (hnow : s.now = s'.now)
    (h : ∀ tokens, Token.scan expression = .ok tokens →
      ∀ name, .field name ∈ tokens → s.fieldValue name = s'.fieldValue name) :
    value expression s = value expression s' := by
  have halgebra : s'.algebra = { s.algebra with field := s'.fieldValue } := by
    simp only [Scope.algebra, hnow]
  unfold value Algebra.read
  cases hscan : Token.scan expression with
  | error e => rfl
  | ok tokens =>
    have hread : s'.algebra.readTokens tokens = s.algebra.readTokens tokens := by
      rw [halgebra]
      exact Algebra.readTokens_withField (h tokens hscan)
    rw [show (Except.ok tokens >>= s.algebra.readTokens) = s.algebra.readTokens tokens from rfl,
      show (Except.ok tokens >>= s'.algebra.readTokens) = s'.algebra.readTokens tokens from rfl, hread]

end Formula

end Fieldbook
