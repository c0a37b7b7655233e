import Fieldbook.Formula.Evaluate

/-!
# The meaning of a tree reading

`Algebra.read` runs one reader, whatever its algebra makes of what is read.  While it builds a tree,
parts of the tree are open.  Each of them has a meaning in another algebra `A`, and
`Reading.interpret` takes the meanings in the order in which the parts were read, from the outermost
open part inwards.  Where nothing is malformed in `A`, a reading that has no meaning fails in
evaluation.
-/

namespace Fieldbook

/-! ### Results of steps that may fail -/

theorem bind_eq_error {β γ : Type} {x : Except FormulaError β}
    {f : β → Except FormulaError γ} {e : FormulaError} (h : (x >>= f) = .error e) :
    x = .error e ∨ ∃ b, x = .ok b ∧ f b = .error e := by
  cases x with
  | error p =>
    cases h
    exact .inl rfl
  | ok b => exact .inr ⟨b, rfl, h⟩

theorem bind_eq_ok {β γ : Type} {x : Except FormulaError β} {f : β → Except FormulaError γ} {c : γ}
    (h : (x >>= f) = .ok c) : ∃ b, x = .ok b ∧ f b = .ok c := by
  cases x with
  | error p => cases h
  | ok b => exact ⟨b, rfl, h⟩

theorem map_eq_error {β γ : Type} {x : Except FormulaError β} {f : β → γ} {e : FormulaError}
    (h : x.map f = .error e) : x = .error e := by
  cases x with
  | error p =>
    cases h
    rfl
  | ok b => cases h

theorem map_eq_ok {β γ : Type} {x : Except FormulaError β} {f : β → γ} {c : γ}
    (h : x.map f = .ok c) : ∃ b, x = .ok b ∧ f b = c := by
  cases x with
  | error p => cases h
  | ok b =>
    cases h
    exact ⟨b, rfl, rfl⟩

/-- The rule `bind_map_left`, with the map written as the model writes it. -/
theorem map_bind_eq {β γ δ : Type} (x : Except FormulaError β) (f : β → γ)
    (g : γ → Except FormulaError δ) : (x.map f >>= g) = x >>= fun b => g (f b) :=
  bind_map_left f x g

/-! ### Trees -/

/-- An algebra in which nothing is malformed: what fails has no value. -/
structure Algebra.FailsInEvaluation {α : Type} (A : Algebra α) : Prop where
  field : ∀ {name e}, A.field name = .error e → e.kind = .evaluation
  binary : ∀ {op left right e}, A.binary op left right = .error e → e.kind = .evaluation
  call : ∀ {f arguments e}, A.call f arguments = .error e → e.kind = .evaluation

variable {α : Type} {A : Algebra α}

mutual

/-- **A tree that has no meaning fails in evaluation.** -/
theorem Expr.kind_of_interpret (hA : A.FailsInEvaluation) :
    ∀ (tree : Expr) {e : FormulaError}, tree.interpret A = .error e → e.kind = .evaluation
  | .number _, _, h | .text _, _, h | .bool _, _, h => by
    rw [interpret] at h
    cases h
  | .field _, _, h => by
    rw [interpret] at h
    exact hA.field h
  | .negate operand, _, h => by
    rw [interpret] at h
    rcases bind_eq_error h with h | ⟨_, _, h⟩
    · exact kind_of_interpret hA operand h
    · cases h
  | .binary _ left right, _, h => by
    rw [interpret] at h
    rcases bind_eq_error h with h | ⟨_, _, h⟩
    · exact kind_of_interpret hA left h
    · rcases bind_eq_error h with h | ⟨_, _, h⟩
      · exact kind_of_interpret hA right h
      · exact hA.binary h
  | .call _ arguments, _, h => by
    rw [interpret] at h
    rcases bind_eq_error h with h | ⟨_, _, h⟩
    · exact kind_of_interpretAll hA arguments h
    · exact hA.call h

theorem Expr.kind_of_interpretAll (hA : A.FailsInEvaluation) :
    ∀ (trees : List Expr) {e : FormulaError}, Expr.interpretAll A trees = .error e →
      e.kind = .evaluation
  | [], _, h => by
    rw [interpretAll] at h
    cases h
  | tree :: rest, _, h => by
    rw [interpretAll] at h
    rcases bind_eq_error h with h | ⟨_, _, h⟩
    · exact kind_of_interpret hA tree h
    · rcases bind_eq_error h with h | ⟨_, _, h⟩
      · exact kind_of_interpretAll hA rest h
      · cases h

end

/-! ### The meaning of a tree reading -/

def OpenPart.interpret (A : Algebra α) : OpenPart Expr → Except FormulaError (OpenPart α)
  | pending left op => do
    let left ← left.interpret A
    return pending left op
  | minus => .ok minus
  | group => .ok group
  | call f arguments => do
    let arguments ← Expr.interpretAll A arguments
    return call f arguments

/-- The meanings of the open parts of a tree, the outermost first. -/
def interpretStack (A : Algebra α) :
    List (OpenPart Expr) → Except FormulaError (List (OpenPart α))
  | [] => .ok []
  | part :: stack => do
    let stack ← interpretStack A stack
    let part ← part.interpret A
    return part :: stack

namespace Reading

def interpretOperand (A : Algebra α) (operand : Expr × List (OpenPart Expr)) :
    Except FormulaError (α × List (OpenPart α)) := do
  let stack ← interpretStack A operand.2
  let value ← operand.1.interpret A
  return (value, stack)

/-- **The meaning of a tree reading.** -/
def interpret (A : Algebra α) : Reading Expr → Except FormulaError (Reading α)
  | start stack => (interpretStack A stack).map start
  | named f stack => (interpretStack A stack).map (named f)
  | opened f stack => (interpretStack A stack).map (opened f)
  | operand value stack => do
    let (value, stack) ← interpretOperand A (value, stack)
    return operand value stack

end Reading

theorem OpenPart.kind_of_interpret (hA : A.FailsInEvaluation) {part : OpenPart Expr}
    {e : FormulaError} (h : part.interpret A = .error e) : e.kind = .evaluation := by
  cases part with
  | pending left op =>
    rcases bind_eq_error h with h | ⟨_, _, h⟩
    · exact Expr.kind_of_interpret hA left h
    · cases h
  | minus => cases h
  | group => cases h
  | call f arguments =>
    rcases bind_eq_error h with h | ⟨_, _, h⟩
    · exact Expr.kind_of_interpretAll hA arguments h
    · cases h

theorem kind_of_interpretStack (hA : A.FailsInEvaluation) {stack : List (OpenPart Expr)}
    {e : FormulaError} (h : interpretStack A stack = .error e) : e.kind = .evaluation := by
  induction stack with
  | nil => cases h
  | cons part stack ih =>
    rcases bind_eq_error h with h | ⟨_, _, h⟩
    · exact ih h
    · rcases bind_eq_error h with h | ⟨_, _, h⟩
      · exact OpenPart.kind_of_interpret hA h
      · cases h

theorem Reading.kind_of_interpretOperand (hA : A.FailsInEvaluation)
    {operand : Expr × List (OpenPart Expr)} {e : FormulaError}
    (h : interpretOperand A operand = .error e) : e.kind = .evaluation := by
  rcases bind_eq_error h with h | ⟨_, _, h⟩
  · exact kind_of_interpretStack hA h
  · rcases bind_eq_error h with h | ⟨_, _, h⟩
    · exact Expr.kind_of_interpret hA _ h
    · cases h

theorem OpenPart.nests_of_interpret {part : OpenPart Expr} {result : OpenPart α}
    (h : part.interpret A = .ok result) : result.nests = part.nests := by
  cases part with
  | pending left op =>
    obtain ⟨_, _, h⟩ := bind_eq_ok h
    cases h
    rfl
  | minus => cases h; rfl
  | group => cases h; rfl
  | call f arguments =>
    obtain ⟨_, _, h⟩ := bind_eq_ok h
    cases h
    rfl

theorem interpretStack_cons_eq_ok {part : OpenPart Expr} {stack : List (OpenPart Expr)}
    {result : List (OpenPart α)} (h : interpretStack A (part :: stack) = .ok result) :
    ∃ first below, part.interpret A = .ok first ∧ interpretStack A stack = .ok below ∧
      result = first :: below := by
  obtain ⟨below, hbelow, h⟩ := bind_eq_ok h
  obtain ⟨first, hfirst, h⟩ := bind_eq_ok h
  cases h
  exact ⟨first, below, hfirst, hbelow, rfl⟩

theorem openDepth_of_interpretStack {stack : List (OpenPart Expr)} {result : List (OpenPart α)}
    (h : interpretStack A stack = .ok result) : openDepth result = openDepth stack := by
  induction stack generalizing result with
  | nil => cases h; rfl
  | cons part stack ih =>
    obtain ⟨first, below, hfirst, hbelow, rfl⟩ := interpretStack_cons_eq_ok h
    have hrest := ih hbelow
    unfold openDepth at hrest ⊢
    rw [List.countP_cons, List.countP_cons, hrest, OpenPart.nests_of_interpret hfirst]

theorem map_interpretStack_cons {part : OpenPart Expr} {result : OpenPart α}
    (h : part.interpret A = .ok result) (stack : List (OpenPart Expr))
    (next : List (OpenPart α) → Reading α) :
    (interpretStack A (part :: stack)).map next
      = (interpretStack A stack).map fun stack => next (result :: stack) := by
  rw [interpretStack, h]
  cases interpretStack A stack with
  | error e => rfl
  | ok s => rfl

theorem of_interpretStack_eq_cons {stack : List (OpenPart Expr)} {result : OpenPart α}
    {below : List (OpenPart α)} (h : interpretStack A stack = .ok (result :: below)) :
    ∃ part rest, stack = part :: rest ∧ part.interpret A = .ok result := by
  cases stack with
  | nil => cases h
  | cons part rest =>
    obtain ⟨_, _, hfirst, _, heq⟩ := interpretStack_cons_eq_ok h
    cases heq
    exact ⟨part, rest, rfl, hfirst⟩

theorem of_interpretStack_eq_minus {stack : List (OpenPart Expr)} {below : List (OpenPart α)}
    (h : interpretStack A stack = .ok (.minus :: below)) : ∃ rest, stack = .minus :: rest := by
  obtain ⟨part, rest, rfl, hpart⟩ := of_interpretStack_eq_cons h
  cases part with
  | minus => exact ⟨rest, rfl⟩
  | group => cases hpart
  | pending left op =>
    obtain ⟨_, _, hpart⟩ := bind_eq_ok hpart
    cases hpart
  | call f arguments =>
    obtain ⟨_, _, hpart⟩ := bind_eq_ok hpart
    cases hpart

theorem of_interpretStack_eq_pending {stack : List (OpenPart Expr)} {below : List (OpenPart α)}
    {v : α} {op : Operator} (h : interpretStack A stack = .ok (.pending v op :: below)) :
    ∃ left rest, stack = .pending left op :: rest := by
  obtain ⟨part, rest, rfl, hpart⟩ := of_interpretStack_eq_cons h
  cases part with
  | minus => cases hpart
  | group => cases hpart
  | pending left op =>
    obtain ⟨_, _, hpart⟩ := bind_eq_ok hpart
    cases hpart
    exact ⟨left, rest, rfl⟩
  | call f arguments =>
    obtain ⟨_, _, hpart⟩ := bind_eq_ok hpart
    cases hpart

end Fieldbook
