import Fieldbook.Proofs.Formula.TreeMeaning

/-!
# Trees and values

Two runs of one reader over the same tokens are joined: one that builds a tree, and one that computes
in an algebra `A`.  `step_follows` says that the meaning of the first is kept by every step,

    interpret (step r token) = interpret r >>= (step · token),

and that a token which stops the tree reading stops the other one as well.  It then stops at the
same error, or it has failed already, at an operand that has no value.  `read_follows` is the same for
a whole formula.
-/

namespace Fieldbook

/-! ### Following -/

/-- **A computation follows another** if it gives the meaning of what the other gives, and fails
where the other fails: with the same error, or because something has no value. -/
def Follows {β γ : Type} (meaning : β → Except FormulaError γ) :
    Except FormulaError β → Except FormulaError γ → Prop
  | .ok b, y => y = meaning b
  | .error p, y => ∃ e, y = .error e ∧ (e = p ∨ e.kind = .evaluation)

theorem Follows.bind {β γ β' γ' : Type} {meaning : β → Except FormulaError γ}
    {meaning' : β' → Except FormulaError γ'} {x : Except FormulaError β}
    {y : Except FormulaError γ} {f : β → Except FormulaError β'} {g : γ → Except FormulaError γ'}
    (h : Follows meaning x y) (hf : ∀ b, Follows meaning' (f b) (meaning b >>= g)) :
    Follows meaning' (x >>= f) (y >>= g) := by
  cases x with
  | ok b =>
    have hy : y = meaning b := h
    rw [hy]
    exact hf b
  | error p =>
    obtain ⟨e, he, hkind⟩ := h
    rw [he]
    exact ⟨e, rfl, hkind⟩

variable {α : Type} {A : Algebra α}

/-! ### One step -/

namespace Reading

theorem interpretOperand_eq_ok {value : Expr} {stack : List (OpenPart Expr)}
    {operand : α × List (OpenPart α)} (h : interpretOperand A (value, stack) = .ok operand) :
    interpretStack A stack = .ok operand.2 ∧ value.interpret A = .ok operand.1 := by
  obtain ⟨s, hs, h⟩ := bind_eq_ok h
  obtain ⟨v, hv, h⟩ := bind_eq_ok h
  cases h
  exact ⟨hs, hv⟩

theorem interpret_complete (value : Expr) (stack : List (OpenPart Expr)) :
    interpret A (complete Expr.algebra value stack)
      = (interpretOperand A (value, stack)).map fun operand => complete A operand.1 operand.2 := by
  fun_induction complete Expr.algebra value stack with
  | case1 value stack ih =>
    rw [ih]
    unfold interpretOperand
    simp only [interpretStack, Expr.algebra, Expr.interpret]
    cases interpretStack A stack with
    | error e => rfl
    | ok below =>
      cases value.interpret A with
      | error e => rfl
      | ok v => rfl
  | case2 value stack hminus =>
    -- The innermost open part is no minus sign, so its meaning is none either.
    simp only [interpret]
    cases h : interpretOperand A (value, stack) with
    | error e => rfl
    | ok operand =>
      obtain ⟨v, s⟩ := operand
      obtain ⟨hs, -⟩ := interpretOperand_eq_ok h
      have hcomplete : complete A v s = .operand v s := by
        rw [complete]
        rintro below rfl
        obtain ⟨rest, rfl⟩ := of_interpretStack_eq_minus hs
        exact hminus rest rfl
      exact congrArg Except.ok hcomplete.symm

/-- Settling operators of a tree cannot fail, and their meanings are settled in the same order. -/
theorem settle_follows (level : Nat) (value : Expr) (stack : List (OpenPart Expr)) :
    Follows (interpretOperand A) (settle Expr.algebra level value stack)
      (interpretOperand A (value, stack) >>= fun operand => settle A level operand.1 operand.2) := by
  fun_induction settle Expr.algebra level value stack with
  | case1 value left op stack hlevel result hresult ih =>
    cases hresult
    -- Both operands have failed by now if they fail at all, so the operator is left to apply.
    have hmeaning : (interpretOperand A (value, .pending left op :: stack) >>= fun operand =>
          settle A level operand.1 operand.2)
        = interpretOperand A (.binary op left value, stack) >>= fun operand =>
          settle A level operand.1 operand.2 := by
      unfold interpretOperand
      simp only [interpretStack, OpenPart.interpret, Expr.interpret]
      cases interpretStack A stack with
      | error e => rfl
      | ok below =>
        cases left.interpret A with
        | error e => rfl
        | ok l =>
          cases value.interpret A with
          | error e => rfl
          | ok v =>
            change settle A level v (.pending l op :: below) = _
            rw [settle, if_pos hlevel]
            cases h : A.binary op l v with
            | error e => simp [h, bind, Except.bind]
            | ok r => simp [h, bind, Except.bind, pure, Except.pure]
    rw [hmeaning]
    exact ih
  | case2 value left op stack hlevel e he => cases he
  | case3 value left op stack hlevel =>
    -- An operator that binds less is not settled, and neither is its meaning.
    change _ = interpretOperand A (value, .pending left op :: stack)
    cases h : interpretOperand A (value, .pending left op :: stack) with
    | error e => rfl
    | ok operand =>
      obtain ⟨v, s⟩ := operand
      obtain ⟨hs, -⟩ := interpretOperand_eq_ok h
      obtain ⟨part, below, hpart, -, rfl⟩ := interpretStack_cons_eq_ok hs
      obtain ⟨l, -, hpart⟩ := bind_eq_ok hpart
      cases hpart
      change settle A level v (.pending l op :: below) = _
      rw [settle, if_neg hlevel]
  | case4 value stack hpending =>
    change _ = interpretOperand A (value, stack)
    cases h : interpretOperand A (value, stack) with
    | error e => rfl
    | ok operand =>
      obtain ⟨v, s⟩ := operand
      obtain ⟨hs, -⟩ := interpretOperand_eq_ok h
      change settle A level v s = _
      rw [settle]
      rintro l op below rfl
      obtain ⟨left, rest, rfl⟩ := of_interpretStack_eq_pending hs
      exact hpending left op rest rfl

theorem complete_follows (tree : Expr) (stack : List (OpenPart Expr)) :
    Follows (interpret A) (.ok (complete Expr.algebra tree stack))
      (interpretStack A stack >>= fun stack => (tree.interpret A).map (complete A · stack)) := by
  change _ = interpret A (complete Expr.algebra tree stack)
  rw [interpret_complete]
  unfold interpretOperand
  cases interpretStack A stack with
  | error e => rfl
  | ok s =>
    cases tree.interpret A with
    | error e => rfl
    | ok v => rfl

/-- Where the tree reading stops, so does the other, if it has not failed before. -/
theorem stack_error_follows {β γ : Type} {meaning : β → Except FormulaError γ}
    (hA : A.FailsInEvaluation) {stack : List (OpenPart Expr)} {p : FormulaError}
    {f : List (OpenPart α) → Except FormulaError γ}
    (hf : ∀ s, interpretStack A stack = .ok s → f s = .error p) :
    Follows meaning (.error p) (interpretStack A stack >>= f) := by
  cases h : interpretStack A stack with
  | error e => exact ⟨e, rfl, .inr (kind_of_interpretStack hA h)⟩
  | ok s => exact ⟨p, hf s h, .inl rfl⟩

theorem deeper_follows (hA : A.FailsInEvaluation) (stack : List (OpenPart Expr))
    {next : Reading Expr} {next' : List (OpenPart α) → Reading α}
    (h : interpret A next = (interpretStack A stack).map next') :
    Follows (interpret A) (deeper stack next)
      (interpretStack A stack >>= fun stack => deeper stack (next' stack)) := by
  by_cases hdepth : openDepth stack < maxDepth
  · rw [deeper, if_pos hdepth]
    change _ = interpret A next
    rw [h]
    cases hs : interpretStack A stack with
    | error e => rfl
    | ok s =>
      change deeper s (next' s) = .ok (next' s)
      rw [deeper, openDepth_of_interpretStack hs, if_pos hdepth]
  · rw [deeper, if_neg hdepth]
    refine stack_error_follows hA fun s hs => ?_
    rw [deeper, openDepth_of_interpretStack hs, if_neg hdepth]

theorem beginOperand_follows (hA : A.FailsInEvaluation) (stack : List (OpenPart Expr))
    (token : Token) :
    Follows (interpret A) (beginOperand Expr.algebra stack token)
      (interpretStack A stack >>= fun stack => beginOperand A stack token) := by
  cases token with
  | number n => exact complete_follows (.number n) stack
  | text s => exact complete_follows (.text s) stack
  | bool b => exact complete_follows (.bool b) stack
  | field name => exact complete_follows (.field name) stack
  | function f => exact deeper_follows hA stack rfl
  | openParen => exact deeper_follows hA stack (map_interpretStack_cons rfl stack start)
  | closeParen => exact stack_error_follows hA fun _ _ => rfl
  | comma => exact stack_error_follows hA fun _ _ => rfl
  | operator op =>
    cases op with
    | subtract => exact deeper_follows hA stack (map_interpretStack_cons rfl stack start)
    | _ => exact stack_error_follows hA fun _ _ => rfl

theorem operand_error_follows {β γ : Type} {meaning : β → Except FormulaError γ}
    (hA : A.FailsInEvaluation) {value : Expr} {stack : List (OpenPart Expr)} {p : FormulaError}
    {f : α × List (OpenPart α) → Except FormulaError γ}
    (hf : ∀ v s, interpretStack A stack = .ok s → f (v, s) = .error p) :
    Follows meaning (.error p) (interpretOperand A (value, stack) >>= f) := by
  cases h : interpretOperand A (value, stack) with
  | error e => exact ⟨e, rfl, .inr (kind_of_interpretOperand hA h)⟩
  | ok operand => exact ⟨p, hf operand.1 operand.2 (interpretOperand_eq_ok h).1, .inl rfl⟩

theorem interpretAll_append (trees : List Expr) (tree : Expr) :
    Expr.interpretAll A (trees ++ [tree]) = do
      let values ← Expr.interpretAll A trees
      let value ← tree.interpret A
      return values ++ [value] := by
  induction trees with
  | nil =>
    simp only [List.nil_append, Expr.interpretAll]
    cases tree.interpret A with
    | error e => rfl
    | ok v => rfl
  | cons head rest ih =>
    rw [List.cons_append, Expr.interpretAll, Expr.interpretAll, ih]
    cases head.interpret A with
    | error e => rfl
    | ok v =>
      cases Expr.interpretAll A rest with
      | error e => rfl
      | ok vs =>
        cases tree.interpret A with
        | error e => rfl
        | ok w => rfl

theorem closeGroup_follows (hA : A.FailsInEvaluation) (value : Expr)
    (stack : List (OpenPart Expr)) (token : Token) :
    Follows (interpret A) (closeWith Expr.algebra value (.group :: stack) token)
      (interpretOperand A (value, .group :: stack) >>= fun operand =>
        closeWith A operand.1 operand.2 token) := by
  by_cases hclose : token = .closeParen
  · subst hclose
    have hread : (interpretOperand A (value, .group :: stack) >>= fun operand =>
          closeWith A operand.1 operand.2 .closeParen)
        = interpretStack A stack >>= fun stack =>
          (value.interpret A).map (complete A · stack) := by
      unfold interpretOperand
      simp only [interpretStack, OpenPart.interpret]
      cases interpretStack A stack with
      | error e => rfl
      | ok below =>
        cases value.interpret A with
        | error e => rfl
        | ok v => rfl
    rw [hread]
    exact complete_follows value stack
  · rw [closeWith, if_neg hclose]
    refine operand_error_follows hA fun v s hs => ?_
    obtain ⟨first, below, hpart, -, rfl⟩ := interpretStack_cons_eq_ok hs
    cases hpart
    change closeWith A v (.group :: below) token = _
    rw [closeWith, if_neg hclose]

theorem closeCall_follows (hA : A.FailsInEvaluation) (f : Builtin) (arguments : List Expr)
    (value : Expr) (stack : List (OpenPart Expr)) (token : Token) :
    Follows (interpret A) (closeWith Expr.algebra value (.call f arguments :: stack) token)
      (interpretOperand A (value, .call f arguments :: stack) >>= fun operand =>
        closeWith A operand.1 operand.2 token) := by
  by_cases hcomma : token = .comma
  · -- The argument joins those before it, and its meaning is taken after theirs.
    subst hcomma
    change (interpretOperand A (value, .call f arguments :: stack) >>= fun operand =>
        closeWith A operand.1 operand.2 .comma)
      = interpret A (.start (.call f (arguments ++ [value]) :: stack))
    unfold interpretOperand
    simp only [interpret, interpretStack, OpenPart.interpret, interpretAll_append]
    cases interpretStack A stack with
    | error e => rfl
    | ok below =>
      cases Expr.interpretAll A arguments with
      | error e => rfl
      | ok vs =>
        cases value.interpret A with
        | error e => rfl
        | ok v => rfl
  by_cases hclose : token = .closeParen
  · subst hclose
    have hread : (interpretOperand A (value, .call f arguments :: stack) >>= fun operand =>
          closeWith A operand.1 operand.2 .closeParen)
        = interpretStack A stack >>= fun stack =>
          ((Expr.call f (arguments ++ [value])).interpret A).map (complete A · stack) := by
      unfold interpretOperand
      simp only [interpretStack, OpenPart.interpret, Expr.interpret, interpretAll_append]
      cases interpretStack A stack with
      | error e => rfl
      | ok below =>
        cases Expr.interpretAll A arguments with
        | error e => rfl
        | ok vs =>
          cases value.interpret A with
          | error e => rfl
          | ok v => rfl
    rw [hread]
    exact complete_follows (.call f (arguments ++ [value])) stack
  · rw [closeWith, if_neg hcomma, if_neg hclose]
    refine operand_error_follows hA fun v s hs => ?_
    obtain ⟨first, below, hpart, -, rfl⟩ := interpretStack_cons_eq_ok hs
    obtain ⟨vs, -, hpart⟩ := bind_eq_ok hpart
    cases hpart
    change closeWith A v (.call f vs :: below) token = _
    rw [closeWith, if_neg hcomma, if_neg hclose]

theorem closeWith_follows (hA : A.FailsInEvaluation) (value : Expr) (stack : List (OpenPart Expr))
    (token : Token) :
    Follows (interpret A) (closeWith Expr.algebra value stack token)
      (interpretOperand A (value, stack) >>= fun operand =>
        closeWith A operand.1 operand.2 token) := by
  cases stack with
  | nil =>
    refine operand_error_follows hA fun v s hs => ?_
    cases hs
    rfl
  | cons part stack =>
    cases part with
    | group => exact closeGroup_follows hA value stack token
    | call f arguments => exact closeCall_follows hA f arguments value stack token
    | minus =>
      refine operand_error_follows hA fun v s hs => ?_
      obtain ⟨first, below, hpart, -, rfl⟩ := interpretStack_cons_eq_ok hs
      cases hpart
      rfl
    | pending left op =>
      refine operand_error_follows hA fun v s hs => ?_
      obtain ⟨first, below, hpart, -, rfl⟩ := interpretStack_cons_eq_ok hs
      obtain ⟨l, -, hpart⟩ := bind_eq_ok hpart
      cases hpart
      rfl

theorem named_follows (hA : A.FailsInEvaluation) (f : Builtin) (stack : List (OpenPart Expr))
    (token : Token) :
    Follows (interpret A) (step Expr.algebra (.named f stack) token)
      (interpretStack A stack >>= fun stack => step A (.named f stack) token) := by
  by_cases hopen : token = .openParen
  · subst hopen
    change _ = (interpretStack A stack).map (opened f)
    cases interpretStack A stack with
    | error e => rfl
    | ok s => rfl
  · rw [step, if_neg hopen]
    refine stack_error_follows hA fun s _ => ?_
    rw [step, if_neg hopen]

theorem opened_follows (hA : A.FailsInEvaluation) (f : Builtin) (stack : List (OpenPart Expr))
    (token : Token) :
    Follows (interpret A) (step Expr.algebra (.opened f stack) token)
      (interpretStack A stack >>= fun stack => step A (.opened f stack) token) := by
  by_cases hclose : token = .closeParen
  · subst hclose
    have hcall : (Expr.call f []).interpret A = A.call f [] := by
      rw [Expr.interpret, Expr.interpretAll]
      rfl
    have h := complete_follows (A := A) (.call f []) stack
    rw [hcall] at h
    exact h
  · have hread : (interpretStack A stack >>= fun stack => step A (.opened f stack) token)
        = interpretStack A (.call f [] :: stack) >>= fun stack => beginOperand A stack token := by
      simp only [interpretStack, OpenPart.interpret, Expr.interpretAll, step, if_neg hclose]
      cases interpretStack A stack with
      | error e => rfl
      | ok s => rfl
    rw [hread, step, if_neg hclose]
    exact beginOperand_follows hA (.call f [] :: stack) token

theorem operator_follows (value : Expr) (stack : List (OpenPart Expr)) (op : Operator) :
    Follows (interpret A) (step Expr.algebra (.operand value stack) (.operator op))
      (interpretOperand A (value, stack) >>= fun operand =>
        step A (.operand operand.1 operand.2) (.operator op)) := by
  have h : Follows (interpret A)
      (settle Expr.algebra op.level value stack >>= fun operand =>
        .ok (start (.pending operand.1 op :: operand.2)))
      (interpretOperand A (value, stack) >>= (fun operand => settle A op.level operand.1 operand.2)
        >>= fun operand => .ok (start (.pending operand.1 op :: operand.2))) := by
    refine (settle_follows op.level value stack).bind fun operand => ?_
    obtain ⟨left, below⟩ := operand
    change _ = interpret A (start (.pending left op :: below))
    unfold interpretOperand
    simp only [interpret, interpretStack, OpenPart.interpret]
    cases interpretStack A below with
    | error e => rfl
    | ok s =>
      cases left.interpret A with
      | error e => rfl
      | ok v => rfl
  rw [bind_assoc] at h
  exact h

theorem end_follows (hA : A.FailsInEvaluation) (value : Expr) (stack : List (OpenPart Expr))
    (token : Token) :
    Follows (interpret A)
      (settle Expr.algebra 0 value stack >>= fun operand =>
        closeWith Expr.algebra operand.1 operand.2 token)
      (interpretOperand A (value, stack) >>= fun operand =>
        settle A 0 operand.1 operand.2 >>= fun operand =>
          closeWith A operand.1 operand.2 token) := by
  have h := (settle_follows (A := A) 0 value stack).bind fun operand =>
    closeWith_follows hA operand.1 operand.2 token
  rw [bind_assoc] at h
  exact h

/-- **A step of a tree reading is followed** by a step of its meaning. -/
theorem step_follows (hA : A.FailsInEvaluation) (r : Reading Expr) (token : Token) :
    Follows (interpret A) (step Expr.algebra r token)
      (interpret A r >>= fun r => step A r token) := by
  cases r with
  | start stack =>
    rw [interpret, map_bind_eq]
    exact beginOperand_follows hA stack token
  | named f stack =>
    rw [interpret, map_bind_eq]
    exact named_follows hA f stack token
  | opened f stack =>
    rw [interpret, map_bind_eq]
    exact opened_follows hA f stack token
  | operand value stack =>
    rw [interpret, bind_assoc]
    cases token with
    | operator op => exact operator_follows value stack op
    | _ => exact end_follows hA value stack _

def lastOperand {β : Type} : β × List (OpenPart β) → Except FormulaError β
  | (value, []) => .ok value
  | (_, _ :: _) => .error (.expectedToken .closeParen none)

theorem lastOperand_follows (hA : A.FailsInEvaluation) (operand : Expr × List (OpenPart Expr)) :
    Follows (Expr.interpret A) (lastOperand operand) (interpretOperand A operand >>= lastOperand) := by
  obtain ⟨tree, below⟩ := operand
  cases below with
  | nil =>
    change _ = tree.interpret A
    unfold interpretOperand
    simp only [interpretStack]
    cases tree.interpret A with
    | error e => rfl
    | ok v => rfl
  | cons part rest =>
    refine operand_error_follows hA fun v s hs => ?_
    obtain ⟨first, below, -, -, rfl⟩ := interpretStack_cons_eq_ok hs
    rfl

theorem finish_operand {β : Type} (B : Algebra β) (value : β) (stack : List (OpenPart β)) :
    finish B (.operand value stack) = settle B 0 value stack >>= lastOperand := by
  rw [finish]
  cases settle B 0 value stack with
  | error e => rfl
  | ok operand =>
    obtain ⟨v, below⟩ := operand
    cases below with
    | nil => rfl
    | cons part rest => rfl

theorem finish_follows (hA : A.FailsInEvaluation) (r : Reading Expr) :
    Follows (Expr.interpret A) (finish Expr.algebra r) (interpret A r >>= finish A) := by
  cases r with
  | start stack =>
    rw [interpret, map_bind_eq]
    exact stack_error_follows hA fun _ _ => rfl
  | named f stack =>
    rw [interpret, map_bind_eq]
    exact stack_error_follows hA fun _ _ => rfl
  | opened f stack =>
    rw [interpret, map_bind_eq]
    exact stack_error_follows hA fun _ _ => rfl
  | operand value stack =>
    have hfinish : (interpret A (.operand value stack) >>= finish A)
        = interpretOperand A (value, stack) >>= fun operand =>
          settle A 0 operand.1 operand.2 >>= lastOperand := by
      rw [interpret, bind_assoc]
      exact congrArg _ (funext fun operand => finish_operand A operand.1 operand.2)
    rw [hfinish, finish_operand, ← bind_assoc]
    exact (settle_follows 0 value stack).bind (lastOperand_follows hA)

theorem foldlM_step_follows (hA : A.FailsInEvaluation) (tokens : List Token) (r : Reading Expr) :
    Follows (interpret A) (tokens.foldlM (step Expr.algebra) r)
      (interpret A r >>= fun r => tokens.foldlM (step A) r) := by
  induction tokens generalizing r with
  | nil =>
    change _ = interpret A r
    cases interpret A r with
    | error e => rfl
    | ok s => rfl
  | cons token rest ih =>
    have h := (step_follows hA r token).bind ih
    rw [bind_assoc] at h
    simpa only [List.foldlM_cons] using h

end Reading

/-- **Reading tokens in an algebra follows the reading of their tree.** -/
theorem readTokens_follows (hA : A.FailsInEvaluation) (tokens : List Token) :
    Follows (Expr.interpret A) (Expr.algebra.readTokens tokens) (A.readTokens tokens) :=
  (Reading.foldlM_step_follows hA tokens (.start [])).bind (Reading.finish_follows hA)

/-- **Reading a formula in an algebra follows the reading of its tree.** -/
theorem read_follows (hA : A.FailsInEvaluation) (expression : String) :
    Follows (Expr.interpret A) (Expr.parse expression) (A.read expression) := by
  unfold Expr.parse Algebra.read
  cases Token.scan expression with
  | error e => exact ⟨e, rfl, .inl rfl⟩
  | ok tokens => exact readTokens_follows hA tokens

end Fieldbook
