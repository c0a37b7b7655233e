import Fieldbook.Proofs.Formula.TreeReading

/-!
# Evaluating in one pass

A formula is evaluated while it is read, without a tree.  `one_pass` says that nothing is lost by
that: a formula that has a tree comes to what its tree is interpreted to, and one that has none
fails.  Only the failure may be another one, since an operand without a value stops the reader
before it has seen the rest.
-/

namespace Fieldbook

/-! ### What evaluating fails with -/

theorem Operator.error_of_apply {op : Operator} {left right : Value} {e : FormulaError}
    (h : op.apply left right = .error e) : e = .divisionByZero := by
  cases op with
  | add =>
    simp only [Operator.apply] at h
    split at h <;> cases h
  | divide =>
    simp only [Operator.apply] at h
    split at h
    · cases h
      rfl
    · cases h
  | modulo =>
    simp only [Operator.apply] at h
    split at h
    · cases h
      rfl
    · cases h
  | _ => cases h

theorem Value.error_of_instant {v : Value} {e : FormulaError} (h : v.instant = .error e) :
    e = .invalidDate v.display := by
  unfold Value.instant at h
  split at h
  · cases h
  · cases h
    rfl

theorem Value.error_of_daysBetween {first second : Value} {e : FormulaError}
    (h : first.daysBetween second = .error e) : ∃ text, e = .invalidDate text := by
  rcases bind_eq_error h with h | ⟨_, _, h⟩
  · exact ⟨_, Value.error_of_instant h⟩
  · rcases bind_eq_error h with h | ⟨_, _, h⟩
    · exact ⟨_, Value.error_of_instant h⟩
    · cases h

theorem Builtin.error_of_apply {f : Builtin} {clock : Instant} {arguments : List Value}
    {e : FormulaError} (h : f.apply clock arguments = .error e) :
    e = .argumentCount f arguments.length ∨ ∃ text, e = .invalidDate text := by
  unfold Builtin.apply at h
  split at h
  · cases f with
    | days => exact .inr (Value.error_of_daysBetween h)
    | _ => cases h
  · cases h
    exact .inl rfl

theorem Scope.error_of_fieldValue {s : Scope} {name : String} {e : FormulaError}
    (h : s.fieldValue name = .error e) : e = .unknownField name := by
  unfold Scope.fieldValue at h
  split at h
  · cases h
  · cases h
    rfl

/-- **Evaluating finds no formula malformed.** -/
theorem Scope.algebra_failsInEvaluation (s : Scope) : s.algebra.FailsInEvaluation where
  field h := by
    rw [Scope.error_of_fieldValue h]
    rfl
  binary h := by
    rw [Operator.error_of_apply h]
    rfl
  call h := by
    rcases Builtin.error_of_apply h with rfl | ⟨text, rfl⟩ <;> rfl

/-! ### One pass -/

theorem Token.scanFrom_of_isBlankText (size : Nat) {cs : List Char}
    (h : Text.isBlankText cs = true) : Token.scanFrom size cs = .ok [] := by
  induction cs with
  | nil => rw [Token.scanFrom]
  | cons c rest ih =>
    rw [Text.isBlankText, List.all_cons, Bool.and_eq_true] at h
    rw [Token.scanFrom, if_pos h.1]
    exact ih h.2

theorem Expr.parse_of_isBlankText {expression : String}
    (h : Text.isBlankText expression.toList = true) :
    Expr.parse expression = .error .unexpectedEnd := by
  unfold Expr.parse Algebra.read Token.scan
  rw [Token.scanFrom_of_isBlankText _ h]
  rfl

namespace Formula

theorem value_of_parse {expression : String} {tree : Expr} (s : Scope)
    (h : Expr.parse expression = .ok tree) :
    value expression s = tree.interpret s.algebra := by
  have hblank : ¬ Text.isBlankText expression.toList = true := by
    intro hblank
    rw [Expr.parse_of_isBlankText hblank] at h
    cases h
  have hread := read_follows s.algebra_failsInEvaluation expression
  rw [h] at hread
  rw [value, if_neg hblank]
  exact hread

theorem value_of_parse_error {expression : String} {p : FormulaError} (s : Scope)
    (h : Expr.parse expression = .error p) (hblank : Text.isBlankText expression.toList = false) :
    ∃ e, value expression s = .error e ∧ (e = p ∨ e.kind = .evaluation) := by
  have hread := read_follows s.algebra_failsInEvaluation expression
  rw [h] at hread
  rw [value, if_neg (ne_true_of_eq_false hblank)]
  exact hread

/-- **One pass computes what the tree means.**  A formula that has a tree comes to what the tree is
interpreted to, operands from left to right and up to the first failure.  One that has none fails
too: at the same place, or before it at an operand that has no value. -/
theorem one_pass (expression : String) (s : Scope) :
    (∀ tree, Expr.parse expression = .ok tree →
      s.algebra.read expression = tree.interpret s.algebra ∧
        value expression s = tree.interpret s.algebra) ∧
    (∀ p, Expr.parse expression = .error p → Text.isBlankText expression.toList = false →
      ∃ e, value expression s = .error e ∧ (e = p ∨ e.kind = .evaluation)) ∧
    (Text.isBlankText expression.toList = false → (∃ v, value expression s = .ok v) →
      ∃ tree, Expr.parse expression = .ok tree) := by
  refine ⟨fun tree h => ?_, fun p h hblank => value_of_parse_error s h hblank,
    fun hblank ⟨v, hv⟩ => ?_⟩
  · have hread := read_follows s.algebra_failsInEvaluation expression
    rw [h] at hread
    exact ⟨hread, value_of_parse s h⟩
  · cases h : Expr.parse expression with
    | ok tree => exact ⟨tree, rfl⟩
    | error p =>
      obtain ⟨e, he, -⟩ := value_of_parse_error s h hblank
      rw [hv] at he
      cases he

set_option maxRecDepth 20000 in
/-- `CONCAT(a, b)` has a tree and a value, and `1/0)` fails before its end is reached. -/
theorem one_pass_concat_and_quotient :
    (Expr.parse "CONCAT(a, b)" = .ok (.call .concat [.text "a", .text "b"]) ∧
      value "CONCAT(a, b)" ⟨default, [], default⟩
        = (Expr.call .concat [.text "a", .text "b"]).interpret
          (Scope.algebra ⟨default, [], default⟩)) ∧
    (Expr.parse "1/0)" = .error (.unexpectedToken .closeParen) ∧
      ∃ e, value "1/0)" ⟨default, [], default⟩ = .error e ∧
        (e = .unexpectedToken .closeParen ∨ e.kind = .evaluation)) ∧
    (value "CONCAT(a, b)" ⟨default, [], default⟩ = .ok (.text "ab") ∧
      ∃ tree, Expr.parse "CONCAT(a, b)" = .ok tree) := by
  have htree : Expr.parse "CONCAT(a, b)" = .ok (.call .concat [.text "a", .text "b"]) := by
    with_unfolding_all rfl
  have hstop : Expr.parse "1/0)" = .error (.unexpectedToken .closeParen) := by
    with_unfolding_all rfl
  have hvalue : value "CONCAT(a, b)" ⟨default, [], default⟩ = .ok (.text "ab") := by
    with_unfolding_all rfl
  exact ⟨⟨htree, ((one_pass "CONCAT(a, b)" _).1 _ htree).2⟩,
    ⟨hstop, (one_pass "1/0)" _).2.1 _ hstop (by decide)⟩,
    ⟨hvalue, (one_pass "CONCAT(a, b)" _).2.2 (by decide) ⟨_, hvalue⟩⟩⟩

end Formula

end Fieldbook
