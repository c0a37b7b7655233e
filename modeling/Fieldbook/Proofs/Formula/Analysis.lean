import Fieldbook.Proofs.Formula.References
import Fieldbook.Proofs.Formula.SinglePass

/-!
# What a formula is known to read

`Formula.references` and `Formula.isVolatile` look at the tree of a formula and compute nothing.
`reads_only_references` says that they leave nothing out: two scopes that agree on the references of a
formula, and on the instant if the formula is volatile, give it one value or one error.  Rows, fields
and clocks may differ in everything else.
-/

namespace Fieldbook

/-- **Only volatile functions read the clock.** -/
theorem Builtin.apply_congr {f : Builtin} {clock clock' : Instant}
    (h : f.isVolatile = false ∨ clock = clock') (arguments : List Value) :
    f.apply clock arguments = f.apply clock' arguments := by
  rcases h with hsettled | rfl
  · cases f with
    | now => cases hsettled
    | today => cases hsettled
    | _ => rfl
  · rfl

theorem Expr.isVolatile_of_mem_calls {tree : Expr} {f : Builtin} (hf : f ∈ tree.calls)
    (h : tree.isVolatile = false) : f.isVolatile = false := by
  have hall : ∀ g ∈ tree.calls, ¬ g.isVolatile = true := List.any_eq_false.1 h
  exact Bool.eq_false_iff.2 (hall f hf)

theorem Expr.interpret_eq_of_agree {tree : Expr} {s s' : Scope}
    (hfields : ∀ name ∈ tree.references, s.fieldValue name = s'.fieldValue name)
    (hclock : tree.isVolatile = false ∨ s.now = s'.now) :
    tree.interpret s.algebra = tree.interpret s'.algebra := by
  refine Expr.interpret_congr tree (fun name hname => ?_) fun f hf => ?_
  · exact hfields name (List.mem_eraseDups.2 hname)
  · have hread : f.isVolatile = false ∨ s.now = s'.now :=
      hclock.imp_left (Expr.isVolatile_of_mem_calls hf)
    funext arguments
    exact Builtin.apply_congr hread arguments

namespace Formula

/-- **A formula reads its references and, if it is volatile, the clock.**  Both are known of every
formula that has a tree. -/
theorem reads_only_references (expression : String) (tree : Expr)
    (htree : Expr.parse expression = .ok tree) :
    ∃ names volatile, references expression = .ok names ∧ isVolatile expression = .ok volatile ∧
      ∀ s s' : Scope, (∀ name ∈ names, s.fieldValue name = s'.fieldValue name) →
        (volatile = false ∨ s.now = s'.now) → value expression s = value expression s' := by
  refine ⟨tree.references, tree.isVolatile, ?_, ?_, fun s s' hfields hclock => ?_⟩
  · rw [references, htree]
    rfl
  · rw [isVolatile, htree]
    rfl
  · rw [value_of_parse s htree, value_of_parse s' htree]
    exact Expr.interpret_eq_of_agree hfields hclock

set_option maxRecDepth 20000 in
/-- The name of a field may lead to another field of another row.  At one instant `TODAY()` does not
tell the two scopes apart, and `UPPER({N})` does not at two. -/
theorem reads_only_references_upper_and_today :
    let s : Scope := ⟨(default : Row).setCell "a" (.text "x"), [⟨"a", "N", .text⟩], .ofSeconds 0⟩
    let s' : Scope := ⟨(default : Row).setCell "b" (.text "x"),
      [⟨"a", "M", .text⟩, ⟨"b", "N", .number⟩], .ofSeconds 90000⟩
    s.fieldValue "N" = s'.fieldValue "N" ∧ s.now ≠ s'.now ∧
      value "UPPER({N})" s = value "UPPER({N})" s' ∧
      value "CONCAT({N}, TODAY())" { s with now := s'.now } = value "CONCAT({N}, TODAY())" s' := by
  intro s s'
  have hupper : Expr.parse "UPPER({N})" = .ok (.call .upper [.field "N"]) := by
    with_unfolding_all rfl
  have htoday : Expr.parse "CONCAT({N}, TODAY())"
      = .ok (.call .concat [.field "N", .call .today []]) := by
    with_unfolding_all rfl
  have hfield : s.fieldValue "N" = s'.fieldValue "N" := by
    with_unfolding_all rfl
  obtain ⟨names, volatile, hnames, hvolatile, hread⟩ := reads_only_references _ _ hupper
  obtain ⟨names', volatile', hnames', hvolatile', hread'⟩ := reads_only_references _ _ htoday
  rw [references, hupper] at hnames
  rw [isVolatile, hupper] at hvolatile
  rw [references, htoday] at hnames'
  cases hnames
  cases hvolatile
  cases hnames'
  refine ⟨hfield, by decide, hread s s' ?_ (.inl rfl), hread' { s with now := s'.now } s' ?_ (.inr rfl)⟩
  · intro name hname
    obtain rfl : name = "N" := by
      simpa [Expr.references, Expr.fieldNames, Expr.fieldNamesAll] using hname
    exact hfield
  · intro name hname
    obtain rfl : name = "N" := by
      simpa [Expr.references, Expr.fieldNames, Expr.fieldNamesAll] using hname
    exact hfield

end Formula

end Fieldbook
