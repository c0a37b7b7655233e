import Fieldbook.Proofs.Formula.Grammar
import Fieldbook.Proofs.Formula.TreeReading

/-!
# Accepted formulas

What a reader accepts is what the grammar derives.  `Consumed tokens r` says by the grammar how tokens
can lead to a reading: each open part stands for the tokens that opened it, and an operator waits
only above one that binds more loosely.  `Consumed.step` keeps it over every token, so at the end the
tokens are an expression (`derives_of_readTokens`).  With `Reading.reading_of_derives` for the other
half, `accepts_iff_derives` joins the two.
-/

namespace Fieldbook

def room (stack : List (OpenPart Expr)) : Nat := maxDepth - openDepth stack

theorem room_cons_of_nests {part : OpenPart Expr} (h : part.nests = true)
    (stack : List (OpenPart Expr)) : room (part :: stack) = room stack - 1 := by
  rw [room, room, Reading.openDepth_cons_of_nests h, Nat.sub_add_eq]

theorem room_sub_one_add_one {stack : List (OpenPart Expr)} (h : openDepth stack < maxDepth) :
    room stack - 1 + 1 = room stack := by
  unfold room
  omega

theorem room_cons_pending (left : Expr) (op : Operator) (stack : List (OpenPart Expr)) :
    room (.pending left op :: stack) = room stack := by
  rw [room, room, Reading.openDepth_cons_pending]

/-- **Tokens that open the parts of a stack**, the innermost last. -/
inductive Opens : List Token → List (OpenPart Expr) → Prop
  | nil : Opens [] []
  | pending {tokens operand : List Token} {stack : List (OpenPart Expr)} {left : Expr}
      {op : Operator} (h : Opens tokens stack) (hloose : Looser op.level stack)
      (hleft : Derives op.level (room stack) operand left) :
      Opens (tokens ++ (operand ++ [.operator op])) (.pending left op :: stack)
  | minus {tokens : List Token} {stack : List (OpenPart Expr)} (h : Opens tokens stack)
      (hdepth : openDepth stack < maxDepth) :
      Opens (tokens ++ [.operator .subtract]) (.minus :: stack)
  | group {tokens : List Token} {stack : List (OpenPart Expr)} (h : Opens tokens stack)
      (hdepth : openDepth stack < maxDepth) : Opens (tokens ++ [.openParen]) (.group :: stack)
  | call {tokens : List Token} {stack : List (OpenPart Expr)} (h : Opens tokens stack)
      (hdepth : openDepth stack < maxDepth) (f : Builtin)
      (arguments : List (List Token × Expr))
      (harguments : ∀ a ∈ arguments, Derives 1 (room stack - 1) a.1 a.2) :
      Opens (tokens ++ .function f :: .openParen :: arguments.flatMap fun a => a.1 ++ [.comma])
        (.call f (arguments.map (·.2)) :: stack)

theorem Opens.exists_arguments {tokens : List Token} {f : Builtin} {trees : List Expr}
    {stack : List (OpenPart Expr)} (h : Opens tokens (.call f trees :: stack)) :
    ∃ (before : List Token) (arguments : List (List Token × Expr)), Opens before stack ∧
      openDepth stack < maxDepth ∧ trees = arguments.map (·.2) ∧
      tokens = before ++ .function f :: .openParen :: arguments.flatMap fun a => a.1 ++ [.comma] := by
  generalize hstack : OpenPart.call f trees :: stack = opened at h
  cases h with
  | call h hdepth g arguments harguments =>
    cases hstack
    exact ⟨_, arguments, h, hdepth, rfl, rfl⟩
  | _ => cases hstack

/-- **Tokens that lead to a reading.**  An operand that has just ended is a primary. -/
def Consumed (tokens : List Token) : Reading Expr → Prop
  | .start stack => Opens tokens stack
  | .named f stack => ∃ before, Opens before stack ∧ openDepth stack < maxDepth ∧
      tokens = before ++ [.function f]
  | .opened f stack => Opens tokens (.call f [] :: stack)
  | .operand value stack => ∃ before operand, Opens before stack ∧ Looser 4 stack ∧
      Derives 4 (room stack) operand value ∧ tokens = before ++ operand

namespace Consumed

open Reading

theorem complete {before operand : List Token} {value : Expr} {stack : List (OpenPart Expr)}
    (hopen : Opens before stack) (hvalue : Derives 4 (room stack) operand value) :
    Consumed (before ++ operand) (complete Expr.algebra value stack) := by
  fun_induction Reading.complete Expr.algebra value stack generalizing before operand with
  | case1 value stack ih =>
    cases hopen with
    | @minus tokens _ h hdepth =>
      rw [room_cons_of_nests rfl] at hvalue
      rw [List.append_assoc]
      refine ih h ?_
      rw [← room_sub_one_add_one hdepth]
      exact hvalue.negate
  | case2 value stack hminus =>
    exact ⟨before, operand, hopen, looser_of_ne_minus hminus, hvalue, rfl⟩

/-- **Settling groups tokens into larger operands** and neither drops nor moves any. -/
theorem settle {level m : Nat} {before operand : List Token} {value value' : Expr}
    {stack stack' : List (OpenPart Expr)} (hm : max 1 level ≤ m) (hopen : Opens before stack)
    (hloose : Looser m stack) (hvalue : Derives m (room stack) operand value)
    (h : settle Expr.algebra level value stack = .ok (value', stack')) :
    ∃ before' operand', Opens before' stack' ∧ Looser (max 1 level) stack' ∧
      Derives (max 1 level) (room stack') operand' value' ∧
      before ++ operand = before' ++ operand' := by
  fun_induction Reading.settle Expr.algebra level value stack
    generalizing before operand m with
  | case1 value left op stack hlevel result hresult ih =>
    cases hresult
    cases hopen with
    | @pending tokens leftTokens _ _ _ hopen hloose' hleft =>
      have hright : Derives (op.level + 1) (room stack) operand value := by
        rw [← room_cons_pending left op stack]
        exact hvalue.loosen (by omega) hloose
      have hop : 1 ≤ op.level := op.level_pos
      obtain ⟨before', operand', hopen', hloose'', hvalue', heq⟩ :=
        ih (by omega) hopen hloose' (hleft.binary hright) h
      refine ⟨before', operand', hopen', hloose'', hvalue', ?_⟩
      rw [← heq]
      simp
  | case2 value left op stack hlevel e he => cases he
  | case3 value left op stack hlevel =>
    cases h
    have hlt : op.level < max 1 level := by omega
    exact ⟨before, operand, hopen, hlt, hvalue.loosen (by omega) hm, rfl⟩
  | case4 value stack hpending =>
    cases h
    exact ⟨before, operand, hopen, hloose.of_ne_pending hpending _, hvalue.loosen (by omega) hm, rfl⟩

theorem beginOperand {before : List Token} {stack : List (OpenPart Expr)} {token : Token}
    {r : Reading Expr} (hopen : Opens before stack)
    (h : beginOperand Expr.algebra stack token = .ok r) : Consumed (before ++ [token]) r := by
  have deeper : ∀ {next : Reading Expr}, Reading.deeper stack next = .ok r →
      openDepth stack < maxDepth ∧ r = next := by
    intro next hdeeper
    unfold Reading.deeper at hdeeper
    split at hdeeper
    · rename_i hdepth
      cases hdeeper
      exact ⟨hdepth, rfl⟩
    · cases hdeeper
  cases token with
  | number n =>
    cases h
    exact complete hopen (.number n)
  | text s =>
    cases h
    exact complete hopen (.text s)
  | bool b =>
    cases h
    exact complete hopen (.bool b)
  | field name =>
    cases h
    exact complete hopen (.field name)
  | function f =>
    obtain ⟨hdepth, rfl⟩ := deeper h
    exact ⟨before, hopen, hdepth, rfl⟩
  | openParen =>
    obtain ⟨hdepth, rfl⟩ := deeper h
    exact hopen.group hdepth
  | closeParen => cases h
  | comma => cases h
  | operator op =>
    cases op with
    | subtract =>
      obtain ⟨hdepth, rfl⟩ := deeper h
      exact hopen.minus hdepth
    | _ => cases h

theorem closeWith {before operand : List Token} {value : Expr} {stack : List (OpenPart Expr)}
    {token : Token} {r : Reading Expr} (hopen : Opens before stack)
    (hvalue : Derives 1 (room stack) operand value)
    (h : closeWith Expr.algebra value stack token = .ok r) :
    Consumed (before ++ operand ++ [token]) r := by
  cases hopen with
  | nil => cases h
  | pending => cases h
  | minus => cases h
  | @group tokens stack hopen hdepth =>
    rw [room_cons_of_nests rfl] at hvalue
    have hgroup := hvalue.group
    rw [room_sub_one_add_one hdepth] at hgroup
    by_cases hclose : token = .closeParen
    · subst hclose
      cases h
      simpa using complete hopen hgroup
    · rw [Reading.closeWith, if_neg hclose] at h
      cases h
  | @call tokens stack hopen hdepth f arguments harguments =>
    rw [room_cons_of_nests rfl] at hvalue
    -- The expression is one more argument, whatever comes next.
    have hall : ∀ a ∈ arguments ++ [(operand, value)], Derives 1 (room stack - 1) a.1 a.2 := by
      intro a ha
      rcases List.mem_append.1 ha with ha | ha
      · exact harguments a ha
      · obtain rfl := List.mem_singleton.1 ha
        exact hvalue
    by_cases hcomma : token = .comma
    · subst hcomma
      cases h
      simpa [Consumed] using hopen.call hdepth f (arguments ++ [(operand, value)]) hall
    by_cases hclose : token = .closeParen
    · subst hclose
      cases h
      have hcall := Derives.call f (arguments ++ [(operand, value)]) hall
      rw [room_sub_one_add_one hdepth, argumentTokens_concat] at hcall
      simpa using complete hopen hcall
    · rw [Reading.closeWith, if_neg hcomma, if_neg hclose] at h
      cases h

theorem step {tokens : List Token} {r r' : Reading Expr} {token : Token} (hr : Consumed tokens r)
    (h : step Expr.algebra r token = .ok r') : Consumed (tokens ++ [token]) r' := by
  cases r with
  | start stack => exact beginOperand hr h
  | named f stack =>
    obtain ⟨before, hopen, hdepth, rfl⟩ := hr
    rw [Reading.step] at h
    by_cases hparen : token = .openParen
    · subst hparen
      cases h
      simpa [Consumed] using hopen.call hdepth f [] (by simp)
    · rw [if_neg hparen] at h
      cases h
  | opened f stack =>
    rw [Reading.step] at h
    by_cases hclose : token = .closeParen
    · subst hclose
      cases h
      obtain ⟨before, arguments, hopen, hdepth, hnil, rfl⟩ := hr.exists_arguments
      obtain rfl : arguments = [] := List.map_eq_nil_iff.1 hnil.symm
      have hcall : Derives 4 (room stack - 1 + 1) _ _ := Derives.call f [] (by simp)
      rw [room_sub_one_add_one hdepth] at hcall
      simpa [argumentTokens] using complete hopen hcall
    · rw [if_neg hclose] at h
      exact beginOperand hr h
  | operand value stack =>
    obtain ⟨before, operand, hopen, hloose, hvalue, rfl⟩ := hr
    -- The operand is settled first, whatever comes next, and no token is lost by it.
    cases token with
    | operator op =>
      obtain ⟨⟨left, below⟩, hsettle, rfl⟩ := map_eq_ok h
      have hlevel : max 1 op.level = op.level := Nat.max_eq_right op.level_pos
      have hle : max 1 op.level ≤ 4 := by
        rw [hlevel]
        exact Nat.le_succ_of_le op.level_le
      obtain ⟨before', operand', hopen', hloose', hleft, heq⟩ :=
        settle hle hopen hloose hvalue hsettle
      rw [hlevel] at hloose' hleft
      rw [heq, List.append_assoc]
      exact hopen'.pending hloose' hleft
    | _ =>
      rw [Reading.step] at h
      · obtain ⟨⟨whole, below⟩, hsettle, hclose⟩ := bind_eq_ok h
        obtain ⟨before', operand', hopen', -, hwhole, heq⟩ :=
          settle (by decide) hopen hloose hvalue hsettle
        rw [heq]
        exact closeWith hopen' hwhole hclose
      · intro op
        exact Token.noConfusion

theorem foldlM {tokens : List Token} {r r' : Reading Expr} (hr : Consumed tokens r)
    (more : List Token) (h : more.foldlM (Reading.step Expr.algebra) r = .ok r') :
    Consumed (tokens ++ more) r' := by
  induction more generalizing tokens r with
  | nil =>
    cases h
    rw [List.append_nil]
    exact hr
  | cons token rest ih =>
    rw [List.foldlM_cons] at h
    obtain ⟨next, hstep, hrest⟩ := bind_eq_ok h
    rw [List.append_cons]
    exact ih (hr.step hstep) hrest

/-- **The end**: nothing is open, so the tokens are one expression. -/
theorem finish {tokens : List Token} {r : Reading Expr} {tree : Expr} (hr : Consumed tokens r)
    (h : finish Expr.algebra r = .ok tree) : Derives 1 maxDepth tokens tree := by
  cases r with
  | start stack => cases h
  | named f stack => cases h
  | opened f stack => cases h
  | operand value stack =>
    obtain ⟨before, operand, hopen, hloose, hvalue, rfl⟩ := hr
    rw [finish_operand] at h
    obtain ⟨⟨whole, below⟩, hsettle, hlast⟩ := bind_eq_ok h
    obtain ⟨before', operand', hopen', -, hwhole, heq⟩ :=
      settle (by decide) hopen hloose hvalue hsettle
    rw [heq]
    cases below with
    | nil =>
      cases hlast
      cases hopen'
      exact hwhole
    | cons part rest => cases hlast

end Consumed

theorem derives_of_readTokens {tokens : List Token} {tree : Expr}
    (h : Expr.algebra.readTokens tokens = .ok tree) : Derives 1 maxDepth tokens tree := by
  obtain ⟨r, hread, hfinish⟩ := bind_eq_ok h
  have hstart : Consumed [] (.start []) := .nil
  exact (hstart.foldlM tokens hread).finish hfinish

theorem readTokens_of_derives {tokens : List Token} {tree : Expr}
    (h : Derives 1 maxDepth tokens tree) : Expr.algebra.readTokens tokens = .ok tree := by
  obtain ⟨r, hread, value, below, rfl, hsettle⟩ :=
    (Reading.reading_of_derives h [] (Nat.le_of_eq (Nat.zero_add _))).2 trivial
  rw [Algebra.readTokens, hread]
  change Reading.finish Expr.algebra (.operand value below) = _
  rw [Reading.finish_operand, hsettle 0 (Nat.zero_le 1)]
  rfl

end Fieldbook
