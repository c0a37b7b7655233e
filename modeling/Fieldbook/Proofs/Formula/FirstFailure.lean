import Fieldbook.Proofs.Formula.Grammar
import Fieldbook.Proofs.Formula.SinglePass

/-!
# The first failure

A formula is read from left to right, so what stands behind the point where it fails changes nothing.
`Formula.error_append` says this for trees and for values: an error that is more than a lack of tokens
is the error of every longer formula.

The end is the one place where it is not plain.  There everything that waits is settled, but if more
tokens follow, the next one settles only what binds as tightly as itself.  Still the two meet the same
error.  Of all operators only a product can fail, it binds most tightly, and what waits is `Layered`,
so a product that fails is the first to be settled in both (`Reading.settle_error_of_layered`).
-/

namespace Fieldbook

/-- **Whether a formula has run out of tokens**: it ends where something else must stand. -/
def FormulaError.ranOut : FormulaError → Bool
  | unexpectedEnd | expectedToken _ none => true
  | _ => false

variable {α : Type} {A : Algebra α}

/-- **No operator but a product fails.** -/
def Algebra.OnlyProductsFail (A : Algebra α) : Prop :=
  ∀ ⦃op left right e⦄, A.binary op left right = .error e → op.level = 3

theorem Expr.algebra_onlyProductsFail : Expr.algebra.OnlyProductsFail := by
  intro op left right e h
  cases h

theorem Scope.algebra_onlyProductsFail (s : Scope) : s.algebra.OnlyProductsFail := by
  intro op left right e h
  change op.apply left right = .error e at h
  cases op with
  | multiply => rfl
  | divide => rfl
  | modulo => rfl
  | add =>
    simp only [Operator.apply] at h
    split at h <;> cases h
  | _ => cases h

/-! ### Layers -/

/-- **Each waiting operator binds more tightly than the one it waits on**, and no minus sign waits on
an operand that has ended. -/
def Layered : List (OpenPart α) → Prop
  | [] => True
  | .pending _ op :: below => Looser op.level below ∧ Layered below
  | .minus :: below | .group :: below | .call _ _ :: below => Layered below

namespace Reading

/-- The same for a reading, with a last operand that no minus sign waits on. -/
def InLayers : Reading α → Prop
  | .start stack | .named _ stack | .opened _ stack => Layered stack
  | .operand _ stack => Looser 4 stack ∧ Layered stack

theorem inLayers_complete {stack : List (OpenPart α)} (h : Layered stack) (value : α) :
    (complete A value stack).InLayers := by
  fun_induction complete A value stack with
  | case1 value stack ih => exact ih h
  | case2 value stack hminus => exact ⟨looser_of_ne_minus hminus, h⟩

theorem layered_of_settle {level : Nat} {value result : α} {stack below : List (OpenPart α)}
    (hloose : Looser 4 stack) (hstack : Layered stack)
    (h : settle A level value stack = .ok (result, below)) :
    Looser level below ∧ Layered below := by
  fun_induction settle A level value stack with
  | case1 value left op stack hlevel joined hjoined ih =>
    have hle : op.level ≤ 4 := Nat.le_succ_of_le op.level_le
    exact ih (hstack.1.mono hle) hstack.2 h
  | case2 value left op stack hlevel e he => cases h
  | case3 value left op stack hlevel =>
    cases h
    exact ⟨Nat.lt_of_not_le hlevel, hstack⟩
  | case4 value stack hpending =>
    cases h
    exact ⟨hloose.of_ne_pending hpending level, hstack⟩

theorem inLayers_of_deeper {stack : List (OpenPart α)} {next r : Reading α} (hnext : next.InLayers)
    (h : deeper stack next = .ok r) : r.InLayers := by
  unfold deeper at h
  split at h
  · cases h
    exact hnext
  · cases h

theorem inLayers_of_map {stack : List (OpenPart α)} {x : Except FormulaError α} {r : Reading α}
    (hstack : Layered stack) (h : x.map (complete A · stack) = .ok r) : r.InLayers := by
  obtain ⟨value, -, rfl⟩ := map_eq_ok h
  exact inLayers_complete hstack value

theorem inLayers_of_beginOperand {stack : List (OpenPart α)} {token : Token} {r : Reading α}
    (hstack : Layered stack) (h : beginOperand A stack token = .ok r) : r.InLayers := by
  cases token with
  | number n =>
    cases h
    exact inLayers_complete hstack (A.number n)
  | text s =>
    cases h
    exact inLayers_complete hstack (A.text s)
  | bool b =>
    cases h
    exact inLayers_complete hstack (A.bool b)
  | field name => exact inLayers_of_map hstack h
  | function f =>
    have hnext : (Reading.named f stack).InLayers := hstack
    exact inLayers_of_deeper hnext h
  | openParen =>
    have hnext : (start (.group :: stack)).InLayers := hstack
    exact inLayers_of_deeper hnext h
  | closeParen => cases h
  | comma => cases h
  | operator op =>
    cases op with
    | subtract =>
      have hnext : (start (.minus :: stack)).InLayers := hstack
      exact inLayers_of_deeper hnext h
    | _ => cases h

theorem inLayers_of_closeWith {value : α} {stack : List (OpenPart α)} {token : Token}
    {r : Reading α} (hstack : Layered stack) (h : closeWith A value stack token = .ok r) :
    r.InLayers := by
  cases stack with
  | nil => cases h
  | cons part below =>
    cases part with
    | pending left op => cases h
    | minus => cases h
    | group =>
      have hbelow : Layered below := hstack
      rw [closeWith] at h
      split at h
      · cases h
        exact inLayers_complete hbelow value
      · cases h
    | call f arguments =>
      have hbelow : Layered below := hstack
      rw [closeWith] at h
      split at h
      · cases h
        exact hbelow
      · split at h
        · exact inLayers_of_map hbelow h
        · cases h

/-- **Layers last for a token.** -/
theorem InLayers.step {r r' : Reading α} (hr : r.InLayers) {token : Token}
    (h : step A r token = .ok r') : r'.InLayers := by
  cases r with
  | start stack => exact inLayers_of_beginOperand hr h
  | named f stack =>
    rw [Reading.step] at h
    split at h
    · cases h
      exact hr
    · cases h
  | opened f stack =>
    rw [Reading.step] at h
    split at h
    · exact inLayers_of_map hr h
    · have hcall : Layered (.call f [] :: stack) := hr
      exact inLayers_of_beginOperand hcall h
  | operand value stack =>
    obtain ⟨hloose, hstack⟩ := hr
    cases token with
    | operator op =>
      obtain ⟨⟨left, below⟩, hsettle, rfl⟩ := map_eq_ok h
      exact layered_of_settle hloose hstack hsettle
    | _ =>
      obtain ⟨⟨whole, below⟩, hsettle, hclose⟩ := bind_eq_ok h
      exact inLayers_of_closeWith (layered_of_settle hloose hstack hsettle).2 hclose

theorem InLayers.foldlM {r r' : Reading α} (hr : r.InLayers) {tokens : List Token}
    (h : tokens.foldlM (Reading.step A) r = .ok r') : r'.InLayers := by
  induction tokens generalizing r with
  | nil =>
    cases h
    exact hr
  | cons token rest ih =>
    rw [List.foldlM_cons] at h
    obtain ⟨next, hstep, hrest⟩ := bind_eq_ok h
    exact ih (hr.step hstep) hrest

/-! ### The failure of an operator -/

/-- Below a product nothing can fail. -/
theorem settle_ne_error (hA : A.OnlyProductsFail) {level : Nat} {value : α}
    {stack : List (OpenPart α)} (hloose : Looser 3 stack) (hstack : Layered stack)
    {e : FormulaError} : settle A level value stack ≠ .error e := by
  fun_induction settle A level value stack with
  | case1 value left op stack hlevel result hresult ih =>
    exact ih (hstack.1.mono op.level_le) hstack.2
  | case2 value left op stack hlevel e' he =>
    intro _
    exact absurd (hA he) (Nat.ne_of_lt hloose)
  | case3 value left op stack hlevel => simp
  | case4 value stack hpending => simp

/-- **What fails at the end fails at any operator.**  It is the product that ends there. -/
theorem settle_error_of_layered (hA : A.OnlyProductsFail) {value : α} {stack : List (OpenPart α)}
    (hstack : Layered stack) {e : FormulaError} (h : settle A 0 value stack = .error e)
    {level : Nat} (hle : level ≤ 3) : settle A level value stack = .error e := by
  cases stack with
  | nil => cases h
  | cons part below =>
    cases part with
    | minus => cases h
    | group => cases h
    | call f arguments => cases h
    | pending left op =>
      rw [settle, if_pos (Nat.zero_le _)] at h
      cases hjoin : A.binary op left value with
      | ok result =>
        rw [hjoin] at h
        exact absurd h (settle_ne_error hA (hstack.1.mono op.level_le) hstack.2)
      | error e' =>
        rw [hjoin] at h
        cases h
        have hop : level ≤ op.level := by
          rw [hA hjoin]
          exact hle
        rw [settle, if_pos hop, hjoin]

/-- **A failure at the end is met one token later**, whatever the token, if it is no lack of tokens. -/
theorem step_error_of_finish (hA : A.OnlyProductsFail) {r : Reading α} (hr : r.InLayers)
    {e : FormulaError} (h : r.finish A = .error e) (he : e.ranOut = false) (token : Token) :
    step A r token = .error e := by
  cases r with
  | start stack =>
    cases h
    cases he
  | named f stack =>
    cases h
    cases he
  | opened f stack =>
    cases h
    cases he
  | operand value stack =>
    rw [finish_operand] at h
    rcases bind_eq_error h with hsettle | ⟨⟨last, below⟩, -, hlast⟩
    · cases token with
      | operator op =>
        rw [step, settle_error_of_layered hA hr.2 hsettle op.level_le]
        rfl
      | _ =>
        rw [step, hsettle]
        · rfl
        · intro op
          exact Token.noConfusion
    · cases below with
      | nil => cases hlast
      | cons part rest =>
        cases hlast
        cases he

end Reading

/-- **More tokens do not change an error.** -/
theorem Algebra.readTokens_append (hA : A.OnlyProductsFail) {tokens : List Token}
    {e : FormulaError} (h : A.readTokens tokens = .error e) (he : e.ranOut = false)
    (more : List Token) : A.readTokens (tokens ++ more) = .error e := by
  cases more with
  | nil =>
    rw [List.append_nil]
    exact h
  | cons token rest =>
    rw [readTokens, List.foldlM_append]
    rcases bind_eq_error h with hread | ⟨r, hread, hfinish⟩
    · rw [hread]
      rfl
    · have hstart : (Reading.start [] : Reading α).InLayers := trivial
      have hstep := Reading.step_error_of_finish hA (hstart.foldlM hread) hfinish he token
      rw [hread]
      change (token :: rest).foldlM (Reading.step A) r >>= _ = _
      rw [List.foldlM_cons, hstep]
      rfl

namespace Formula

variable {first second : String} {tokens more : List Token} {e : FormulaError}

theorem read_error_append (hA : A.OnlyProductsFail) (hfirst : Token.scan first = .ok tokens)
    (hsecond : Token.scan second = .ok (tokens ++ more)) (h : A.read first = .error e)
    (he : e.ranOut = false) : A.read second = .error e := by
  rw [Algebra.read, hfirst] at h
  rw [Algebra.read, hsecond]
  exact Algebra.readTokens_append hA h he more

theorem not_isBlankText_of_scan (hA : A.OnlyProductsFail) (hfirst : Token.scan first = .ok tokens)
    (hsecond : Token.scan second = .ok (tokens ++ more)) (h : A.read first = .error e)
    (he : e.ranOut = false) : ¬ Text.isBlankText second.toList = true := by
  intro hblank
  have hread := read_error_append hA hfirst hsecond h he
  have hnone : Token.scan second = .ok [] := Token.scanFrom_of_isBlankText _ hblank
  rw [Algebra.read, hnone] at hread
  cases hread
  cases he

/-- **Nothing behind the first failure changes it.**  Where the tokens of one formula stand at the front
of another, and the first has no tree, or no value, for more reasons than that its tokens have run out,
the other has none either, with the same error. -/
theorem error_append (hfirst : Token.scan first = .ok tokens)
    (hsecond : Token.scan second = .ok (tokens ++ more)) :
    (∀ e, Expr.parse first = .error e → e.ranOut = false → Expr.parse second = .error e) ∧
      ∀ s e, value first s = .error e → e.ranOut = false → value second s = .error e := by
  refine ⟨fun e h he => ?_, fun s e h he => ?_⟩
  · exact read_error_append Expr.algebra_onlyProductsFail hfirst hsecond h he
  · have hA := s.algebra_onlyProductsFail
    rw [value] at h
    split at h
    · cases h
    · rw [value, if_neg (not_isBlankText_of_scan hA hfirst hsecond h he)]
      exact read_error_append hA hfirst hsecond h he

set_option maxRecDepth 20000 in
/-- `true/false)` fails at its parenthesis, and before it at its quotient, whatever follows. -/
theorem error_append_quotient :
    Expr.parse "true/false) + \x7bRate\x7d" = .error (.unexpectedToken .closeParen) ∧
      value "true/false) + \x7bRate\x7d" ⟨default, [], default⟩ = .error .divisionByZero := by
  have hfirst : Token.scan "true/false)"
      = .ok [.bool true, .operator .divide, .bool false, .closeParen] := by
    with_unfolding_all rfl
  have hsecond : Token.scan "true/false) + \x7bRate\x7d"
      = .ok ([.bool true, .operator .divide, .bool false, .closeParen]
        ++ [.operator .add, .field "Rate"]) := by
    with_unfolding_all rfl
  have htree : Expr.parse "true/false)" = .error (.unexpectedToken .closeParen) := by
    with_unfolding_all rfl
  have hvalue : value "true/false)" ⟨default, [], default⟩ = .error .divisionByZero := by
    have hzero : Number.isZero 0 = true := by decide +kernel
    have hquotient : Operator.apply .divide (.bool true) (.bool false) = .error .divisionByZero := by
      simp [Operator.apply, Value.toNumber, hzero]
    rw [value, if_neg (by decide), Algebra.read, hfirst]
    simp [Algebra.readTokens, Reading.step, Reading.beginOperand, Reading.complete,
      Reading.settle, Scope.algebra, hquotient, bind, Except.bind, Except.map]
  have hlonger := error_append hfirst hsecond
  exact ⟨hlonger.1 _ htree rfl, hlonger.2 _ _ hvalue rfl⟩

end Formula

end Fieldbook
