import Fieldbook.Proofs.Formula.ByName
import Fieldbook.Proofs.Formula.ScanParts
import Fieldbook.Proofs.Formula.SinglePass

/-!
# Every call is of a function that exists

A word becomes the token of a function only if it is found among the functions, and from there on its
name is carried through the reader, which drops and makes up none.  So the error of a name without a
function (`FormulaError.unknownFunction`) is never met.  `Formula.calls_registered` says this of the
tokens, of the trees and of the names that are looked up while a formula is evaluated, all in the
reading by name, where nothing but the scanner keeps other names out.

That the error is never met is seen from where errors come from (`error_of_read`): a reader fails where
a formula is malformed, or with what its algebra fails with.
-/

namespace Fieldbook

/-! ### Where errors come from -/

section Errors

variable {α : Type} {A : Algebra α} {P : FormulaError → Prop} {e : FormulaError}

/-- **What a reader may fail with**: all that is wrong with a malformed formula, and whatever the
algebra fails with. -/
structure Algebra.FailsWith (A : Algebra α) (P : FormulaError → Prop) : Prop where
  parse : ∀ {e}, e.kind = .parse → P e
  field : ∀ {name e}, A.field name = .error e → P e
  binary : ∀ {op left right e}, A.binary op left right = .error e → P e
  call : ∀ {f arguments e}, A.call f arguments = .error e → P e

namespace Token

theorem kind_of_scanOne {size : Nat} {c : Char} {rest : List Char}
    (h : scanOne size c rest = .error e) : e.kind = .parse := by
  cases noToken_of_scanOne h <;> rfl

theorem kind_of_scan {expression : String} (h : scan expression = .error e) : e.kind = .parse := by
  rcases scanFrom_cases _ expression.toList with ⟨_, hscan, -⟩ | ⟨_, _, _, _, hscan, -, -, hone⟩
  · rw [scan, hscan] at h
    cases h
  · rw [scan, hscan] at h
    cases h
    exact kind_of_scanOne hone

end Token

namespace Reading

theorem error_of_settle (hA : A.FailsWith P) {level : Nat} {value : α} {stack : List (OpenPart α)}
    (h : settle A level value stack = .error e) : P e := by
  fun_induction settle A level value stack with
  | case1 value left op stack hlevel result hresult ih => exact ih h
  | case2 value left op stack hlevel p hp =>
    cases h
    exact hA.binary hp
  | case3 value left op stack hlevel => cases h
  | case4 value stack hpending => cases h

theorem error_of_deeper (hA : A.FailsWith P) {stack : List (OpenPart α)} {next : Reading α}
    (h : deeper stack next = .error e) : P e := by
  unfold deeper at h
  split at h
  · cases h
  · cases h
    exact hA.parse rfl

theorem error_of_beginOperand (hA : A.FailsWith P) {stack : List (OpenPart α)} {token : Token}
    (h : beginOperand A stack token = .error e) : P e := by
  unfold beginOperand at h
  split at h
  · cases h
  · cases h
  · cases h
  · exact hA.field (map_eq_error h)
  · exact error_of_deeper hA h
  · exact error_of_deeper hA h
  · exact error_of_deeper hA h
  · cases h
    exact hA.parse rfl

theorem error_of_closeWith (hA : A.FailsWith P) {value : α} {stack : List (OpenPart α)}
    {token : Token} (h : closeWith A value stack token = .error e) : P e := by
  unfold closeWith at h
  split at h
  · split at h
    · cases h
    · cases h
      exact hA.parse rfl
  · split at h
    · cases h
    · split at h
      · exact hA.call (map_eq_error h)
      · cases h
        exact hA.parse rfl
  · cases h
    exact hA.parse rfl

theorem error_of_step (hA : A.FailsWith P) {r : Reading α} {token : Token}
    (h : step A r token = .error e) : P e := by
  cases r with
  | start stack => exact error_of_beginOperand hA h
  | named f stack =>
    rw [step] at h
    split at h
    · cases h
    · cases h
      exact hA.parse rfl
  | opened f stack =>
    rw [step] at h
    split at h
    · exact hA.call (map_eq_error h)
    · exact error_of_beginOperand hA h
  | operand value stack =>
    cases token with
    | operator op => exact error_of_settle hA (map_eq_error h)
    | _ =>
      rcases bind_eq_error h with h | ⟨_, -, h⟩
      · exact error_of_settle hA h
      · exact error_of_closeWith hA h

theorem error_of_foldlM_step (hA : A.FailsWith P) {tokens : List Token} {r : Reading α}
    (h : tokens.foldlM (step A) r = .error e) : P e := by
  induction tokens generalizing r with
  | nil => cases h
  | cons token rest ih =>
    rw [List.foldlM_cons] at h
    rcases bind_eq_error h with h | ⟨next, -, h⟩
    · exact error_of_step hA h
    · exact ih h

theorem error_of_finish (hA : A.FailsWith P) {r : Reading α} (h : finish A r = .error e) : P e := by
  cases r with
  | operand value stack =>
    rw [finish_operand] at h
    rcases bind_eq_error h with h | ⟨⟨last, below⟩, -, h⟩
    · exact error_of_settle hA h
    · cases below with
      | nil => cases h
      | cons part rest =>
        cases h
        exact hA.parse rfl
  | _ =>
    cases h
    exact hA.parse rfl

end Reading

/-- **A formula is malformed, or the algebra fails.** -/
theorem error_of_read (hA : A.FailsWith P) {expression : String} (h : A.read expression = .error e) :
    P e := by
  rcases bind_eq_error h with h | ⟨tokens, -, h⟩
  · exact hA.parse (Token.kind_of_scan h)
  · rcases bind_eq_error h with h | ⟨r, -, h⟩
    · exact Reading.error_of_foldlM_step hA h
    · exact Reading.error_of_finish hA h

end Errors

/-- **No value fails for want of a function.** -/
theorem Scope.algebra_failsWith (s : Scope) :
    s.algebra.FailsWith fun e => ∀ name, e ≠ .unknownFunction name where
  parse h name heq := by
    rw [heq] at h
    cases h
  field h name := by
    rw [Scope.error_of_fieldValue h]
    exact FormulaError.noConfusion
  binary h name := by
    rw [Operator.error_of_apply h]
    exact FormulaError.noConfusion
  call h name := by
    rcases Builtin.error_of_apply h with rfl | ⟨text, rfl⟩ <;> exact FormulaError.noConfusion

/-! ### Trees by name -/

namespace ByName

inductive Expr where
  | number (value : Number)
  | text (value : String)
  | bool (value : Bool)
  | field (name : String)
  | negate (operand : Expr)
  | binary (op : Operator) (left right : Expr)
  | call (name : String) (arguments : List Expr)

namespace Expr

def algebra : Algebra Expr where
  number := number
  text := text
  bool := bool
  field name := .ok (field name)
  negate := negate
  binary op left right := .ok (binary op left right)
  call name arguments := .ok (call name arguments)

def parse (expression : String) : Except FormulaError Expr := algebra.read expression

mutual

def callees : Expr → List String
  | call name arguments => name :: calleesAll arguments
  | negate operand => callees operand
  | binary _ left right => callees left ++ callees right
  | number _ | text _ | bool _ | field _ => []

def calleesAll : List Expr → List String
  | [] => []
  | expr :: rest => callees expr ++ calleesAll rest

end

end Expr

end ByName

namespace Expr

mutual

def byName : Expr → ByName.Expr
  | number n => .number n
  | text s => .text s
  | bool b => .bool b
  | field name => .field name
  | negate operand => .negate (byName operand)
  | binary op left right => .binary op (byName left) (byName right)
  | call f arguments => .call f.name (byNameAll arguments)

def byNameAll : List Expr → List ByName.Expr
  | [] => []
  | expr :: rest => byName expr :: byNameAll rest

end

mutual

theorem interpret_byName :
    ∀ tree : Expr, tree.interpret ByName.Expr.algebra.onBuiltins = .ok tree.byName
  | .number _ | .text _ | .bool _ | .field _ => by
    rw [interpret, byName]
    rfl
  | .negate operand => by
    rw [interpret, byName, interpret_byName operand]
    rfl
  | .binary op left right => by
    rw [interpret, byName, interpret_byName left, interpret_byName right]
    rfl
  | .call f arguments => by
    rw [interpret, byName, interpretAll_byName arguments]
    rfl

theorem interpretAll_byName :
    ∀ trees : List Expr,
      interpretAll ByName.Expr.algebra.onBuiltins trees = .ok (byNameAll trees)
  | [] => by
    rw [interpretAll, byNameAll]
  | tree :: rest => by
    rw [interpretAll, byNameAll, interpret_byName tree, interpretAll_byName rest]
    rfl

end

mutual

/-- **The names in a tree are those of the functions** that it calls. -/
theorem callees_byName : ∀ tree : Expr, tree.byName.callees = tree.calls.map Builtin.name
  | .number _ | .text _ | .bool _ | .field _ => by
    rw [byName, calls]
    rfl
  | .negate operand => by
    rw [byName, calls, ByName.Expr.callees, callees_byName operand]
  | .binary op left right => by
    rw [byName, calls, ByName.Expr.callees, callees_byName left, callees_byName right,
      List.map_append]
  | .call f arguments => by
    rw [byName, calls, ByName.Expr.callees, calleesAll_byNameAll arguments, List.map_cons]

theorem calleesAll_byNameAll :
    ∀ trees : List Expr,
      ByName.Expr.calleesAll (byNameAll trees) = (callsAll trees).map Builtin.name
  | [] => by
    rw [byNameAll, callsAll]
    rfl
  | tree :: rest => by
    rw [byNameAll, callsAll, ByName.Expr.calleesAll, callees_byName tree,
      calleesAll_byNameAll rest, List.map_append]

end

end Expr

/-- **The tree by name is that of the library**, with its functions by name. -/
theorem ByName.Expr.parse_eq (expression : String) :
    parse expression = (Fieldbook.Expr.parse expression).map Fieldbook.Expr.byName := by
  have hread := read_follows (A := algebra.onBuiltins) ⟨nofun, nofun, nofun⟩ expression
  rw [parse, Algebra.read_eq]
  cases htree : Fieldbook.Expr.parse expression with
  | error p =>
    rw [htree] at hread
    obtain ⟨e, he, rfl | hkind⟩ := hread
    · exact he
    · -- Nothing but a malformed formula is without a tree.
      have hA : algebra.onBuiltins.FailsWith (·.kind = .parse) := ⟨id, nofun, nofun, nofun⟩
      have hparse := error_of_read hA he
      rw [hkind] at hparse
      cases hparse
  | ok tree =>
    rw [htree] at hread
    have hmeaning : algebra.onBuiltins.read expression = tree.interpret algebra.onBuiltins := hread
    rw [hmeaning]
    exact tree.interpret_byName

/-! ### Values by name -/

/-- **Whether a name is that of a function**, in any case. -/
def Registered (name : String) : Prop := (Builtin.ofName? name).isSome = true

instance (name : String) : Decidable (Registered name) := inferInstanceAs (Decidable (_ = _))

theorem Builtin.ofName?_name (f : Builtin) : ofName? f.name = some f := by
  cases f <;> decide

theorem registered_name (f : Builtin) : Registered f.name := by
  rw [Registered, Builtin.ofName?_name]
  rfl

namespace Scope

/-- What the function of a name makes of arguments, if the name is looked up when the call is
computed. -/
def callNamed (s : Scope) (name : String) (arguments : List Value) : Except FormulaError Value :=
  Builtin.applyNamed name s.now arguments

/-- The algebra in which a formula means its value, and a name what `call` takes it for. -/
def algebraByName (s : Scope) (call : String → List Value → Except FormulaError Value) :
    ByName.Algebra Value where
  number := .number
  text := .text
  bool := .bool
  field := s.fieldValue
  negate v := .number (-v.toNumber)
  binary := Operator.apply
  call := call

theorem callNamed_name (s : Scope) (f : Builtin) (arguments : List Value) :
    s.callNamed f.name arguments = f.apply s.now arguments := by
  rw [callNamed, Builtin.applyNamed, Builtin.ofName?_name]

/-- **Only the names of functions are looked up.** -/
theorem onBuiltins_algebraByName {s : Scope}
    {call : String → List Value → Except FormulaError Value}
    (hcall : ∀ name, Registered name → call name = s.callNamed name) :
    (s.algebraByName call).onBuiltins = s.algebra := by
  have hbuiltin : (fun (f : Builtin) (arguments : List Value) => call f.name arguments)
      = fun f arguments => f.apply s.now arguments := by
    funext f arguments
    rw [hcall f.name (registered_name f), callNamed_name]
  exact congrArg (fun g => { s.algebra with call := g }) hbuiltin

end Scope

namespace Formula

/-- **The value of a formula**, read by name. -/
def valueByName (call : String → List Value → Except FormulaError Value) (expression : String)
    (s : Scope) : Except FormulaError Value :=
  if Text.isBlankText expression.toList then .ok .null
  else (s.algebraByName call).read expression

/-- **Every call is of a function that exists.**  Each token of a function, and each call in a tree,
has the name of one.  No other name is looked up while a formula is evaluated: whatever else a name
could be taken for, the value is the same.  So no formula fails for want of a function. -/
theorem calls_registered (expression : String) (s : Scope) :
    (∀ tokens, ByName.Token.scan expression = .ok tokens →
      ∀ name, .function name ∈ tokens → Registered name) ∧
    (∀ tree, ByName.Expr.parse expression = .ok tree →
      ∀ name ∈ tree.callees, Registered name) ∧
    (∀ call : String → List Value → Except FormulaError Value,
      (∀ name, Registered name → call name = s.callNamed name) →
        valueByName call expression s = valueByName s.callNamed expression s) ∧
    valueByName s.callNamed expression s = value expression s ∧
    ∀ name, value expression s ≠ .error (.unknownFunction name) := by
  have hvalue : ∀ call : String → List Value → Except FormulaError Value,
      (∀ name, Registered name → call name = s.callNamed name) →
        valueByName call expression s = value expression s := by
    intro call hcall
    rw [valueByName, value, ByName.Algebra.read_eq, Scope.onBuiltins_algebraByName hcall]
  have hnamed : valueByName s.callNamed expression s = value expression s :=
    hvalue s.callNamed fun name _ => rfl
  refine ⟨fun tokens htokens name hname => ?_, fun tree htree name hname => ?_,
    fun call hcall => (hvalue call hcall).trans hnamed.symm, hnamed, fun name herror => ?_⟩
  · rw [ByName.Token.scan_eq] at htokens
    obtain ⟨found, -, rfl⟩ := map_eq_ok htokens
    obtain ⟨token, -, htoken⟩ := List.mem_map.1 hname
    cases token with
    | function f =>
      cases htoken
      exact registered_name f
    | _ => cases htoken
  · rw [ByName.Expr.parse_eq] at htree
    obtain ⟨t, -, rfl⟩ := map_eq_ok htree
    rw [Expr.callees_byName] at hname
    obtain ⟨f, -, rfl⟩ := List.mem_map.1 hname
    exact registered_name f
  · rw [value] at herror
    split at herror
    · cases herror
    · exact error_of_read s.algebra_failsWith herror name rfl

set_option maxRecDepth 20000 in
/-- The first character of `ﬂoor(true)` is a ligature, and two letters in upper case. -/
theorem calls_registered_ligature :
    (ByName.Token.scan "ﬂoor(true)" = .ok [.function "FLOOR", .openParen, .bool true, .closeParen] ∧
      Registered "FLOOR") ∧
    (ByName.Expr.parse "ﬂoor(true)" = .ok (.call "FLOOR" [.bool true]) ∧ Registered "FLOOR") ∧
    (valueByName (fun name arguments =>
        if Registered name then Scope.callNamed ⟨default, [], default⟩ name arguments
        else .error (.unknownFunction name)) "ﬂoor(true)" ⟨default, [], default⟩
      = valueByName (Scope.callNamed ⟨default, [], default⟩) "ﬂoor(true)" ⟨default, [], default⟩) := by
  have htokens : ByName.Token.scan "ﬂoor(true)"
      = .ok [.function "FLOOR", .openParen, .bool true, .closeParen] := by
    rw [ByName.Token.scan_eq]
    with_unfolding_all rfl
  have htree : ByName.Expr.parse "ﬂoor(true)" = .ok (.call "FLOOR" [.bool true]) := by
    rw [ByName.Expr.parse, ByName.Algebra.read, htokens]
    rfl
  have hknown := calls_registered "ﬂoor(true)" ⟨default, [], default⟩
  refine ⟨⟨htokens, hknown.1 _ htokens "FLOOR" (by simp)⟩,
    ⟨htree, hknown.2.1 _ htree "FLOOR" (by simp [ByName.Expr.callees])⟩,
    hknown.2.2.1 _ fun name hname => ?_⟩
  funext arguments
  rw [if_pos hname]

end Formula

end Fieldbook
