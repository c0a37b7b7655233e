import Fieldbook.Proofs.Formula.TreeReading
import Fieldbook.Proofs.Text.Uppering

/-!
# Reading by name

A token of the library carries the function itself, so that a call cannot name a function that does
not exist.  Here is the same reader with names in their place.  A token carries any text as the name of
a function, a call keeps the name, and whoever computes the call is left to find out what the name
stands for (`ByName.Algebra.call`).  Names are looked up in the words of a formula only: a word that is
a name in upper case becomes a token with the word in upper case as its name, so that the name is put
into upper case once more whenever it is looked up again.

`ByName.Algebra.read_eq` says that nothing is lost by carrying functions: both readers give the same.
The tokens of one are those of the other by name (`ByName.Token.scan_eq`), since upper case is final,
and over such tokens both go through the same steps (`ByName.Reading.step_byName`).
-/

namespace Fieldbook

/-! ### Tokens -/

namespace ByName

/-- A part of a formula, a function by its name. -/
inductive Token where
  | number (value : Number)
  | text (value : String)
  | bool (value : Bool)
  | field (name : String)
  | operator (op : Operator)
  | openParen
  | closeParen
  | comma
  | function (name : String)
deriving DecidableEq

/-- **A token as an error shows it.**  A name that no function has is shown as a text. -/
def Token.shown : Token → Fieldbook.Token
  | number n => .number n
  | text s => .text s
  | bool b => .bool b
  | field name => .field name
  | operator op => .operator op
  | openParen => .openParen
  | closeParen => .closeParen
  | comma => .comma
  | function name =>
    match Builtin.all.find? (·.name == name) with
    | some f => .function f
    | none => .text name

end ByName

def Token.byName : Token → ByName.Token
  | number n => .number n
  | text s => .text s
  | bool b => .bool b
  | field name => .field name
  | operator op => .operator op
  | openParen => .openParen
  | closeParen => .closeParen
  | comma => .comma
  | function f => .function f.name

theorem Builtin.find?_name (f : Builtin) : Builtin.all.find? (·.name == f.name) = some f := by
  cases f <;> decide

theorem Token.shown_byName (token : Token) : token.byName.shown = token := by
  cases token with
  | function f => simp only [byName, ByName.Token.shown, Builtin.find?_name]
  | _ => rfl

theorem Token.byName_eq_closeParen {token : Token} :
    token.byName = .closeParen ↔ token = .closeParen := by
  cases token <;> simp [byName]

theorem Token.byName_eq_openParen {token : Token} :
    token.byName = .openParen ↔ token = .openParen := by
  cases token <;> simp [byName]

theorem Token.byName_eq_comma {token : Token} : token.byName = .comma ↔ token = .comma := by
  cases token <;> simp [byName]

/-! ### Scanning -/

/-- **A name in upper case is looked up as it is**, although it is put into upper case once more. -/
theorem Builtin.ofName?_upper (word : List Char) :
    ofName? (String.ofList (Text.upper word)) = withName? (Text.upper word) := by
  rw [ofName?, String.toList_ofList, Text.upper_upper]

theorem Builtin.name_of_withName? {name : List Char} {f : Builtin} (h : withName? name = some f) :
    f.name = String.ofList name := by
  have hname : f.name.toList = name := by simpa using List.find?_some h
  rw [← hname, String.ofList_toList]

namespace ByName

namespace Token

/-- **The token of a word.**  Whether it names a function is asked of the word in upper case. -/
def ofWord (word : List Char) : Token :=
  let upper := Text.upper word
  if upper = "TRUE".toList then bool true
  else if upper = "FALSE".toList then bool false
  else if (Builtin.ofName? (String.ofList upper)).isSome then function (String.ofList upper)
  else text (String.ofList word)

def scanOne (size : Nat) (c : Char) (rest : List Char) : Except FormulaError (Token × List Char) :=
  if Token.isNumberStart c rest then
    let (front, back, rest) := splitDigits (c :: rest)
    .ok (number (.signed false (.ofDigits front back 0)), rest)
  else if c = '"' ∨ c = '\'' then
    (Token.scanUntil c .unterminatedString rest).map fun (s, rest) => (text s, rest)
  else if c = '{' then
    (Token.scanUntil '}' .unterminatedFieldRef rest).map fun (s, rest) => (field s, rest)
  else if Token.isWordStart c then
    .ok (ofWord (c :: rest.takeWhile Token.isWordChar), rest.dropWhile Token.isWordChar)
  else match Operator.split? (c :: rest) with
    | some (op, rest) => .ok (operator op, rest)
    | none =>
      match Token.ofMark? c with
      | some mark => .ok (mark.byName, rest)
      | none => .error (.unexpectedCharacter c (size - Text.byteLength (c :: rest)))

/-- **A word is the same token by name**: it names a function by its name in full. -/
theorem ofWord_eq (word : List Char) : ofWord word = (Fieldbook.Token.ofWord word).byName := by
  unfold ofWord Fieldbook.Token.ofWord
  simp only [Builtin.ofName?_upper]
  split
  · rfl
  · split
    · rfl
    · cases hname : Builtin.withName? (Text.upper word) with
      | none => rfl
      | some f =>
        rw [← Builtin.name_of_withName? hname]
        rfl

theorem scanOne_eq (size : Nat) (c : Char) (rest : List Char) :
    scanOne size c rest
      = (Fieldbook.Token.scanOne size c rest).map fun found => (found.1.byName, found.2) := by
  unfold scanOne Fieldbook.Token.scanOne
  split
  · rfl
  · split
    · cases Token.scanUntil c .unterminatedString rest <;> rfl
    · split
      · cases Token.scanUntil '}' .unterminatedFieldRef rest <;> rfl
      · split
        · rw [ofWord_eq]
          rfl
        · cases Operator.split? (c :: rest) with
          | some found => rfl
          | none => cases Token.ofMark? c <;> rfl

theorem length_scanOne {size : Nat} {c : Char} {rest after : List Char} {token : Token}
    (h : scanOne size c rest = .ok (token, after)) : after.length ≤ rest.length := by
  rw [scanOne_eq] at h
  cases hfound : Fieldbook.Token.scanOne size c rest with
  | error e =>
    rw [hfound] at h
    cases h
  | ok found =>
    rw [hfound] at h
    cases h
    exact Fieldbook.Token.length_scanOne hfound

def scanFrom (size : Nat) : List Char → Except FormulaError (List Token)
  | [] => .ok []
  | c :: rest =>
    if Text.isBlank c then scanFrom size rest
    else match _h : scanOne size c rest with
      | .error e => .error e
      | .ok (token, after) => (scanFrom size after).map (token :: ·)
termination_by cs => cs.length
decreasing_by
  · exact Nat.lt_succ_self _
  · exact Nat.lt_succ_of_le (length_scanOne _h)

def scan (expression : String) : Except FormulaError (List Token) :=
  let cs := expression.toList
  scanFrom (Text.byteLength cs) cs

theorem scanFrom_eq (size : Nat) (cs : List Char) :
    scanFrom size cs = (Fieldbook.Token.scanFrom size cs).map (List.map Fieldbook.Token.byName) := by
  fun_induction Fieldbook.Token.scanFrom size cs with
  | case1 => rw [scanFrom]; rfl
  | case2 c rest hblank ih =>
    rw [scanFrom, if_pos hblank]
    exact ih
  | case3 c rest hblank e hfound =>
    have hone : scanOne size c rest = .error e := by
      rw [scanOne_eq, hfound]
      rfl
    rw [scanFrom, if_neg hblank]
    split
    · rename_i hfail
      rw [hone] at hfail
      cases hfail
      rfl
    · rename_i hok
      rw [hone] at hok
      cases hok
  | case4 c rest hblank token after hfound ih =>
    have hone : scanOne size c rest = .ok (token.byName, after) := by
      rw [scanOne_eq, hfound]
      rfl
    rw [scanFrom, if_neg hblank]
    split
    · rename_i hfail
      rw [hone] at hfail
      cases hfail
    · rename_i hok
      rw [hone] at hok
      cases hok
      rw [ih]
      cases Fieldbook.Token.scanFrom size after <;> rfl

/-- **The tokens by name are those of the library.** -/
theorem scan_eq (expression : String) :
    scan expression
      = (Fieldbook.Token.scan expression).map (List.map Fieldbook.Token.byName) :=
  scanFrom_eq _ _

end Token

/-! ### Reading -/

/-- What the parts of a formula mean, a call by the name of its function. -/
structure Algebra (α : Type) where
  number : Number → α
  text : String → α
  bool : Bool → α
  field : String → Except FormulaError α
  negate : α → α
  binary : Operator → α → α → Except FormulaError α
  call : String → List α → Except FormulaError α

inductive OpenPart (α : Type) where
  | pending (left : α) (op : Operator)
  | minus
  | group
  | call (name : String) (arguments : List α)

inductive Reading (α : Type) where
  | start (stack : List (OpenPart α))
  | named (name : String) (stack : List (OpenPart α))
  | opened (name : String) (stack : List (OpenPart α))
  | operand (value : α) (stack : List (OpenPart α))

variable {α : Type}

def OpenPart.nests : OpenPart α → Bool
  | pending _ _ => false
  | minus | group | call _ _ => true

def openDepth (stack : List (OpenPart α)) : Nat := stack.countP OpenPart.nests

namespace Reading

def deeper (stack : List (OpenPart α)) (next : Reading α) : Except FormulaError (Reading α) :=
  if openDepth stack < maxDepth then .ok next else .error .tooDeeplyNested

def complete (A : Algebra α) : α → List (OpenPart α) → Reading α
  | value, .minus :: stack => complete A (A.negate value) stack
  | value, stack => .operand value stack

def settle (A : Algebra α) (level : Nat) :
    α → List (OpenPart α) → Except FormulaError (α × List (OpenPart α))
  | value, .pending left op :: stack =>
    if level ≤ op.level then
      match A.binary op left value with
      | .ok result => settle A level result stack
      | .error e => .error e
    else .ok (value, .pending left op :: stack)
  | value, stack => .ok (value, stack)

def beginOperand (A : Algebra α) (stack : List (OpenPart α)) :
    Token → Except FormulaError (Reading α)
  | .number n => .ok (complete A (A.number n) stack)
  | .text s => .ok (complete A (A.text s) stack)
  | .bool b => .ok (complete A (A.bool b) stack)
  | .field name => (A.field name).map (complete A · stack)
  | .function name => deeper stack (.named name stack)
  | .openParen => deeper stack (.start (.group :: stack))
  | .operator .subtract => deeper stack (.start (.minus :: stack))
  | token => .error (.unexpectedToken token.shown)

def closeWith (A : Algebra α) (value : α) (stack : List (OpenPart α)) (token : Token) :
    Except FormulaError (Reading α) :=
  match stack with
  | .group :: stack =>
    if token = .closeParen then .ok (complete A value stack)
    else .error (.expectedToken .closeParen (some token.shown))
  | .call name arguments :: stack =>
    if token = .comma then .ok (.start (.call name (arguments ++ [value]) :: stack))
    else if token = .closeParen then
      (A.call name (arguments ++ [value])).map (complete A · stack)
    else .error (.expectedToken .closeParen (some token.shown))
  | _ => .error (.unexpectedToken token.shown)

def step (A : Algebra α) : Reading α → Token → Except FormulaError (Reading α)
  | start stack, token => beginOperand A stack token
  | named name stack, token =>
    if token = .openParen then .ok (opened name stack)
    else .error (.expectedToken .openParen (some token.shown))
  | opened name stack, token =>
    if token = .closeParen then (A.call name []).map (complete A · stack)
    else beginOperand A (.call name [] :: stack) token
  | operand value stack, .operator op =>
    (settle A op.level value stack).map fun (left, stack) => start (.pending left op :: stack)
  | operand value stack, token => do
    let (value, stack) ← settle A 0 value stack
    closeWith A value stack token

def finish (A : Algebra α) : Reading α → Except FormulaError α
  | start _ | opened _ _ => .error .unexpectedEnd
  | named _ _ => .error (.expectedToken .openParen none)
  | operand value stack => do
    match ← settle A 0 value stack with
    | (value, []) => .ok value
    | _ => .error (.expectedToken .closeParen none)

end Reading

def Algebra.readTokens (A : Algebra α) (tokens : List Token) : Except FormulaError α := do
  let reading ← tokens.foldlM (Reading.step A) (.start [])
  reading.finish A

def Algebra.read (A : Algebra α) (expression : String) : Except FormulaError α := do
  let tokens ← Token.scan expression
  A.readTokens tokens

end ByName

/-! ### Both readers -/

def OpenPart.byName {α : Type} : OpenPart α → ByName.OpenPart α
  | pending left op => .pending left op
  | minus => .minus
  | group => .group
  | call f arguments => .call f.name arguments

def Reading.byName {α : Type} : Reading α → ByName.Reading α
  | start stack => .start (stack.map OpenPart.byName)
  | named f stack => .named f.name (stack.map OpenPart.byName)
  | opened f stack => .opened f.name (stack.map OpenPart.byName)
  | operand value stack => .operand value (stack.map OpenPart.byName)

namespace ByName

variable {α : Type}

/-- The algebra on the functions whose names a reader by name meets. -/
def Algebra.onBuiltins (A : Algebra α) : Fieldbook.Algebra α where
  number := A.number
  text := A.text
  bool := A.bool
  field := A.field
  negate := A.negate
  binary := A.binary
  call f arguments := A.call f.name arguments

theorem openDepth_byName (stack : List (Fieldbook.OpenPart α)) :
    openDepth (stack.map Fieldbook.OpenPart.byName) = Fieldbook.openDepth stack := by
  unfold openDepth Fieldbook.openDepth
  rw [List.countP_map]
  refine List.countP_congr fun part _ => ?_
  cases part <;> rfl

namespace Reading

variable (A : Algebra α)

theorem deeper_byName (stack : List (Fieldbook.OpenPart α)) (next : Fieldbook.Reading α) :
    deeper (stack.map Fieldbook.OpenPart.byName) next.byName
      = (Fieldbook.Reading.deeper stack next).map Fieldbook.Reading.byName := by
  unfold deeper Fieldbook.Reading.deeper
  rw [openDepth_byName]
  split <;> rfl

theorem complete_byName (value : α) (stack : List (Fieldbook.OpenPart α)) :
    complete A value (stack.map Fieldbook.OpenPart.byName)
      = (Fieldbook.Reading.complete A.onBuiltins value stack).byName := by
  induction stack generalizing value with
  | nil => rfl
  | cons part stack ih =>
    cases part with
    | minus => exact ih (A.negate value)
    | _ => rfl

theorem map_complete_byName (x : Except FormulaError α) (stack : List (Fieldbook.OpenPart α)) :
    x.map (complete A · (stack.map Fieldbook.OpenPart.byName))
      = (x.map (Fieldbook.Reading.complete A.onBuiltins · stack)).map
        Fieldbook.Reading.byName := by
  cases x with
  | error e => rfl
  | ok value => exact congrArg Except.ok (complete_byName A value stack)

theorem settle_byName (level : Nat) (value : α) (stack : List (Fieldbook.OpenPart α)) :
    settle A level value (stack.map Fieldbook.OpenPart.byName)
      = (Fieldbook.Reading.settle A.onBuiltins level value stack).map fun operand =>
        (operand.1, operand.2.map Fieldbook.OpenPart.byName) := by
  fun_induction Fieldbook.Reading.settle A.onBuiltins level value stack with
  | case1 value left op stack hlevel result hresult ih =>
    change A.binary op left value = .ok result at hresult
    rw [List.map_cons, Fieldbook.OpenPart.byName, settle, if_pos hlevel, hresult]
    exact ih
  | case2 value left op stack hlevel e he =>
    change A.binary op left value = .error e at he
    rw [List.map_cons, Fieldbook.OpenPart.byName, settle, if_pos hlevel, he]
    rfl
  | case3 value left op stack hlevel =>
    rw [List.map_cons, Fieldbook.OpenPart.byName, settle, if_neg hlevel]
    rfl
  | case4 value stack hpending =>
    cases stack with
    | nil => rfl
    | cons part stack =>
      cases part with
      | pending left op => exact absurd rfl (hpending left op stack)
      | _ => rfl

theorem beginOperand_byName (stack : List (Fieldbook.OpenPart α)) (token : Fieldbook.Token) :
    beginOperand A (stack.map Fieldbook.OpenPart.byName) token.byName
      = (Fieldbook.Reading.beginOperand A.onBuiltins stack token).map
        Fieldbook.Reading.byName := by
  cases token with
  | number n => exact congrArg Except.ok (complete_byName A (A.number n) stack)
  | text s => exact congrArg Except.ok (complete_byName A (A.text s) stack)
  | bool b => exact congrArg Except.ok (complete_byName A (A.bool b) stack)
  | field name => exact map_complete_byName A (A.field name) stack
  | function f => exact deeper_byName stack (.named f stack)
  | openParen => exact deeper_byName stack (.start (.group :: stack))
  | operator op =>
    cases op with
    | subtract => exact deeper_byName stack (.start (.minus :: stack))
    | _ => rfl
  | closeParen => rfl
  | comma => rfl

theorem closeWith_byName (value : α) (stack : List (Fieldbook.OpenPart α))
    (token : Fieldbook.Token) :
    closeWith A value (stack.map Fieldbook.OpenPart.byName) token.byName
      = (Fieldbook.Reading.closeWith A.onBuiltins value stack token).map
        Fieldbook.Reading.byName := by
  cases stack with
  | nil =>
    simp only [List.map_nil, closeWith, Fieldbook.Reading.closeWith, Fieldbook.Token.shown_byName]
    rfl
  | cons part stack =>
    cases part with
    | group =>
      simp only [List.map_cons, Fieldbook.OpenPart.byName, closeWith, Fieldbook.Reading.closeWith,
        Fieldbook.Token.byName_eq_closeParen, Fieldbook.Token.shown_byName]
      split
      · exact congrArg Except.ok (complete_byName A value stack)
      · rfl
    | call f arguments =>
      simp only [List.map_cons, Fieldbook.OpenPart.byName, closeWith, Fieldbook.Reading.closeWith,
        Fieldbook.Token.byName_eq_closeParen, Fieldbook.Token.byName_eq_comma,
        Fieldbook.Token.shown_byName]
      split
      · rfl
      · split
        · exact map_complete_byName A _ stack
        · rfl
    | _ =>
      simp only [List.map_cons, Fieldbook.OpenPart.byName, closeWith, Fieldbook.Reading.closeWith,
        Fieldbook.Token.shown_byName]
      rfl

theorem end_byName (value : α) (stack : List (Fieldbook.OpenPart α)) (token : Fieldbook.Token) :
    (settle A 0 value (stack.map Fieldbook.OpenPart.byName) >>= fun operand =>
        closeWith A operand.1 operand.2 token.byName)
      = (Fieldbook.Reading.settle A.onBuiltins 0 value stack >>= fun operand =>
        Fieldbook.Reading.closeWith A.onBuiltins operand.1 operand.2 token).map
          Fieldbook.Reading.byName := by
  rw [settle_byName]
  cases Fieldbook.Reading.settle A.onBuiltins 0 value stack with
  | error e => rfl
  | ok operand => exact closeWith_byName A operand.1 operand.2 token

/-- **A step by name is the step of the library** on tokens of functions. -/
theorem step_byName (r : Fieldbook.Reading α) (token : Fieldbook.Token) :
    step A r.byName token.byName
      = (Fieldbook.Reading.step A.onBuiltins r token).map Fieldbook.Reading.byName := by
  cases r with
  | start stack => exact beginOperand_byName A stack token
  | named f stack =>
    simp only [Fieldbook.Reading.byName, step, Fieldbook.Reading.step,
      Fieldbook.Token.byName_eq_openParen, Fieldbook.Token.shown_byName]
    split <;> rfl
  | opened f stack =>
    simp only [Fieldbook.Reading.byName, step, Fieldbook.Reading.step,
      Fieldbook.Token.byName_eq_closeParen]
    split
    · exact map_complete_byName A _ stack
    · exact beginOperand_byName A (.call f [] :: stack) token
  | operand value stack =>
    cases token with
    | operator op =>
      simp only [Fieldbook.Reading.byName, Fieldbook.Token.byName, step, Fieldbook.Reading.step,
        settle_byName]
      cases Fieldbook.Reading.settle A.onBuiltins op.level value stack <;> rfl
    | _ => exact end_byName A value stack _

theorem foldlM_step_byName (tokens : List Fieldbook.Token) (r : Fieldbook.Reading α) :
    (tokens.map Fieldbook.Token.byName).foldlM (step A) r.byName
      = (tokens.foldlM (Fieldbook.Reading.step A.onBuiltins) r).map Fieldbook.Reading.byName := by
  induction tokens generalizing r with
  | nil => rfl
  | cons token rest ih =>
    rw [List.map_cons, List.foldlM_cons, List.foldlM_cons, step_byName]
    cases Fieldbook.Reading.step A.onBuiltins r token with
    | error e => rfl
    | ok next => exact ih next

theorem finish_byName (r : Fieldbook.Reading α) :
    finish A r.byName = Fieldbook.Reading.finish A.onBuiltins r := by
  cases r with
  | operand value stack =>
    rw [Fieldbook.Reading.byName, finish, Fieldbook.Reading.finish, settle_byName]
    cases Fieldbook.Reading.settle A.onBuiltins 0 value stack with
    | error e => rfl
    | ok operand =>
      obtain ⟨last, below⟩ := operand
      cases below <;> rfl
  | _ => rfl

end Reading

theorem Algebra.readTokens_byName (A : Algebra α) (tokens : List Fieldbook.Token) :
    A.readTokens (tokens.map Fieldbook.Token.byName) = A.onBuiltins.readTokens tokens := by
  have hstart : Reading.start [] = (Fieldbook.Reading.start (α := α) []).byName := rfl
  unfold Algebra.readTokens Fieldbook.Algebra.readTokens
  rw [hstart, Reading.foldlM_step_byName]
  cases tokens.foldlM (Fieldbook.Reading.step A.onBuiltins) (.start []) with
  | error e => rfl
  | ok r => exact Reading.finish_byName A r

/-- **Both readers give the same.** -/
theorem Algebra.read_eq (A : Algebra α) (expression : String) :
    A.read expression = A.onBuiltins.read expression := by
  unfold Algebra.read Fieldbook.Algebra.read
  rw [Token.scan_eq]
  cases Fieldbook.Token.scan expression with
  | error e => rfl
  | ok tokens => exact A.readTokens_byName tokens

end ByName

end Fieldbook
