import Fieldbook.Formula.Error
import Fieldbook.Text.Blank
import Fieldbook.Text.Letter

/-!
# Scanning

`Token.scan` cuts the text of a formula into tokens and skips the blanks between them.  Each
token is the longest that begins where it does; a text in quotes and a field in braces run to
the first closing mark, and nothing is escaped.  `Token.scanOne` reads one token, and
`length_scanOne` says that it uses up at least the character it begins with.
-/

namespace Fieldbook

def Text.byteLength (cs : List Char) : Nat := cs.foldr (fun c n => c.utf8Size + n) 0

namespace Token

def isWordChar (c : Char) : Bool := Text.isAlphanumeric c || c = '_'

def isWordStart (c : Char) : Bool := Text.isAlphabetic c || c = '_'

def isNumberStart (c : Char) (rest : List Char) : Bool :=
  c.isDigit || (c = '.' && (rest.head?.any Char.isDigit))

/-- **A number**: digits, perhaps a point, perhaps more digits. -/
def scanNumber (cs : List Char) : Token × List Char :=
  let (front, back, rest) := splitDigits cs
  (number (.signed false (.ofDigits front back 0)), rest)

/-- The text up to a closing mark and what follows the mark, or the error where there is none. -/
def scanUntil (mark : Char) (missing : FormulaError) (cs : List Char) :
    Except FormulaError (String × List Char) :=
  match cs.dropWhile (· != mark) with
  | _ :: rest => .ok (String.ofList (cs.takeWhile (· != mark)), rest)
  | [] => .error missing

/-- **The token of a word**: a truth value or a function in any case, otherwise the word itself as a
text. -/
def ofWord (word : List Char) : Token :=
  let upper := Text.upper word
  if upper = "TRUE".toList then bool true
  else if upper = "FALSE".toList then bool false
  else match Builtin.withName? upper with
    | some f => function f
    | none => text (String.ofList word)

def ofMark? (c : Char) : Option Token :=
  if c = '(' then some openParen
  else if c = ')' then some closeParen
  else if c = ',' then some comma
  else none

/-- **One token**, beginning with `c`, and what follows it.  The formula has `size` bytes in all, so
`c` stands as many bytes before its end as it and what follows it take. -/
def scanOne (size : Nat) (c : Char) (rest : List Char) :
    Except FormulaError (Token × List Char) :=
  if isNumberStart c rest then .ok (scanNumber (c :: rest))
  else if c = '"' ∨ c = '\'' then
    (scanUntil c .unterminatedString rest).map fun (s, rest) => (text s, rest)
  else if c = '{' then
    (scanUntil '}' .unterminatedFieldRef rest).map fun (s, rest) => (field s, rest)
  else if isWordStart c then
    .ok (ofWord (c :: rest.takeWhile isWordChar), rest.dropWhile isWordChar)
  else match Operator.split? (c :: rest) with
    | some (op, rest) => .ok (operator op, rest)
    | none =>
      match ofMark? c with
      | some mark => .ok (mark, rest)
      | none => .error (.unexpectedCharacter c (size - Text.byteLength (c :: rest)))

/-! ### A token takes at least one character -/

theorem length_dropWhile_le (p : Char → Bool) (cs : List Char) :
    (cs.dropWhile p).length ≤ cs.length :=
  (List.dropWhile_sublist p).length_le

theorem length_scanUntil {mark : Char} {missing : FormulaError} {cs : List Char}
    {s : String} {after : List Char} (h : scanUntil mark missing cs = .ok (s, after)) :
    after.length < cs.length := by
  unfold scanUntil at h
  split at h
  · rename_i m rest heq
    cases h
    have := length_dropWhile_le (· != mark) cs
    rw [heq] at this
    exact this
  · cases h

theorem length_scanNumber {c : Char} {rest : List Char} (h : isNumberStart c rest) :
    (scanNumber (c :: rest)).2.length ≤ rest.length := by
  unfold scanNumber splitDigits
  by_cases hc : c.isDigit
  · simp only [List.dropWhile_cons, hc, if_true]
    have hle := length_dropWhile_le Char.isDigit rest
    split
    · rename_i r heq
      rw [heq] at hle
      exact Nat.le_trans (length_dropWhile_le _ r) (Nat.le_of_succ_le hle)
    · exact hle
  · have hdot : c = '.' := by
      simp only [isNumberStart, hc, Bool.false_or, Bool.and_eq_true, decide_eq_true_eq] at h
      exact h.1
    subst hdot
    exact length_dropWhile_le _ rest

theorem length_split? {cs : List Char} {op : Operator} {rest : List Char}
    (h : Operator.split? cs = some (op, rest)) : rest.length < cs.length := by
  unfold Operator.split? at h
  split at h
  all_goals cases h
  all_goals
    simp only [List.length_cons]
    omega

/-- **Progress.**  What follows a token is no longer than what followed its first character. -/
theorem length_scanOne {size : Nat} {c : Char} {rest : List Char} {token : Token}
    {after : List Char} (h : scanOne size c rest = .ok (token, after)) :
    after.length ≤ rest.length := by
  unfold scanOne at h
  split at h
  · rename_i hn
    have := length_scanNumber hn
    cases h
    exact this
  · split at h
    · cases hs : scanUntil c .unterminatedString rest with
      | error e => rw [hs] at h; cases h
      | ok r => rw [hs] at h; cases h; exact Nat.le_of_lt (length_scanUntil hs)
    · split at h
      · cases hs : scanUntil '}' .unterminatedFieldRef rest with
        | error e => rw [hs] at h; cases h
        | ok r => rw [hs] at h; cases h; exact Nat.le_of_lt (length_scanUntil hs)
      · split at h
        · cases h; exact length_dropWhile_le _ rest
        · split at h
          · rename_i hop
            cases h
            exact Nat.lt_succ_iff.1 (length_split? hop)
          · split at h
            · cases h; exact Nat.le_refl _
            · cases h

/-- **The tokens of the end of a formula** that has `size` bytes in all. -/
def scanFrom (size : Nat) : List Char → Except FormulaError (List Token)
  | [] => .ok []
  | c :: rest =>
    if Text.isBlank c then scanFrom size rest
    else match _h : scanOne size c rest with
      | .error e => .error e
      | .ok (token, after) => (scanFrom size after).map (token :: ·)
termination_by cs => cs.length
decreasing_by
  · exact Nat.lt_succ_self _
  · exact Nat.lt_succ_of_le (length_scanOne _h)

/-- **The tokens of a formula.** -/
def scan (expression : String) : Except FormulaError (List Token) :=
  let cs := expression.toList
  scanFrom (Text.byteLength cs) cs

end Token

end Fieldbook
