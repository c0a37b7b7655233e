import Fieldbook.Number.Basic

/-!
# Decimal text of numbers

A `Decimal` is a digit string times a power of ten.  `Decimal.shortest` picks, for a magnitude,
the decimal with the fewest digits that reads back to it; `Number.text` is the text shown for a
number, and `Number.ofChars?` reads one.  The text is always positional: no exponent is ever
written, although one may be read.
-/

namespace Fieldbook

/-- The decimal `digits * 10 ^ exponent`. -/
structure Decimal where
  digits : Nat
  exponent : Int
deriving DecidableEq

namespace Decimal

def magnitude (d : Decimal) : Magnitude := .ofDecimal d.digits d.exponent

/-- **The two neighbours of a value on a decimal grid**, the nearer one first; of two equally
near ones the upper is first.  The grid is the multiples of `10 ^ exponent`. -/
def neighbours (units : Nat) (exponent : Int) : List Decimal :=
  let num := units * tenTo (-exponent).toNat
  let den := unitsPerOne * tenTo exponent.toNat
  let below : Decimal := ⟨num / den, exponent⟩
  let above : Decimal := ⟨num / den + 1, exponent⟩
  if 2 * (num % den) < den then [below, above] else [above, below]

/-- The coarsest grid that is needed: a value below `2 ^ k` is below `10 ^ (0.30103 * k + 1)`, and no
positive multiple of a larger power of ten reads back as it. -/
def coarsest (units : Nat) : Int :=
  ((units.log2 : Int) - 1073) * 30103 / 100000 + 1

/-- The finest grid that is needed, since a unit is a multiple of `10 ^ -1074`. -/
def finest : Int := -1074

/-- The decimal that is exactly the value; the quotient is exact. -/
def exact (units : Nat) : Decimal := ⟨units * tenTo 1074 / unitsPerOne, finest⟩

/-- **The fewest digits that read back.**  Going from the coarsest grid to the finest, the first
neighbour of the value that reads back as the magnitude. -/
def shortest (m : Magnitude) : Decimal :=
  let start := coarsest m.units
  let grids := List.range (start - finest + 1).toNat
  (grids.findSome? fun (step : Nat) =>
    (neighbours m.units (start - step)).find? fun d => d.magnitude = m).getD (exact m.units)

/-- **Positional text**: the digits with zeros on the side that the exponent asks for, and a point
only where digits stand behind it. -/
def positional (d : Decimal) : List Char :=
  let digits := Nat.toDigits 10 d.digits
  if 0 ≤ d.exponent then digits ++ List.replicate d.exponent.toNat '0'
  else
    let places := (-d.exponent).toNat
    if places < digits.length then
      digits.take (digits.length - places) ++ '.' :: digits.drop (digits.length - places)
    else '0' :: '.' :: (List.replicate (places - digits.length) '0' ++ digits)

end Decimal

/-! ### Writing -/

namespace Magnitude

/-- **The text of a finite magnitude.**  A whole number below `10 ^ 21` has all its digits, anything
else the fewest that read back. -/
def text (m : Magnitude) : List Char :=
  if m.isWhole && m.units < tenTo 21 * unitsPerOne then Nat.toDigits 10 m.whole
  else (Decimal.shortest m).positional

end Magnitude

namespace Number

/-- **The text shown for a number.**  Both zeros show as `0`. -/
def chars : Number → List Char
  | nan => "NaN".toList
  | signed negative m =>
    if m.isZero then ['0']
    else
      let body := if m.isFinite then m.text else "Infinity".toList
      if negative then '-' :: body else body

def text (n : Number) : String := String.ofList n.chars

end Number

/-! ### Reading -/

def digitValue (c : Char) : Nat := c.toNat - '0'.toNat

def digitsValue (cs : List Char) : Nat := cs.foldl (fun n c => 10 * n + digitValue c) 0

def splitSign : List Char → Bool × List Char
  | '-' :: rest => (true, rest)
  | '+' :: rest => (false, rest)
  | rest => (false, rest)

/-- The exponent written at the end of a decimal: nothing is zero, otherwise `e` or `E`, perhaps a
sign, and digits to the end. -/
def readExponent? : List Char → Option Int
  | [] => some 0
  | c :: rest =>
    if c = 'e' ∨ c = 'E' then
      let (negative, digits) := splitSign rest
      if digits.isEmpty || !digits.all Char.isDigit then none
      else some (if negative then -(digitsValue digits : Int) else digitsValue digits)
    else none

/-- The digits at the front of a text, those behind a point that follows them, and the rest. -/
def splitDigits (cs : List Char) : List Char × List Char × List Char :=
  let front := cs.takeWhile Char.isDigit
  match cs.dropWhile Char.isDigit with
  | '.' :: rest => (front, rest.takeWhile Char.isDigit, rest.dropWhile Char.isDigit)
  | rest => (front, [], rest)

def Magnitude.ofDigits (front back : List Char) (exponent : Int) : Magnitude :=
  ofDecimal (digitsValue (front ++ back)) (exponent - back.length)

/-- **Reading a decimal without sign**: digits, perhaps a point and digits, at least one digit in
all, perhaps an exponent. -/
def readMagnitude? (cs : List Char) : Option Magnitude :=
  let (front, back, rest) := splitDigits cs
  if front.isEmpty && back.isEmpty then none
  else (readExponent? rest).map (.ofDigits front back)

namespace Number

/-- **Reading a decimal** with an optional sign.  All of the text must be used; the words for
infinity and for not a number are not decimals. -/
def ofChars? (cs : List Char) : Option Number :=
  let (negative, rest) := splitSign cs
  (readMagnitude? rest).map (signed negative)

end Number

end Fieldbook
