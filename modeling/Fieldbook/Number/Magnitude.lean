/-!
# Magnitudes of binary64 numbers

The absolute values that a binary64 number can have form one increasing list: zero, the
subnormal numbers, the normal numbers binade by binade, and infinity at the end.  A
`Magnitude` is a **place** in that list.  The place is also the bit pattern of the number
without its sign, so comparing two absolute values is comparing two natural numbers.

Every finite value is a whole number of **units**, one unit being `2 ^ -1074`, the smallest
positive value.  `Magnitude.units` is that whole number and `Magnitude.nearest` goes back
from an exact ratio of units to the nearest place.  All arithmetic on numbers is done on
units, exactly, and rounded once at the end.
-/

namespace Fieldbook

def twoTo (n : Nat) : Nat := Nat.pow 2 n

def tenTo (n : Nat) : Nat := Nat.pow 10 n

def unitsPerOne : Nat := twoTo 1074

def binade : Nat := twoTo 52

/-- The place of infinity: there are 2047 binades of finite magnitudes. -/
def infinitePlace : Nat := 2047 * binade

/-- A place in the increasing list of absolute values; the last place is infinity. -/
structure Magnitude where
  /-- How many magnitudes are smaller. -/
  place : Nat
  place_le : place ≤ infinitePlace
deriving DecidableEq

/-- **Half to even.**  The whole number nearest to `num / den`; a tie goes to the even one. -/
def roundHalfEven (num den : Nat) : Nat :=
  let low := num / den
  let twice := 2 * (num % den)
  if twice < den ∨ (twice = den ∧ low % 2 = 0) then low else low + 1

namespace Magnitude

/-- The magnitude at a place; places past the last one stand for infinity. -/
def ofPlace (place : Nat) : Magnitude :=
  ⟨min place infinitePlace, Nat.min_le_right _ _⟩

def zero : Magnitude := ofPlace 0

def infinite : Magnitude := ofPlace infinitePlace

instance : Inhabited Magnitude := ⟨zero⟩

def isFinite (m : Magnitude) : Bool := m.place < infinitePlace

def isZero (m : Magnitude) : Bool := m.place == 0

/-- **The exact value of a finite magnitude, in units.**  The list is cut into binades of `2 ^ 52`
places.  The first binade counts single units; binade `e ≥ 1` starts at `2 ^ 52 * 2 ^ (e - 1)`
units and advances by `2 ^ (e - 1)` units. -/
def units (m : Magnitude) : Nat :=
  let number := m.place / binade
  let step := m.place % binade
  if number = 0 then step else (binade + step) * twoTo (number - 1)

/-- **Rounding to nearest.**  The magnitude nearest to `num / den` units, a tie going to the
even place.  In the binade of the ratio the magnitudes are `2 ^ shift` units apart, so the
ratio is rounded to a whole number of such steps; a value past the largest finite one is
infinite. -/
def nearest (num den : Nat) : Magnitude :=
  let shift := (num / den).log2 - 52
  ofPlace (shift * binade + roundHalfEven num (den * twoTo shift))

def ofNat (n : Nat) : Magnitude := nearest (n * unitsPerOne) 1

/-- The magnitude of `digits * 10 ^ exponent`, rounded to nearest.  A positive value of `10 ^ 310`
or more is infinite and one below `10 ^ -330` is zero whatever its digits, so neither needs
its power of ten. -/
def ofDecimal (digits : Nat) (exponent : Int) : Magnitude :=
  if digits = 0 then zero
  else if 310 ≤ exponent then infinite
  else if exponent + (digits.log2 + 1) < -330 then zero
  else if 0 ≤ exponent then nearest (digits * tenTo exponent.toNat * unitsPerOne) 1
  else nearest (digits * unitsPerOne) (tenTo (-exponent).toNat)

def whole (m : Magnitude) : Nat := m.units / unitsPerOne

def isWhole (m : Magnitude) : Bool := m.units % unitsPerOne == 0

end Magnitude

end Fieldbook
