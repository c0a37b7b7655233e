import Fieldbook.Number.Magnitude

/-!
# Numbers

A `Number` is a binary64 value: not a number, or a sign and a `Magnitude`.  Zero has both
signs.  Sums, products, quotients and remainders are those of IEEE 754: computed exactly in
units and rounded once, a tie going to the even neighbour.

There are two orders.  `less` and `equal` compare values: the two zeros are equal and not a
number is neither below, above nor equal to anything.  `totalPlace` places all numbers on one
line, negative zero just before zero and not a number last; sorting uses it.
-/

namespace Fieldbook

inductive Number where
  | nan
  | signed (negative : Bool) (magnitude : Magnitude)
deriving DecidableEq

namespace Number

def zero : Number := signed false .zero

def negativeZero : Number := signed true .zero

def infinity : Number := signed false .infinite

def ofNat (n : Nat) : Number := signed false (.ofNat n)

instance (n : Nat) : OfNat Number n := ⟨ofNat n⟩

instance : Inhabited Number := ⟨zero⟩

def isFinite : Number → Bool
  | nan => false
  | signed _ m => m.isFinite

def isZero : Number → Bool
  | nan => false
  | signed _ m => m.isZero

def isNaN : Number → Bool
  | nan => true
  | signed _ _ => false

def isWhole : Number → Bool
  | nan => false
  | signed _ m => m.isFinite && m.isWhole

/-! ### Arithmetic -/

def neg : Number → Number
  | nan => nan
  | signed s m => signed (!s) m

instance : Neg Number := ⟨neg⟩

def abs : Number → Number
  | nan => nan
  | signed _ m => signed false m

def signedUnits (negative : Bool) (m : Magnitude) : Int :=
  if negative then -(m.units : Int) else m.units

/-- **Sum.**  Infinities of opposite sign have none; an exact zero is negative only when both
summands are. -/
def add : Number → Number → Number
  | nan, _ | _, nan => nan
  | signed s m, signed t n =>
    if !m.isFinite then
      if !n.isFinite && s != t then nan else signed s m
    else if !n.isFinite then signed t n
    else
      let sum := signedUnits s m + signedUnits t n
      if sum = 0 then signed (s && t) .zero
      else signed (sum < 0) (.nearest sum.natAbs 1)

instance : Add Number := ⟨add⟩

def sub (x y : Number) : Number := x + -y

instance : Sub Number := ⟨sub⟩

/-- **Product.**  Zero times infinity has none. -/
def mul : Number → Number → Number
  | nan, _ | _, nan => nan
  | signed s m, signed t n =>
    let negative := s != t
    if m.isFinite && n.isFinite then
      signed negative (.nearest (m.units * n.units) unitsPerOne)
    else if m.isZero || n.isZero then nan
    else signed negative .infinite

instance : Mul Number := ⟨mul⟩

/-- **Quotient.**  Zero by zero and infinity by infinity have none; anything else by zero is
infinite. -/
def div : Number → Number → Number
  | nan, _ | _, nan => nan
  | signed s m, signed t n =>
    let negative := s != t
    if !m.isFinite then
      if n.isFinite then signed negative .infinite else nan
    else if !n.isFinite then signed negative .zero
    else if n.isZero then
      if m.isZero then nan else signed negative .infinite
    else signed negative (.nearest (m.units * unitsPerOne) n.units)

instance : Div Number := ⟨div⟩

/-- **Remainder**, with the sign of the dividend.  An infinite dividend or a zero divisor has
none; an infinite divisor leaves the dividend. -/
def rem : Number → Number → Number
  | nan, _ | _, nan => nan
  | signed s m, signed _ n =>
    if !m.isFinite || n.isZero then nan
    else if !n.isFinite then signed s m
    else signed s (.nearest (m.units % n.units) 1)

/-- **The sum of numbers**, from left to right.  It starts at negative zero, which is the sum of no
numbers. -/
def sum (numbers : List Number) : Number := numbers.foldl (· + ·) negativeZero

/-! ### Rounding to whole numbers

Each keeps the sign, also of a zero, and leaves infinities and not a number alone. -/

/-- A finite number replaced by a whole number of the same sign. -/
def mapWhole (f : Bool → Magnitude → Nat) : Number → Number
  | nan => nan
  | signed s m => if m.isFinite then signed s (.ofNat (f s m)) else signed s m

def wholeUp (m : Magnitude) : Nat := m.whole + if m.isWhole then 0 else 1

def floor : Number → Number :=
  mapWhole fun negative m => if negative then wholeUp m else m.whole

def ceil : Number → Number :=
  mapWhole fun negative m => if negative then m.whole else wholeUp m

def roundHalfAway : Number → Number :=
  mapWhole fun _ m => (2 * m.units + unitsPerOne) / (2 * unitsPerOne)

/-- **Truncation to a bounded integer.**  The whole part toward zero, held between `low` and
`high`; not a number gives zero. -/
def truncateWithin (low high : Int) : Number → Int
  | nan => 0
  | signed s m =>
    if m.isFinite then max low (min high (if s then -(m.whole : Int) else m.whole))
    else if s then low else high

/-! ### Order -/

/-- The rank of a value: the place of its magnitude, negated for a negative number, so that
both zeros rank zero.  Not a number has none. -/
def rank : Number → Option Int
  | nan => none
  | signed s m => some (if s then -(m.place : Int) else m.place)

def less (x y : Number) : Bool :=
  match x.rank, y.rank with
  | some a, some b => a < b
  | _, _ => false

/-- **Equal values**: the two zeros are equal, not a number equals nothing. -/
def equal (x y : Number) : Bool :=
  match x.rank, y.rank with
  | some a, some b => a == b
  | _, _ => false

def lessEq (x y : Number) : Bool :=
  match x.rank, y.rank with
  | some a, some b => a ≤ b
  | _, _ => false

/-- **One line for all numbers.**  Negative zero stands just before zero, and not a number after
infinity. -/
def totalPlace : Number → Int
  | nan => infinitePlace + 1
  | signed true m => -(m.place : Int) - 1
  | signed false m => m.place

def totalCompare (x y : Number) : Ordering := compare x.totalPlace y.totalPlace

/-! ### Powers of ten -/

/-- **Power by squaring.**  `result * base ^ exponent`, every product rounded. -/
def powerLoop (result base : Number) (exponent : Nat) : Number :=
  let result := if exponent % 2 = 1 then result * base else result
  if exponent / 2 = 0 then result
  else powerLoop result (base * base) (exponent / 2)
termination_by exponent
decreasing_by omega

/-- `10 ^ n` by squaring; a negative power is one over the positive one. -/
def powerOfTen (n : Int) : Number :=
  let power := powerLoop 1 10 n.natAbs
  if n < 0 then 1 / power else power

end Number

end Fieldbook
