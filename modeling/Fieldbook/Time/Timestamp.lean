import Fieldbook.Number.Decimal
import Fieldbook.Text.Blank
import Fieldbook.Time.Instant

/-!
# Timestamps

The text of dates and instants.  Instants are written in the form of RFC 3339, in universal
time, with as many places of seconds as asked for.  Three readers differ in what they let
through: `readStrict?` takes that form alone, `readLenient?` dates and local timestamps with
short numbers, and `readStored?` the form of RFC 3339 with short numbers and blanks between
its parts.
-/

namespace Fieldbook

/-! ### Writing -/

def paddedDigits (width n : Nat) : List Char :=
  let digits := Nat.toDigits 10 n
  List.replicate (width - digits.length) '0' ++ digits

/-- **The text of a year**: four digits, with a sign before the year 0 and after 9999. -/
def yearText (year : Int) : List Char :=
  if 0 ≤ year ∧ year ≤ 9999 then paddedDigits 4 year.natAbs
  else (if year < 0 then '-' else '+') :: paddedDigits 4 year.natAbs

def Date.text (d : Date) : List Char :=
  yearText d.year ++ '-' :: paddedDigits 2 d.month ++ '-' :: paddedDigits 2 d.day

namespace Instant

def fraction (i : Instant) : Nat := i.nanos % nanosPerSecond

/-- The text of the time of day to whole seconds, a leap second as second 60. -/
def clockText (i : Instant) : List Char :=
  let time := i.secondOfDay.toNat
  let second := time % 60 + i.nanos / nanosPerSecond
  paddedDigits 2 (time / 3600) ++ ':' :: paddedDigits 2 (time / 60 % 60)
    ++ ':' :: paddedDigits 2 second

/-- The text of an instant with `fraction` after the whole seconds. -/
def textWith (i : Instant) (fraction : List Char) : List Char :=
  i.date.text ++ 'T' :: i.clockText ++ fraction ++ ['Z']

/-- The text of an instant with three places of seconds, further ones dropped. -/
def millisText (i : Instant) : List Char :=
  i.textWith ('.' :: paddedDigits 3 (i.fraction / nanosPerMilli))

/-- The text of an instant with the fewest of no, three, six or nine places that are exact. -/
def exactText (i : Instant) : List Char :=
  i.textWith <|
    if i.fraction = 0 then []
    else if i.fraction % nanosPerMilli = 0 then '.' :: paddedDigits 3 (i.fraction / nanosPerMilli)
    else if i.fraction % 1000 = 0 then '.' :: paddedDigits 6 (i.fraction / 1000)
    else '.' :: paddedDigits 9 i.fraction

end Instant

/-! ### Reading numbers and marks

Each reader takes a text and gives what it read and the rest. -/

def readMark? (mark : Char) : List Char → Option (List Char)
  | c :: rest => if c = mark then some rest else none
  | [] => none

def readDigits? (most : Nat) (cs : List Char) : Option (Nat × List Char) :=
  let digits := (cs.take most).takeWhile Char.isDigit
  if digits.isEmpty then none else some (digitsValue digits, cs.drop digits.length)

def readExactly? (count : Nat) (cs : List Char) : Option (Nat × List Char) :=
  let digits := cs.take count
  if digits.length = count && digits.all Char.isDigit then
    some (digitsValue digits, cs.drop count)
  else none

/-- A number of one or two digits, perhaps after blanks. -/
def readShort? (cs : List Char) : Option (Nat × List Char) := readDigits? 2 (Text.trimFront cs)

/-- A year, perhaps after blanks: one to four digits, or a sign and any number of digits. -/
def readYear? (cs : List Char) : Option (Int × List Char) :=
  match Text.trimFront cs with
  | '-' :: rest => (readDigits? rest.length rest).map fun (n, rest) => (-(n : Int), rest)
  | '+' :: rest => (readDigits? rest.length rest).map fun (n, rest) => ((n : Int), rest)
  | rest => (readDigits? 4 rest).map fun (n, rest) => ((n : Int), rest)

/-- The nanoseconds of a run of digits after the point; places past the ninth are ignored. -/
def nanosOfPlaces (digits : List Char) : Nat :=
  let places := digits.take 9
  digitsValue places * tenTo (9 - places.length)

def readFraction? : List Char → Option (Nat × List Char)
  | '.' :: rest =>
    let digits := rest.takeWhile Char.isDigit
    if digits.isEmpty then none else some (nanosOfPlaces digits, rest.dropWhile Char.isDigit)
  | rest => some (0, rest)

/-- What stands between the date and the time of day: `T` in either case or a space. -/
def readJoint? : List Char → Option (List Char)
  | c :: rest => if c = 'T' ∨ c = 't' ∨ c = ' ' then some rest else none
  | [] => none

/-- Hours and minutes of an offset, in minutes; `separator` reads what stands between them. -/
def readOffsetClock? (separator : List Char → Option (List Char)) (cs : List Char) :
    Option (Nat × List Char) := do
  let (hours, cs) ← readExactly? 2 cs
  let cs ← separator cs
  let (minutes, cs) ← readExactly? 2 cs
  if hours ≤ 23 && minutes ≤ 59 then some (hours * 60 + minutes, cs) else none

/-- **An offset from universal time**, in minutes: `Z` in either case, or a sign, hours and minutes.
A minus sign may also be U+2212. -/
def readOffset? (separator : List Char → Option (List Char)) : List Char → Option (Int × List Char)
  | c :: rest =>
    if c = 'Z' ∨ c = 'z' then some (0, rest)
    else if c = '+' then
      (readOffsetClock? separator rest).map fun (n, rest) => ((n : Int), rest)
    else if c = '-' ∨ c = '\u2212' then
      (readOffsetClock? separator rest).map fun (n, rest) => (-(n : Int), rest)
    else none
  | [] => none

/-! ### Reading dates and times of day -/

structure ClockFields where
  hour : Nat
  minute : Nat
  second : Nat
  nanos : Nat

def ClockFields.on? (clock : ClockFields) (d : Date) (offset : Int) : Option Instant :=
  Instant.ofClock? d clock.hour clock.minute clock.second clock.nanos offset

/-- A mark, with blanks before it if `gaps` allows them. -/
def readSpacedMark? (gaps : Bool) (mark : Char) (cs : List Char) : Option (List Char) :=
  readMark? mark (if gaps then Text.trimFront cs else cs)

def readDate? (gaps : Bool) (cs : List Char) : Option (Date × List Char) := do
  let (year, cs) ← readYear? cs
  let cs ← readSpacedMark? gaps '-' cs
  let (month, cs) ← readShort? cs
  let cs ← readSpacedMark? gaps '-' cs
  let (day, cs) ← readShort? cs
  some (⟨year, month, day⟩, cs)

def readClock? (gaps : Bool) (cs : List Char) : Option (ClockFields × List Char) := do
  let (hour, cs) ← readShort? cs
  let cs ← readSpacedMark? gaps ':' cs
  let (minute, cs) ← readShort? cs
  let cs ← readSpacedMark? gaps ':' cs
  let (second, cs) ← readShort? cs
  let (nanos, cs) ← readFraction? cs
  some (⟨hour, minute, second, nanos⟩, cs)

namespace Instant

/-- **The form of RFC 3339**: four-digit year, two digits for every other number, and an offset. -/
def readStrict? (cs : List Char) : Option Instant := do
  let (year, cs) ← readExactly? 4 cs
  let cs ← readMark? '-' cs
  let (month, cs) ← readExactly? 2 cs
  let cs ← readMark? '-' cs
  let (day, cs) ← readExactly? 2 cs
  let cs ← readJoint? cs
  let (hour, cs) ← readExactly? 2 cs
  let cs ← readMark? ':' cs
  let (minute, cs) ← readExactly? 2 cs
  let cs ← readMark? ':' cs
  let (second, cs) ← readExactly? 2 cs
  let (nanos, cs) ← readFraction? cs
  let (offset, cs) ← readOffset? (readMark? ':') cs
  if cs.isEmpty then ofClock? ⟨year, month, day⟩ hour minute second nanos offset else none

def readDay? (cs : List Char) : Option Instant := do
  let (date, cs) ← readDate? false cs
  if cs.isEmpty then ofDate? date else none

/-- A date and a time of day in universal time, with `joint` reading what stands between. -/
def readLocal? (joint : List Char → Option (List Char)) (cs : List Char) : Option Instant := do
  let (date, cs) ← readDate? false cs
  let cs ← joint cs
  let (clock, cs) ← readClock? false cs
  if cs.isEmpty then clock.on? date 0 else none

/-- **Lenient reading** of a trimmed text: the form of RFC 3339, a date, a date and a time of day
joined by `T`, or the two joined by blanks or nothing. -/
def readLenient? (cs : List Char) : Option Instant :=
  readStrict? cs <|> readDay? cs <|> readLocal? (readMark? 'T') cs
    <|> readLocal? (fun rest => some (Text.trimFront rest)) cs

def readUniversal? (cs : List Char) : Option (Int × List Char) :=
  if (cs.take 3).map Char.toUpper = ['U', 'T', 'C'] then some (0, cs.drop 3) else none

/-- **Reading a stored instant**: the form of RFC 3339 with short numbers, a year of any length
behind a sign, blanks around the marks, and `UTC` for the offset. -/
def readStored? (cs : List Char) : Option Instant := do
  let (date, cs) ← readDate? true cs
  let cs ← readJoint? cs
  let (clock, cs) ← readClock? true cs
  let cs := Text.trimFront cs
  let between (rest : List Char) := some (rest.dropWhile fun c => c = ':' || Text.isBlank c)
  let (offset, cs) ← readUniversal? cs <|> readOffset? between cs
  if Text.isBlankText cs then clock.on? date offset else none

end Instant

end Fieldbook
