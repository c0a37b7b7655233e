import Fieldbook.Proofs.Number.Written
import Fieldbook.Proofs.Text.Runs
import Fieldbook.Proofs.Time.Calendar
import Fieldbook.Time.Timestamp

/-!
# Instants read back from their text

The text of an instant in the years 0 to 9999 has a number of fixed width between any two marks.
Each reader takes one part from the front of a text, whatever follows, so the text is read as it was
written, part by part: the date (`readDate?_text`), the time of day and the fraction, where second 60
tells a leap second (`Instant.readClock?_text`).  A date and a time of day make the instant again
(`Instant.on?_clockFields`) if a clock shows it: a leap second may stand after any second, and one that
does not end a minute has the text of the second after it (`Instant.exactText_asShown`).  Hence an instant
is read back as it is shown (`Instant.readStored?_exactText`).
-/

namespace Fieldbook

/-! ### Numbers of fixed width -/

theorem length_paddedDigits {width n : Nat} (hwidth : 0 < width) (h : n < tenTo width) :
    (paddedDigits width n).length = width := by
  have hle : (Nat.toDigits 10 n).length ≤ width :=
    (Nat.length_toDigits_le_iff (by decide) hwidth).2 h
  unfold paddedDigits
  rw [List.length_append, List.length_replicate]
  omega

theorem isDigit_of_mem_paddedDigits {width n : Nat} {c : Char} (h : c ∈ paddedDigits width n) :
    c.isDigit = true :=
  isDigit_of_mem_zeros_append h

theorem digitsValue_paddedDigits (width n : Nat) : digitsValue (paddedDigits width n) = n := by
  unfold paddedDigits
  rw [digitsValue_zeros_append, digitsValue_toDigits]

theorem paddedDigits_ne_nil (width n : Nat) : paddedDigits width n ≠ [] :=
  List.append_ne_nil_of_right_ne_nil _ Nat.toDigits_ne_nil

theorem exists_paddedDigits (width n : Nat) :
    ∃ c cs, paddedDigits width n = c :: cs ∧ c.isDigit = true := by
  obtain ⟨c, cs, hcs⟩ := List.exists_cons_of_ne_nil (paddedDigits_ne_nil width n)
  exact ⟨c, cs, hcs, isDigit_of_mem_paddedDigits (hcs ▸ List.mem_cons_self)⟩

theorem takeWhile_paddedDigits (width n : Nat) :
    (paddedDigits width n).takeWhile Char.isDigit = paddedDigits width n := by
  have hdigits : ∀ c ∈ paddedDigits width n, c.isDigit = true := fun _ => isDigit_of_mem_paddedDigits
  have hend : ∀ c ∈ ([] : List Char).head?, c.isDigit = false := nofun
  have hrun := takeWhile_run hdigits hend
  rwa [List.append_nil] at hrun

theorem readDigits?_paddedDigits {width n : Nat} (hwidth : 0 < width) (h : n < tenTo width)
    (rest : List Char) :
    readDigits? width (paddedDigits width n ++ rest) = some (n, rest) := by
  have hlength := length_paddedDigits hwidth h
  have hne : (paddedDigits width n).isEmpty = false :=
    List.isEmpty_eq_false_iff.2 (paddedDigits_ne_nil width n)
  unfold readDigits?
  simp only [List.take_left' hlength, takeWhile_paddedDigits, hne, digitsValue_paddedDigits,
    List.drop_left' rfl]
  rfl

theorem trimFront_paddedDigits (width n : Nat) (rest : List Char) :
    Text.trimFront (paddedDigits width n ++ rest) = paddedDigits width n ++ rest := by
  obtain ⟨c, cs, hcs, hdigit⟩ := exists_paddedDigits width n
  rw [hcs]
  exact List.dropWhile_cons_of_neg (by simp [Text.isBlank_of_isDigit hdigit])

theorem readShort?_paddedDigits {n : Nat} (h : n < 100) (rest : List Char) :
    readShort? (paddedDigits 2 n ++ rest) = some (n, rest) := by
  unfold readShort?
  rw [trimFront_paddedDigits]
  exact readDigits?_paddedDigits (by decide) h rest

theorem readYear?_paddedDigits {n : Nat} (h : n < 10000) (rest : List Char) :
    readYear? (paddedDigits 4 n ++ rest) = some ((n : Int), rest) := by
  have hread : readDigits? 4 (paddedDigits 4 n ++ rest) = some (n, rest) :=
    readDigits?_paddedDigits (by decide) h rest
  unfold readYear?
  rw [trimFront_paddedDigits]
  obtain ⟨c, cs, hcs, hdigit⟩ := exists_paddedDigits 4 n
  rw [hcs, List.cons_append] at hread ⊢
  split
  · rename_i heq
    cases heq
    cases hdigit
  · rename_i heq
    cases heq
    cases hdigit
  · rw [hread]
    rfl

/-! ### Dates and times of day -/

theorem readSpacedMark?_cons (gaps : Bool) (mark : Char) (hmark : Text.isBlank mark = false)
    (rest : List Char) : readSpacedMark? gaps mark (mark :: rest) = some rest := by
  have htrim : Text.trimFront (mark :: rest) = mark :: rest :=
    List.dropWhile_cons_of_neg (by simp [hmark])
  unfold readSpacedMark?
  rw [htrim, ite_self]
  exact if_pos rfl

theorem readDate?_text (gaps : Bool) {d : Date} (hyear : 0 ≤ d.year ∧ d.year ≤ 9999)
    (hmonth : d.month < 100) (hday : d.day < 100) (rest : List Char) :
    readDate? gaps (d.text ++ rest) = some (d, rest) := by
  have hlt : d.year.natAbs < 10000 := by omega
  have hback : (d.year.natAbs : Int) = d.year := by omega
  unfold readDate? Date.text yearText
  rw [if_pos hyear]
  simp only [List.append_assoc, List.cons_append, readYear?_paddedDigits hlt,
    readSpacedMark?_cons gaps '-' rfl, readShort?_paddedDigits hmonth,
    readShort?_paddedDigits hday, Option.bind_eq_bind, Option.bind_some, hback]

theorem Date.lt_of_isValid {d : Date} (h : d.isValid = true) : d.month < 100 ∧ d.day < 100 := by
  obtain ⟨⟨-, hmonth⟩, -, hday⟩ := isValid_iff.1 h
  unfold daysInMonth at hday
  refine ⟨by omega, ?_⟩
  split at hday
  · split at hday <;> omega
  · split at hday <;> omega

namespace Instant

/-! ### What a clock shows -/

/-- A leap second, if the instant is in one, ends a minute. -/
def OnClock (i : Instant) : Prop := i.nanos < nanosPerSecond ∨ i.seconds % 60 = 59

instance (i : Instant) : Decidable i.OnClock := inferInstanceAs (Decidable (_ ∨ _))

/-- **The instant that a text shows**: a leap second that does not end a minute is the next second. -/
def asShown (i : Instant) : Instant :=
  if i.OnClock then i
  else ⟨i.seconds + 1, i.nanos - nanosPerSecond, Nat.lt_of_le_of_lt (Nat.sub_le _ _) i.nanos_lt⟩

theorem not_onClock_iff {i : Instant} :
    ¬ i.OnClock ↔ nanosPerSecond ≤ i.nanos ∧ i.seconds % 60 ≠ 59 := by
  rw [OnClock, not_or, Nat.not_lt]

theorem asShown_of_onClock {i : Instant} (h : i.OnClock) : i.asShown = i := if_pos h

theorem asShown_of_not_onClock {i : Instant} (h : ¬ i.OnClock) :
    i.asShown.seconds = i.seconds + 1 ∧ i.asShown.nanos = i.nanos - nanosPerSecond := by
  rw [asShown, if_neg h]
  exact ⟨rfl, rfl⟩

theorem onClock_asShown (i : Instant) : i.asShown.OnClock := by
  by_cases h : i.OnClock
  · rwa [asShown_of_onClock h]
  · obtain ⟨-, hnanos⟩ := asShown_of_not_onClock h
    have hlt := i.nanos_lt
    refine .inl ?_
    rw [hnanos]
    omega

theorem asShown_eq_self_iff {i : Instant} : i.asShown = i ↔ i.OnClock := by
  refine ⟨fun h => ?_, asShown_of_onClock⟩
  rw [← h]
  exact i.onClock_asShown

theorem dayNumber_asShown (i : Instant) : i.asShown.dayNumber = i.dayNumber := by
  by_cases h : i.OnClock
  · rw [asShown_of_onClock h]
  · obtain ⟨hseconds, -⟩ := asShown_of_not_onClock h
    obtain ⟨-, hminute⟩ := not_onClock_iff.1 h
    rw [dayNumber, dayNumber, hseconds, secondsPerDay]
    omega

theorem date_asShown (i : Instant) : i.asShown.date = i.date := by
  rw [date, date, dayNumber_asShown]

theorem fraction_asShown (i : Instant) : i.asShown.fraction = i.fraction := by
  by_cases h : i.OnClock
  · rw [asShown_of_onClock h]
  · obtain ⟨-, hnanos⟩ := asShown_of_not_onClock h
    obtain ⟨hleap, -⟩ := not_onClock_iff.1 h
    rw [fraction, fraction, hnanos, ← Nat.mod_eq_sub_mod hleap]

def clockFields (i : Instant) : ClockFields :=
  let time := i.secondOfDay.toNat
  ⟨time / 3600, time / 60 % 60, time % 60 + i.nanos / nanosPerSecond, i.fraction⟩

def fractionText (i : Instant) : List Char :=
  if i.fraction = 0 then []
  else if i.fraction % nanosPerMilli = 0 then '.' :: paddedDigits 3 (i.fraction / nanosPerMilli)
  else if i.fraction % 1000 = 0 then '.' :: paddedDigits 6 (i.fraction / 1000)
  else '.' :: paddedDigits 9 i.fraction

theorem exactText_eq (i : Instant) :
    i.exactText = i.date.text ++ 'T' :: (i.clockText ++ (i.fractionText ++ ['Z'])) := by
  unfold exactText textWith fractionText
  simp only [List.append_assoc, List.cons_append]

end Instant

theorem readFraction?_point {width n : Nat} (hwidth : 0 < width) (hnine : width ≤ 9)
    (h : n < tenTo width) :
    readFraction? ('.' :: paddedDigits width n ++ ['Z']) = some (n * tenTo (9 - width), ['Z']) := by
  have hdigits : ∀ c ∈ paddedDigits width n, c.isDigit = true := fun _ => isDigit_of_mem_paddedDigits
  have hend : ∀ c ∈ ['Z'].head?, c.isDigit = false := by
    intro c hc
    cases hc
    rfl
  have hne : (paddedDigits width n).isEmpty = false :=
    List.isEmpty_eq_false_iff.2 (paddedDigits_ne_nil width n)
  have hlength := length_paddedDigits hwidth h
  have htake : (paddedDigits width n).take 9 = paddedDigits width n :=
    List.take_of_length_le (by omega)
  show readFraction? ('.' :: (paddedDigits width n ++ ['Z'])) = _
  unfold readFraction?
  simp only [takeWhile_run hdigits hend, dropWhile_run hdigits hend, hne, nanosOfPlaces, htake,
    digitsValue_paddedDigits, hlength]
  rfl

namespace Instant

theorem readFraction?_fractionText (i : Instant) :
    readFraction? (i.fractionText ++ ['Z']) = some (i.fraction, ['Z']) := by
  have hlt : i.fraction < 1000000000 := Nat.mod_lt _ (by decide)
  unfold fractionText
  split
  · rename_i hzero
    rw [hzero]
    rfl
  · split
    · rename_i hmilli
      have hback : i.fraction / nanosPerMilli * tenTo (9 - 3) = i.fraction :=
        Nat.div_mul_cancel (Nat.dvd_of_mod_eq_zero hmilli)
      have hthree : i.fraction / nanosPerMilli < tenTo 3 := by
        show i.fraction / 1000000 < 1000
        omega
      rw [readFraction?_point (by decide) (by decide) hthree, hback]
    · split
      · rename_i hmicro
        have hback : i.fraction / 1000 * tenTo (9 - 6) = i.fraction :=
          Nat.div_mul_cancel (Nat.dvd_of_mod_eq_zero hmicro)
        have hsix : i.fraction / 1000 < tenTo 6 := by
          show i.fraction / 1000 < 1000000
          omega
        rw [readFraction?_point (by decide) (by decide) hsix, hback]
      · have hback : i.fraction * tenTo (9 - 9) = i.fraction := Nat.mul_one _
        rw [readFraction?_point (by decide) (by decide) hlt, hback]

theorem secondOfDay_bounds (i : Instant) : 0 ≤ i.secondOfDay ∧ i.secondOfDay < 86400 := by
  unfold secondOfDay secondsPerDay
  omega

theorem second_clockFields (i : Instant) : i.clockFields.second ≤ 60 := by
  have hbounds := i.secondOfDay_bounds
  have hsecond : i.secondOfDay.toNat % 60 = (i.seconds % 60).toNat := by
    unfold secondOfDay secondsPerDay
    omega
  have hnanos := i.nanos_lt
  show i.secondOfDay.toNat % 60 + i.nanos / nanosPerSecond ≤ 60
  unfold nanosPerSecond at hnanos ⊢
  omega

theorem readClock?_text (i : Instant) :
    readClock? true (i.clockText ++ (i.fractionText ++ ['Z'])) = some (i.clockFields, ['Z']) := by
  have hbounds := i.secondOfDay_bounds
  have hhour : i.secondOfDay.toNat / 3600 < 100 := by omega
  have hminute : i.secondOfDay.toNat / 60 % 60 < 100 := by omega
  have hsecond : i.secondOfDay.toNat % 60 + i.nanos / nanosPerSecond < 100 :=
    Nat.lt_of_le_of_lt i.second_clockFields (by decide)
  unfold readClock? clockText
  simp only [List.append_assoc, List.cons_append, readShort?_paddedDigits hhour,
    readSpacedMark?_cons true ':' rfl, readShort?_paddedDigits hminute,
    readShort?_paddedDigits hsecond, readFraction?_fractionText, Option.bind_eq_bind,
    Option.bind_some]
  rfl

theorem ofParts?_self {i : Instant} (h : i.OnClock) : ofParts? i.seconds i.nanos = some i :=
  dif_pos ⟨i.nanos_lt, h⟩

/-- Second 60 stands for the second before it with a whole second of nanoseconds more. -/
theorem carry_clockFields {i : Instant} (h : i.OnClock) :
    (if i.clockFields.second = 60 then (59, i.clockFields.nanos + nanosPerSecond)
      else (i.clockFields.second, i.clockFields.nanos)) = (i.secondOfDay.toNat % 60, i.nanos) := by
  have hbounds := i.secondOfDay_bounds
  have hminute : i.secondOfDay.toNat % 60 = (i.seconds % 60).toNat := by
    unfold secondOfDay secondsPerDay
    omega
  have hnanos := i.nanos_lt
  unfold OnClock at h
  show (if i.secondOfDay.toNat % 60 + i.nanos / nanosPerSecond = 60
    then (59, i.nanos % nanosPerSecond + nanosPerSecond)
    else (i.secondOfDay.toNat % 60 + i.nanos / nanosPerSecond, i.nanos % nanosPerSecond)) = _
  unfold nanosPerSecond at hnanos h ⊢
  split
  · rename_i hleap
    have hsecond : 59 = i.secondOfDay.toNat % 60 := by omega
    have hwhole : i.nanos % 1000000000 + 1000000000 = i.nanos := by omega
    rw [← hsecond, hwhole]
  · rename_i hshort
    have hwhole : i.nanos < 1000000000 := by omega
    rw [Nat.div_eq_of_lt hwhole, Nat.mod_eq_of_lt hwhole, Nat.add_zero]

theorem seconds_eq (i : Instant) :
    i.date.toDays * secondsPerDay + ((i.secondOfDay.toNat / 3600 : Nat) * 3600
      + (i.secondOfDay.toNat / 60 % 60 : Nat) * 60 + (i.secondOfDay.toNat % 60 : Nat)) - 60 * 0
      = i.seconds := by
  have hday : i.date.toDays = i.dayNumber := Date.toDays_ofDays _
  rw [hday]
  unfold dayNumber secondOfDay secondsPerDay
  omega

theorem on?_clockFields {i : Instant} (h : i.isStorable = true) (hclock : i.OnClock) :
    i.clockFields.on? i.date 0 = some i := by
  have hbounds := i.secondOfDay_bounds
  have hvalid : i.date.isValid = true := Date.isValid_ofDays _
  have hstorable : i.date.isStorable = true := h
  have hhour : i.clockFields.hour ≤ 23 := by
    show i.secondOfDay.toNat / 3600 ≤ 23
    omega
  have hminute : i.clockFields.minute ≤ 59 := by
    show i.secondOfDay.toNat / 60 % 60 ≤ 59
    omega
  unfold ClockFields.on? ofClock?
  simp only [hvalid, hstorable, hhour, hminute, i.second_clockFields, carry_clockFields hclock, decide_true,
    Bool.and_true, if_true]
  show (ofParts? (_ + ((i.secondOfDay.toNat / 3600 : Nat) * 3600
    + (i.secondOfDay.toNat / 60 % 60 : Nat) * 60 + _) - _) _).filter isStorable = _
  rw [seconds_eq, ofParts?_self hclock]
  exact Option.filter_eq_some_iff.2 ⟨rfl, h⟩

theorem readStored?_exactText_of_onClock {i : Instant} (hclock : i.OnClock)
    (h : 0 ≤ i.date.year ∧ i.date.year ≤ 9999) : readStored? i.exactText = some i := by
  obtain ⟨hmonth, hday⟩ := Date.lt_of_isValid (Date.isValid_ofDays i.dayNumber)
  have hstorable : i.isStorable = true := Date.isStorable_of_year h
  rw [exactText_eq]
  unfold readStored?
  simp only [readDate?_text true h hmonth hday, Option.bind_eq_bind, Option.bind_some]
  show (readClock? true (i.clockText ++ (i.fractionText ++ ['Z']))).bind _ = _
  rw [readClock?_text, Option.bind_some]
  exact on?_clockFields hstorable hclock

theorem secondOfDay_asShown {i : Instant} (h : ¬ i.OnClock) :
    i.asShown.secondOfDay = i.secondOfDay + 1 := by
  obtain ⟨hseconds, -⟩ := asShown_of_not_onClock h
  obtain ⟨-, hminute⟩ := not_onClock_iff.1 h
  rw [secondOfDay, secondOfDay, hseconds, secondsPerDay]
  omega

theorem clockFields_asShown (i : Instant) : i.asShown.clockFields = i.clockFields := by
  by_cases h : i.OnClock
  · rw [asShown_of_onClock h]
  · obtain ⟨hleap, hminute⟩ := not_onClock_iff.1 h
    have hsecond := secondOfDay_asShown h
    have hbounds := i.secondOfDay_bounds
    have hlast : i.secondOfDay % 60 ≠ 59 := by
      rw [secondOfDay, secondsPerDay]
      omega
    -- The nanoseconds of the leap second make up the second that is missing.
    have hcarry : i.asShown.nanos / nanosPerSecond = 0 ∧ i.nanos / nanosPerSecond = 1 := by
      have hlt := i.nanos_lt
      rw [(asShown_of_not_onClock h).2]
      unfold nanosPerSecond at hleap hlt ⊢
      omega
    unfold clockFields
    simp only [hsecond, hcarry, fraction_asShown, ClockFields.mk.injEq, and_true]
    omega

theorem clockText_asShown (i : Instant) : i.asShown.clockText = i.clockText :=
  congrArg (fun c : ClockFields => paddedDigits 2 c.hour ++ ':' :: paddedDigits 2 c.minute
    ++ ':' :: paddedDigits 2 c.second) i.clockFields_asShown

theorem exactText_asShown (i : Instant) : i.asShown.exactText = i.exactText := by
  rw [exactText_eq, exactText_eq, date_asShown, clockText_asShown, fractionText, fractionText,
    fraction_asShown]

/-- **An instant is read back as it is shown.** -/
theorem readStored?_exactText {i : Instant} (h : 0 ≤ i.date.year ∧ i.date.year ≤ 9999) :
    readStored? i.exactText = some i.asShown := by
  rw [← exactText_asShown]
  refine readStored?_exactText_of_onClock i.onClock_asShown ?_
  rwa [date_asShown]

/-- Half a second into the leap second that ended 2016. -/
example : readStored? "2016-12-31T23:59:60.500Z".toList
    = some ⟨1483228799, 1500000000, by decide⟩ := by decide +kernel

end Instant

end Fieldbook
