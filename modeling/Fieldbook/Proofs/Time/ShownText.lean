import Fieldbook.Proofs.Calculation.Finished
import Fieldbook.Proofs.Time.StoredText

/-!
# Instants read back by formulas

`NOW()`, `TODAY()` and the cells that show when a row was made and changed are texts, and formulas take such
texts for instants again.  Of an instant in the years 0 to 9999 whole milliseconds come back as they are
shown, in a leap second too (`Instant.readStrict?_millisText`), and of a date the start of its day
(`Instant.readDay?_text`).  A date alone is not in the form of RFC 3339, which is tried first
(`Instant.readStrict?_dateText`).
-/

namespace Fieldbook

/-! ### Parts of fixed width -/

theorem readMark?_cons (mark : Char) (rest : List Char) : readMark? mark (mark :: rest) = some rest :=
  if_pos rfl

theorem readExactly?_paddedDigits {width n : Nat} (hwidth : 0 < width) (h : n < tenTo width)
    (rest : List Char) :
    readExactly? width (paddedDigits width n ++ rest) = some (n, rest) := by
  have hlength := length_paddedDigits hwidth h
  have hdigits : (paddedDigits width n).all Char.isDigit = true :=
    List.all_eq_true.2 fun _ => isDigit_of_mem_paddedDigits
  unfold readExactly?
  simp only [List.take_left' hlength, List.drop_left' hlength, hlength, hdigits,
    digitsValue_paddedDigits, decide_true, Bool.and_true, if_true]

theorem readJoint?_cons (rest : List Char) : readJoint? ('T' :: rest) = some rest := rfl

theorem readTwo?_paddedDigits {n : Nat} (h : n < 100) (rest : List Char) :
    readExactly? 2 (paddedDigits 2 n ++ rest) = some (n, rest) :=
  readExactly?_paddedDigits (by decide) h rest

theorem readFour?_paddedDigits {n : Nat} (h : n < 10000) (rest : List Char) :
    readExactly? 4 (paddedDigits 4 n ++ rest) = some (n, rest) :=
  readExactly?_paddedDigits (by decide) h rest

/-! ### Dates -/

namespace Date

theorem text_eq {d : Date} (h : 0 ≤ d.year ∧ d.year ≤ 9999) (rest : List Char) :
    d.text ++ rest = paddedDigits 4 d.year.natAbs ++ '-' :: (paddedDigits 2 d.month
      ++ '-' :: (paddedDigits 2 d.day ++ rest)) := by
  unfold text yearText
  rw [if_pos h]
  simp only [List.append_assoc, List.cons_append]

theorem head?_text {d : Date} (h : 0 ≤ d.year ∧ d.year ≤ 9999) (rest : List Char) :
    ∀ c ∈ (d.text ++ rest).head?, Text.isBlank c = false := by
  obtain ⟨c, cs, hcs, hdigit⟩ := exists_paddedDigits 4 d.year.natAbs
  rw [text_eq h, hcs]
  intro c' hc'
  cases hc'
  exact Text.isBlank_of_isDigit hdigit

theorem trim_text {d : Date} (h : 0 ≤ d.year ∧ d.year ≤ 9999) : Text.trim d.text = d.text := by
  have hfront := head?_text h []
  rw [List.append_nil] at hfront
  refine Text.trim_eq_self hfront fun c hc => ?_
  have hlast : d.text.getLast? = (paddedDigits 2 d.day).getLast? := by
    unfold text
    rw [List.append_cons, List.getLast?_append_of_ne_nil _ (paddedDigits_ne_nil 2 d.day)]
  rw [hlast] at hc
  exact Text.isBlank_of_isDigit (isDigit_of_mem_paddedDigits (List.mem_of_getLast? hc))

end Date

namespace Instant

/-! ### Reading -/

theorem readDay?_text {d : Date} (h : 0 ≤ d.year ∧ d.year ≤ 9999) (hvalid : d.isValid = true) :
    readDay? d.text = some (ofSeconds (d.toDays * secondsPerDay)) := by
  obtain ⟨hmonth, hday⟩ := Date.lt_of_isValid hvalid
  have hstorable := Date.isStorable_of_year h
  have hread := readDate?_text false h hmonth hday []
  rw [List.append_nil] at hread
  unfold readDay? ofDate?
  simp only [hread, hvalid, hstorable, Option.bind_eq_bind, Option.bind_some]
  rfl

/-- A date alone is not in the form of RFC 3339. -/
theorem readStrict?_dateText {d : Date} (h : 0 ≤ d.year ∧ d.year ≤ 9999) (hvalid : d.isValid = true) :
    readStrict? d.text = none := by
  obtain ⟨hmonth, hday⟩ := Date.lt_of_isValid hvalid
  have hyear : d.year.natAbs < 10000 := by omega
  have htext := Date.text_eq h []
  rw [List.append_nil] at htext
  unfold readStrict?
  rw [htext]
  simp only [readFour?_paddedDigits hyear, readTwo?_paddedDigits hmonth,
    readTwo?_paddedDigits hday, readMark?_cons, Option.bind_eq_bind, Option.bind_some]
  rfl

/-- The instant without the part of it that is smaller than a millisecond. -/
def toMillis (i : Instant) : Instant where
  seconds := i.seconds
  nanos := i.nanos / nanosPerMilli * nanosPerMilli
  nanos_lt := Nat.lt_of_le_of_lt (Nat.div_mul_le_self _ _) i.nanos_lt

theorem OnClock.toMillis {i : Instant} (h : i.OnClock) : i.toMillis.OnClock :=
  h.imp_left (Nat.lt_of_le_of_lt (Nat.div_mul_le_self _ _))

def startOfDay (i : Instant) : Instant := ofSeconds (i.dayNumber * secondsPerDay)

/-- The same second of the clock, with as many nanoseconds as its three places tell. -/
theorem clockFields_toMillis (i : Instant) : i.toMillis.clockFields =
    { i.clockFields with nanos := i.fraction / nanosPerMilli * nanosPerMilli } := by
  have hsecond : i.nanos / 1000000 * 1000000 / 1000000000 = i.nanos / 1000000000 := by omega
  have hfraction : i.nanos / 1000000 * 1000000 % 1000000000
      = i.nanos % 1000000000 / 1000000 * 1000000 := by omega
  unfold clockFields fraction toMillis nanosPerMilli nanosPerSecond
  simp only [hsecond, hfraction]
  rfl

theorem readStrict?_millisText_of_onClock {i : Instant} (honClock : i.OnClock)
    (h : 0 ≤ i.date.year ∧ i.date.year ≤ 9999) : readStrict? i.millisText = some i.toMillis := by
  obtain ⟨hmonth, hday⟩ : i.date.month < 100 ∧ i.date.day < 100 :=
    Date.lt_of_isValid (Date.isValid_ofDays i.dayNumber)
  have hyear : i.date.year.natAbs < 10000 := by omega
  have hback : (i.date.year.natAbs : Int) = i.date.year := by omega
  have hbounds := i.secondOfDay_bounds
  have hhour : i.secondOfDay.toNat / 3600 < 100 := by omega
  have hminute : i.secondOfDay.toNat / 60 % 60 < 100 := by omega
  have hsecond : i.secondOfDay.toNat % 60 + i.nanos / nanosPerSecond < 100 :=
    Nat.lt_of_le_of_lt i.second_clockFields (by decide)
  have hmillis : i.fraction / nanosPerMilli < tenTo 3 := by
    show i.nanos % 1000000000 / 1000000 < 1000
    omega
  have hfraction : readFraction? ('.' :: (paddedDigits 3 (i.fraction / nanosPerMilli) ++ ['Z']))
      = some (i.fraction / nanosPerMilli * nanosPerMilli, ['Z']) :=
    readFraction?_point (by decide) (by decide) hmillis
  have huniversal : readOffset? (readMark? ':') ['Z'] = some (0, []) := rfl
  have hclock : i.toMillis.clockFields.on? i.date 0 = some i.toMillis :=
    on?_clockFields (i := i.toMillis) (Date.isStorable_of_year h) honClock.toMillis
  rw [clockFields_toMillis] at hclock
  unfold readStrict? millisText textWith
  rw [List.append_assoc, List.append_assoc, Date.text_eq h]
  unfold clockText
  simp only [List.append_assoc, List.cons_append, readFour?_paddedDigits hyear,
    readTwo?_paddedDigits hmonth, readTwo?_paddedDigits hday, readJoint?_cons,
    readTwo?_paddedDigits hhour, readTwo?_paddedDigits hminute, readTwo?_paddedDigits hsecond,
    readMark?_cons, hfraction, huniversal, hback, Option.bind_eq_bind, Option.bind_some]
  exact hclock

theorem millisText_asShown (i : Instant) : i.asShown.millisText = i.millisText := by
  unfold millisText textWith
  rw [date_asShown, clockText_asShown, fraction_asShown]

theorem readStrict?_millisText {i : Instant} (h : 0 ≤ i.date.year ∧ i.date.year ≤ 9999) :
    readStrict? i.millisText = some i.asShown.toMillis := by
  rw [← millisText_asShown]
  refine readStrict?_millisText_of_onClock i.onClock_asShown ?_
  rwa [date_asShown]

theorem trim_millisText {i : Instant} (h : 0 ≤ i.date.year ∧ i.date.year ≤ 9999) :
    Text.trim i.millisText = i.millisText := by
  unfold millisText textWith
  refine Text.trim_eq_self ?_ fun c hc => ?_
  · rw [List.append_assoc, List.append_assoc]
    exact Date.head?_text h _
  · rw [List.getLast?_concat] at hc
    cases hc
    rfl

end Instant

/-! ### Values -/

namespace Value

/-- **A shown instant is an instant again**, to whole milliseconds. -/
theorem instant_millisText {i : Instant} (h : 0 ≤ i.date.year ∧ i.date.year ≤ 9999) :
    (text (String.ofList i.millisText)).instant = .ok i.asShown.toMillis := by
  have hread : (text (String.ofList i.millisText)).instant? = some i.asShown.toMillis := by
    show Instant.readLenient? (Text.trim (String.ofList i.millisText).toList) = _
    rw [String.toList_ofList, Instant.trim_millisText h, Instant.readLenient?,
      Instant.readStrict?_millisText h]
    rfl
  unfold instant
  rw [hread]

/-- **A shown date is the start of its day.** -/
theorem instant?_dateText {d : Date} (h : 0 ≤ d.year ∧ d.year ≤ 9999) (hvalid : d.isValid = true) :
    (text (String.ofList d.text)).instant?
      = some (Instant.ofSeconds (d.toDays * Instant.secondsPerDay)) := by
  show Instant.readLenient? (Text.trim (String.ofList d.text).toList) = _
  rw [String.toList_ofList, Date.trim_text h, Instant.readLenient?,
    Instant.readStrict?_dateText h hvalid, Instant.readDay?_text h hvalid]
  rfl

end Value

/-! ### Formulas and cells -/

theorem Table.cell_computeRow_timestamp {t : Table} (hids : (t.fields.map (·.id)).Nodup) {row : Row}
    {f : Field} {cell : Cell} (hf : f ∈ t.fields) (hcell : row.timestampCell? f = some cell)
    {options : CalculationOptions} (hfill : options.fillTimestamps = true) (registry : Registry) :
    (t.computeRow row registry options).cell f.id = cell := by
  have hfilled : (row.store (row.filledEntries t.fields registry options)).cells.get? f.id
      = some cell := by
    refine Row.get?_store_of_mem (Row.nodup_keys_filledEntries hids row) ?_ row
    rw [Row.filledEntries, hfill]
    exact List.mem_append_right _ (Row.mem_timestampEntries.2 ⟨f, hf, cell, hcell, rfl⟩)
  have hother : f.id ∉ (Schedule.ofFields t.fields).all := by
    rw [Schedule.mem_all hids]
    refine notMem_formulaIds hids hf fun expression htype => ?_
    simp [Row.timestampCell?, htype] at hcell
  rw [Row.cell, computeRow_eq_filled]
  split
  · rw [Row.get?_computed_of_notMem hother, hfilled]
    rfl
  · rw [hfilled]
    rfl

/-- **An instant of a row is shown so that it comes back**: as a text that formulas read to whole
milliseconds, and that stands in every calculated row. -/
def Row.Shows (row : Row) (f : Field) (i : Instant) : Prop :=
  ∃ text, row.timestampCell? f = some (.text text) ∧
    (Value.text text).instant = .ok i.asShown.toMillis ∧
    ∀ (t : Table) (registry : Registry) (options : CalculationOptions),
      (t.fields.map (·.id)).Nodup → f ∈ t.fields → options.fillTimestamps = true →
      (t.computeRow row registry options).cell f.id = .text text

theorem Row.shows_of_timestampCell? {row : Row} {f : Field} {i : Instant}
    (h : 0 ≤ i.date.year ∧ i.date.year ≤ 9999)
    (hcell : row.timestampCell? f = some (.text (String.ofList i.millisText))) : row.Shows f i :=
  ⟨_, hcell, Value.instant_millisText h, fun _ registry _ hids hf hfill =>
    Table.cell_computeRow_timestamp hids hf hcell hfill registry⟩

set_option maxRecDepth 20000 in
theorem Formula.value_now (s : Scope) :
    value "NOW()" s = .ok (.text (String.ofList s.now.millisText)) := by
  have htree : Expr.parse "NOW()" = .ok (.call .now []) := by with_unfolding_all rfl
  rw [value_of_parse s htree]
  rfl

set_option maxRecDepth 20000 in
theorem Formula.value_today (s : Scope) :
    value "TODAY()" s = .ok (.text (String.ofList s.now.date.text)) := by
  have htree : Expr.parse "TODAY()" = .ok (.call .today []) := by with_unfolding_all rfl
  rw [value_of_parse s htree]
  rfl

namespace Instant

/-- **An instant comes back from what is shown of it**, as it is shown. -/
structure ComesBack (i : Instant) : Prop where
  now : ∀ s : Scope, s.now = i → ∃ text, Formula.value "NOW()" s = .ok (.text text) ∧
    (Value.text text).instant = .ok i.asShown.toMillis
  today : ∀ s : Scope, s.now = i →
    ∃ text, Formula.value "TODAY()" s = .ok (.text text) ∧
      (Value.text text).instant = .ok i.startOfDay
  created : ∀ (row : Row) (f : Field), row.created = i → f.type = .createdTime → row.Shows f i
  lastEdited : ∀ (row : Row) (f : Field), row.updated = i → f.type = .lastEditedTime → row.Shows f i

/-- **Instants in the years 0 to 9999 come back**, before 1970 and in leap seconds too: exactly, unless a
leap second does not end a minute. -/
theorem comesBack_of_year (i : Instant) (h : 0 ≤ i.date.year ∧ i.date.year ≤ 9999) :
    i.ComesBack ∧ (i.asShown = i ↔ i.OnClock) := by
  refine ⟨{ now := ?now, today := ?today, created := ?created, lastEdited := ?lastEdited },
    asShown_eq_self_iff⟩
  case now =>
    rintro s rfl
    exact ⟨_, Formula.value_now s, Value.instant_millisText h⟩
  case today =>
    rintro s rfl
    refine ⟨_, Formula.value_today s, ?_⟩
    have hday : s.now.date.toDays = s.now.dayNumber := Date.toDays_ofDays _
    unfold Value.instant
    rw [Value.instant?_dateText h (Date.isValid_ofDays _), hday]
    rfl
  case created =>
    rintro row f rfl htype
    exact Row.shows_of_timestampCell? h (by rw [Row.timestampCell?, htype])
  case lastEdited =>
    rintro row f rfl htype
    exact Row.shows_of_timestampCell? h (by rw [Row.timestampCell?, htype])

/-- The last nanosecond of the leap second that ended June 1972, and three milliseconds, less a
nanosecond, before the year 1. -/
theorem comesBack_leap_second_and_year_zero :
    let leap : Instant := ⟨78796799, 1999999999, by decide⟩
    let early : Instant := ⟨-62135596801, 997000001, by decide⟩
    (leap.date = ⟨1972, 6, 30⟩ ∧ leap.ComesBack ∧ leap.asShown = leap) ∧
      early.date = ⟨0, 12, 31⟩ ∧ early.ComesBack ∧ early.asShown = early := by
  intro leap early
  obtain ⟨hleap, hexact⟩ := comesBack_of_year leap (by decide +kernel)
  obtain ⟨hearly, hexact'⟩ := comesBack_of_year early (by decide +kernel)
  exact ⟨⟨by decide +kernel, hleap, hexact.2 (by decide)⟩, by decide +kernel, hearly,
    hexact'.2 (by decide)⟩

/-- Half a second into a leap second after the first second of 1970, which the clock shows as the second
after it. -/
theorem not_back_in_minute :
    let leap : Instant := ⟨0, 1500000000, by decide⟩
    let next : Instant := ⟨1, 500000000, by decide⟩
    leap.date = ⟨1970, 1, 1⟩ ∧
      Formula.value "NOW()" ⟨default, [], leap⟩ = .ok (.text "1970-01-01T00:00:01.500Z") ∧
      (Value.text "1970-01-01T00:00:01.500Z").instant = .ok next ∧ next ≠ leap.toMillis := by
  intro leap next
  have htext : String.ofList leap.millisText = "1970-01-01T00:00:01.500Z" := by decide +kernel
  refine ⟨by decide +kernel, ?_, by decide +kernel, by decide⟩
  rw [Formula.value_now]
  exact congrArg (fun text => Except.ok (Value.text text)) htext

end Instant

end Fieldbook
