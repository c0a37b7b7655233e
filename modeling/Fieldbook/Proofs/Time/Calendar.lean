import Fieldbook.Time.Date

/-!
# Day numbers and dates

`Date.ofDays` finds the date of a day number by division alone.  It cuts a cycle of four hundred
years, counted from March, into centuries, spans of four years, years and days: the last of each may be
longer by the leap day, or shorter for want of it (`Date.exists_parts`).  `Date.Parts.year_eq` says that
the one division in `ofDays` finds these parts, and with them every day number comes back from its
date (`Date.toDays_ofDays`), which the calendar has (`Date.isValid_ofDays`).

Day numbers are in the order of the dates (`Date.toDays_le_of_notAfter`): a date lies before the end of its
month, and the month before the end of its year, all counted from March (`Date.toDays_bounds`).
-/

namespace Fieldbook.Date

/-! ### Dates of the calendar -/

theorem isValid_iff {d : Date} : d.isValid = true
    ↔ (1 ≤ d.month ∧ d.month ≤ 12) ∧ 1 ≤ d.day ∧ d.day ≤ daysInMonth d.year d.month := by
  unfold isValid
  simp only [Bool.and_eq_true, decide_eq_true_eq, and_assoc]

theorem isStorable_iff {d : Date} : d.isStorable = true ↔ -262143 ≤ d.year ∧ d.year ≤ 262142 := by
  unfold isStorable
  simp only [Bool.and_eq_true, decide_eq_true_eq]

theorem isStorable_of_year {d : Date} (h : 0 ≤ d.year ∧ d.year ≤ 9999) : d.isStorable = true :=
  isStorable_iff.2 (by omega)

/-! ### A cycle of four hundred years -/

/-- **The parts of a day in the cycle**: whole centuries, spans of four years and years before it, and
days.  A day 365 is a leap day, and none ends a century but the last. -/
structure Parts (inCycle : Int) (century span year day : Int) : Prop where
  century_le : 0 ≤ century ∧ century ≤ 3
  span_le : 0 ≤ span ∧ span ≤ 24
  year_le : 0 ≤ year ∧ year ≤ 3
  day_le : 0 ≤ day ∧ day ≤ 365
  leap : day = 365 → year = 3 ∧ (span = 24 → century = 3)
  sum : inCycle = 36524 * century + 1461 * span + 365 * year + day

theorem exists_parts {c : Int} (h : 0 ≤ c) (h' : c < 146097) :
    ∃ century span year day, Parts c century span year day := by
  obtain ⟨q, hq⟩ : ∃ q, q = min 3 (c / 36524) := ⟨_, rfl⟩
  obtain ⟨r, hr⟩ : ∃ r, r = (c - 36524 * q) / 1461 := ⟨_, rfl⟩
  obtain ⟨s, hs⟩ : ∃ s, s = min 3 ((c - 36524 * q - 1461 * r) / 365) := ⟨_, rfl⟩
  obtain ⟨d, hd⟩ : ∃ d, d = c - 36524 * q - 1461 * r - 365 * s := ⟨_, rfl⟩
  refine ⟨q, r, s, d, ?_, ?_, ?_, ?_, ?_, ?_⟩ <;> omega

namespace Parts

variable {c q r s d : Int} (h : Parts c q r s d)

include h

theorem year_eq : (c - c / 1460 + c / 36524 - c / 146096) / 365 = 100 * q + 4 * r + s := by
  obtain ⟨hq, hr, hs, hd, hleap, hsum⟩ := h
  have hcentury : c / 36524 - c / 146096 = q := by
    have hlast : 1461 * r + 365 * s + d ≤ 36523 ∨ (q = 3 ∧ c = 146096) := by omega
    rcases hlast with hlt | ⟨rfl, rfl⟩
    · have : c / 36524 = q := by omega
      have : c < 146096 := by omega
      omega
    · rfl
  have hspan : c / 1460 = 25 * q + r + (24 * q + r + 365 * s + d) / 1460 := by omega
  -- The last division is one from the leap day on at the latest, and never on the first day of a year.
  have hlate : d = 365 → 1460 ≤ 24 * q + r + 365 * s + d := by omega
  have hfirst : 1460 ≤ 24 * q + r + 365 * s + d → 1 ≤ d := by omega
  omega

theorem daysBeforeYear_eq : daysBeforeYear (100 * q + 4 * r + s) = c - d := by
  obtain ⟨hq, hr, hs, hd, hleap, hsum⟩ := h
  unfold daysBeforeYear
  omega

theorem isLeapYear_of_leap (hd : d = 365) (cycle : Int) :
    isLeapYear (400 * cycle + (100 * q + 4 * r + s) + 1) = true := by
  obtain ⟨hq, hr, hs, -, hleap, -⟩ := h
  have hparts := hleap hd
  have hfour : (400 * cycle + (100 * q + 4 * r + s) + 1) % 4 = 0 := by omega
  have hhundred : (400 * cycle + (100 * q + 4 * r + s) + 1) % 100 ≠ 0
      ∨ (400 * cycle + (100 * q + 4 * r + s) + 1) % 400 = 0 := by omega
  simpa [isLeapYear, hfour] using hhundred

end Parts

/-! ### A day in its year -/

/-- The date of a day in a year that is counted from March. -/
def ofMarch (year day : Int) : Date :=
  let month := (5 * day + 2) / 153
  { year := year + (if month < 10 then 0 else 1)
    month := (if month < 10 then month + 3 else month - 9).toNat
    day := (day - daysBeforeMonth month + 1).toNat }

theorem ofDays_eq {days q r s d : Int}
    (h : Parts ((days + epochShift) % 146097) q r s d) :
    ofDays days = ofMarch (400 * ((days + epochShift) / 146097) + (100 * q + 4 * r + s)) d := by
  have hday : (days + epochShift) % 146097 - daysBeforeYear (100 * q + 4 * r + s) = d := by
    rw [h.daysBeforeYear_eq]
    omega
  unfold ofDays ofMarch
  simp only [h.year_eq, hday]

theorem toDays_ofMarch {year day : Int} (h : 0 ≤ day ∧ day ≤ 365) :
    (ofMarch year day).toDays
      = 146097 * (year / 400) + daysBeforeYear (year % 400) + day - epochShift := by
  obtain ⟨month, hmonth⟩ : ∃ month, month = (5 * day + 2) / 153 := ⟨_, rfl⟩
  have hstart : daysBeforeMonth month ≤ day := by
    unfold daysBeforeMonth
    omega
  unfold toDays ofMarch
  simp only [← hmonth]
  by_cases hlate : month < 10
  · have hm : ¬ (month + 3).toNat ≤ 2 := by omega
    simp only [if_pos hlate, if_neg hm]
    have hback : ((month + 3).toNat : Int) - 3 = month := by omega
    rw [hback, Int.add_zero]
    omega
  · have hm : (month - 9).toNat ≤ 2 := by omega
    simp only [if_neg hlate, if_pos hm]
    have hback : ((month - 9).toNat : Int) + 9 = month := by omega
    have hyear : year + 1 - 1 = year := by omega
    rw [hback, hyear]
    omega

/-- February aside, a month is as long as the days up to the next say. -/
theorem daysInMonth_eq {month : Int} (h : 0 ≤ month ∧ month < 11) (year : Int) :
    (daysInMonth year (if month < 10 then month + 3 else month - 9).toNat : Int)
      = daysBeforeMonth (month + 1) - daysBeforeMonth month := by
  have hmonth : month = 0 ∨ month = 1 ∨ month = 2 ∨ month = 3 ∨ month = 4 ∨ month = 5 ∨ month = 6
      ∨ month = 7 ∨ month = 8 ∨ month = 9 ∨ month = 10 := by omega
  rcases hmonth with rfl | rfl | rfl | rfl | rfl | rfl | rfl | rfl | rfl | rfl | rfl <;> rfl

theorem isValid_ofMarch {year day : Int} (h : 0 ≤ day ∧ day ≤ 365)
    (hleap : day = 365 → isLeapYear (year + 1) = true) : (ofMarch year day).isValid = true := by
  obtain ⟨month, hmonth⟩ : ∃ month, month = (5 * day + 2) / 153 := ⟨_, rfl⟩
  have hstart : daysBeforeMonth month ≤ day ∧ day < daysBeforeMonth (month + 1) := by
    unfold daysBeforeMonth
    omega
  rw [isValid_iff]
  unfold ofMarch
  simp only [← hmonth]
  refine ⟨⟨by omega, by omega⟩, by omega, ?_⟩
  by_cases hlast : month = 11
  · subst hlast
    show (day - 337 + 1).toNat ≤ if isLeapYear (year + 1) then 29 else 28
    by_cases hday : day = 365
    · rw [if_pos (hleap hday)]
      omega
    · split <;> omega
  · have hrange : 0 ≤ month ∧ month < 11 := by omega
    have hlength := daysInMonth_eq hrange (year + if month < 10 then 0 else 1)
    omega

/-! ### Back and forth -/

/-- **The date of a day number has that number.** -/
theorem toDays_ofDays (days : Int) : (ofDays days).toDays = days := by
  obtain ⟨q, r, s, d, h⟩ := exists_parts (c := (days + epochShift) % 146097) (by omega) (by omega)
  rw [ofDays_eq h, toDays_ofMarch h.day_le]
  obtain ⟨year, hyear⟩ : ∃ year, year = 100 * q + 4 * r + s := ⟨_, rfl⟩
  have hrange : 0 ≤ year ∧ year < 400 := by
    obtain ⟨hq, hr, hs, -⟩ := h
    omega
  have hstart := h.daysBeforeYear_eq
  rw [← hyear] at hstart ⊢
  have hcycle : (400 * ((days + epochShift) / 146097) + year) % 400 = year := by omega
  rw [hcycle, hstart]
  omega

theorem isValid_ofDays (days : Int) : (ofDays days).isValid = true := by
  obtain ⟨q, r, s, d, h⟩ := exists_parts (c := (days + epochShift) % 146097) (by omega) (by omega)
  rw [ofDays_eq h]
  exact isValid_ofMarch h.day_le fun hd => h.isLeapYear_of_leap hd _

/-! ### The order of dates -/

/-- The date is the other one, or the calendar has it before. -/
def NotAfter (d e : Date) : Prop :=
  d.year < e.year
    ∨ d.year = e.year ∧ (d.month < e.month ∨ d.month = e.month ∧ d.day ≤ e.day)

def marchYear (d : Date) : Int := if d.month ≤ 2 then d.year - 1 else d.year

/-- The month of a date, March being month zero. -/
def marchMonth (d : Date) : Int := if d.month ≤ 2 then d.month + 9 else d.month - 3

def daysBeforeMarch (year : Int) : Int := 365 * year + year / 4 - year / 100 + year / 400

theorem toDays_eq (d : Date) : d.toDays
    = daysBeforeMarch d.marchYear + daysBeforeMonth d.marchMonth + (d.day - 1) - epochShift := by
  show 146097 * (d.marchYear / 400) + daysBeforeYear (d.marchYear % 400)
    + daysBeforeMonth d.marchMonth + (d.day - 1) - epochShift = _
  have hyear : 146097 * (d.marchYear / 400) + daysBeforeYear (d.marchYear % 400)
      = daysBeforeMarch d.marchYear := by
    unfold daysBeforeYear daysBeforeMarch
    omega
  rw [hyear]

theorem daysBeforeMarch_le {x y : Int} (h : x ≤ y) : daysBeforeMarch x ≤ daysBeforeMarch y := by
  unfold daysBeforeMarch
  omega

theorem daysBeforeMarch_succ (year : Int) : daysBeforeMarch year + 365 ≤ daysBeforeMarch (year + 1)
    ∧ (isLeapYear (year + 1) = true → daysBeforeMarch year + 366 ≤ daysBeforeMarch (year + 1)) := by
  unfold daysBeforeMarch isLeapYear
  simp only [Bool.and_eq_true, Bool.or_eq_true, decide_eq_true_eq, bne_iff_ne]
  omega

theorem daysBeforeMonth_le {x y : Int} (h : x ≤ y) : daysBeforeMonth x ≤ daysBeforeMonth y := by
  unfold daysBeforeMonth
  omega

theorem marchMonth_bounds {d : Date} (h : d.isValid = true) :
    0 ≤ d.marchMonth ∧ d.marchMonth ≤ 11 ∧ (d.marchMonth = 11 ↔ d.month = 2) := by
  obtain ⟨hmonth, -⟩ := isValid_iff.1 h
  unfold marchMonth
  split <;> omega

/-- **Where a date lies**: in its month, if that is not February, and in its year. -/
theorem toDays_bounds {d : Date} (h : d.isValid = true) :
    (d.marchMonth < 11 → daysBeforeMonth d.marchMonth + d.day ≤ daysBeforeMonth (d.marchMonth + 1))
      ∧ daysBeforeMarch d.marchYear + daysBeforeMonth d.marchMonth + d.day
        ≤ daysBeforeMarch (d.marchYear + 1) := by
  have hmonth := marchMonth_bounds h
  have hyear := daysBeforeMarch_succ d.marchYear
  obtain ⟨hmonths, -, hdays⟩ := isValid_iff.1 h
  by_cases hfebruary : d.month = 2
  · have hlast : d.marchMonth = 11 := hmonth.2.2.2 hfebruary
    have hback : d.marchYear + 1 = d.year := by
      unfold marchYear
      rw [hfebruary]
      exact Int.sub_add_cancel d.year 1
    have hlength : daysBeforeMonth 11 = 337 := rfl
    have hday : d.day ≤ if isLeapYear d.year then 29 else 28 := by
      rw [hfebruary] at hdays
      exact hdays
    rw [hback] at hyear ⊢
    rw [hlast, hlength]
    refine ⟨fun hlt => absurd hlt (Int.lt_irrefl 11), ?_⟩
    split at hday
    · have := hyear.2 (by assumption)
      omega
    · omega
  · have hlt : d.marchMonth < 11 := by omega
    have hback : (if d.marchMonth < 10 then d.marchMonth + 3 else d.marchMonth - 9).toNat = d.month := by
      unfold marchMonth
      split <;> split <;> omega
    have hlength := daysInMonth_eq ⟨hmonth.1, hlt⟩ d.year
    rw [hback] at hlength
    have hnext := daysBeforeMonth_le (show d.marchMonth + 1 ≤ 11 by omega)
    have hlast : daysBeforeMonth 11 = 337 := rfl
    constructor <;> omega

/-- **Day numbers are in the order of the dates.** -/
theorem toDays_le_of_notAfter {d e : Date} (hd : d.isValid = true) (he : e.isValid = true)
    (h : d.NotAfter e) : d.toDays ≤ e.toDays := by
  have hmonth := marchMonth_bounds hd
  have hmonth' := marchMonth_bounds he
  obtain ⟨hinMonth, hinYear⟩ := toDays_bounds hd
  obtain ⟨hmonths, -, -⟩ := isValid_iff.1 hd
  obtain ⟨hmonths', hday, -⟩ := isValid_iff.1 he
  have hstart : 0 ≤ daysBeforeMonth e.marchMonth := by
    unfold daysBeforeMonth
    omega
  -- From March on, too, the year comes first, then the month, then the day.
  have hmarch : d.marchYear < e.marchYear
      ∨ d.marchYear = e.marchYear
        ∧ (d.marchMonth < e.marchMonth ∨ d.marchMonth = e.marchMonth ∧ d.day ≤ e.day) := by
    unfold NotAfter at h
    unfold marchYear marchMonth
    split <;> split <;> omega
  rw [toDays_eq, toDays_eq]
  rcases hmarch with hyear | ⟨hyear, hmonths | ⟨hmonths, hdays⟩⟩
  · have := daysBeforeMarch_le (show d.marchYear + 1 ≤ e.marchYear from hyear)
    omega
  · have := daysBeforeMonth_le (show d.marchMonth + 1 ≤ e.marchMonth from hmonths)
    have := hinMonth (by omega)
    rw [hyear]
    omega
  · rw [hyear, hmonths]
    omega

theorem natAbs_toDays_le {d : Date} (hvalid : d.isValid = true) (h : d.isStorable = true) :
    d.toDays.natAbs ≤ 100000000 := by
  have hmonth := marchMonth_bounds hvalid
  obtain ⟨-, hinYear⟩ := toDays_bounds hvalid
  have hstorable := isStorable_iff.1 h
  have hyear : -262144 ≤ d.marchYear ∧ d.marchYear ≤ 262142 := by
    unfold marchYear
    split <;> omega
  have hstart : 0 ≤ daysBeforeMonth d.marchMonth := by
    unfold daysBeforeMonth
    omega
  have hlow := daysBeforeMarch_le hyear.1
  have hhigh := daysBeforeMarch_le (show d.marchYear + 1 ≤ 262143 by omega)
  have hfirst : daysBeforeMarch (-262144) = -95746130 := rfl
  have hlast : daysBeforeMarch 262143 = 95745764 := rfl
  rw [toDays_eq]
  unfold epochShift
  omega

end Fieldbook.Date
