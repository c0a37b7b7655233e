import Fieldbook.Formula.Apply
import Fieldbook.Proofs.Number.Accuracy
import Fieldbook.Proofs.Time.ShownText

/-!
# Whole days between two instants

Whatever a formula takes for an instant lies in a year that can be stored (`Value.reachable_of_instant?`), so
the milliseconds between two of them fit into 64 bits with room to spare (`Instant.checkedDays?_eq`).
Outside leap seconds elapsed time is a difference of nanoseconds since 1970, and the whole days
of it do not depend on its sign (`Instant.wholeDays_eq`).
-/

namespace Fieldbook

namespace Instant

/-! ### How far instants are apart -/

def nanosPerDay : Nat := 86400000000000

/-- Nanoseconds since 1970, leap seconds not counted. -/
def sinceEpoch (i : Instant) : Int := i.seconds * nanosPerSecond + i.nanos

/-- **Whole days apart**: how often a day goes into the time between two instants. -/
def daysApart (a b : Instant) : Nat := (a.sinceEpoch - b.sinceEpoch).natAbs / nanosPerDay

theorem daysApart_comm (a b : Instant) : a.daysApart b = b.daysApart a := by
  unfold daysApart
  rw [← Int.neg_sub, Int.natAbs_neg]

theorem daysApart_self (a : Instant) : a.daysApart a = 0 := by
  unfold daysApart
  rw [Int.sub_self]
  rfl

theorem daysApart_le (a b c : Instant) : a.daysApart c ≤ a.daysApart b + b.daysApart c + 1 := by
  unfold daysApart nanosPerDay
  omega

theorem elapsedNanos_eq {a b : Instant} (ha : a.isLeap = false) (hb : b.isLeap = false) :
    elapsedNanos a b = a.sinceEpoch - b.sinceEpoch := by
  have hpartsA := Int.mul_ediv_add_emod a.seconds secondsPerDay
  have hpartsB := Int.mul_ediv_add_emod b.seconds secondsPerDay
  unfold elapsedNanos sinceEpoch
  simp only [ha, hb, Bool.false_eq_true, and_false, if_false]
  unfold dayNumber secondOfDay nanosPerSecond
  unfold secondsPerDay at hpartsA hpartsB ⊢
  omega

/-- **Outside leap seconds whole days are the days apart**, whichever instant comes first. -/
theorem wholeDays_eq {a b : Instant} (ha : a.isLeap = false) (hb : b.isLeap = false) :
    wholeDays a b = a.daysApart b := by
  unfold wholeDays elapsedMillis daysApart
  rw [elapsedNanos_eq ha hb, Int.natAbs_tdiv]
  exact Nat.div_div_eq_div_mul _ nanosPerMilli millisPerDay

/-! ### Counting with 64 bits -/

def int64? (n : Int) : Option Int :=
  if -9223372036854775808 ≤ n ∧ n < 9223372036854775808 then some n else none

/-- **Whole days counted with 64 bits**: elapsed time is put together from whole seconds and the
milliseconds of the rest. -/
def checkedDays? (a b : Instant) : Option Nat := do
  let elapsed := elapsedNanos a b
  let seconds ← int64? (elapsed.tdiv nanosPerSecond)
  let whole ← int64? (seconds * 1000)
  let part ← int64? ((elapsed.tmod nanosPerSecond).tdiv nanosPerMilli)
  let millis ← int64? (whole + part)
  let distance ← int64? millis.natAbs
  return distance.toNat / millisPerDay

/-- The instant falls in a year that can be stored, or close to one. -/
def Reachable (i : Instant) : Prop := i.dayNumber.natAbs ≤ 100000000

theorem natAbs_elapsedNanos_le {a b : Instant} (ha : a.Reachable) (hb : b.Reachable) :
    (elapsedNanos a b).natAbs ≤ 200000002 * nanosPerDay := by
  have hboundsA := a.secondOfDay_bounds
  have hboundsB := b.secondOfDay_bounds
  have hnanosA : a.nanos < 2000000000 := a.nanos_lt
  have hnanosB : b.nanos < 2000000000 := b.nanos_lt
  unfold Reachable at ha hb
  unfold elapsedNanos secondsPerDay nanosPerSecond nanosPerDay
  simp only
  split
  · omega
  · split <;> omega

theorem int64?_eq {n : Int} (h : n.natAbs < 9223372036854775808) : int64? n = some n :=
  if_pos (by omega)

/-- Whole seconds and the milliseconds of the rest, both toward zero, make up all whole milliseconds. -/
theorem join_millis (elapsed : Int) :
    elapsed.tdiv nanosPerSecond * 1000 + (elapsed.tmod nanosPerSecond).tdiv nanosPerMilli
      = elapsed.tdiv nanosPerMilli := by
  have hnat : ∀ n : Nat, n / nanosPerSecond * 1000 + n % nanosPerSecond / nanosPerMilli
      = n / nanosPerMilli := by
    intro n
    unfold nanosPerSecond nanosPerMilli
    omega
  obtain ⟨n, rfl | rfl⟩ := elapsed.eq_nat_or_neg
  · exact congrArg Nat.cast (hnat n)
  · rw [Int.neg_tdiv, Int.neg_tdiv, Int.neg_tmod, Int.neg_tdiv, Int.neg_mul, ← Int.neg_add]
    exact congrArg (fun m : Nat => -(m : Int)) (hnat n)

/-- **No count leaves the 64 bits.** -/
theorem checkedDays?_eq {a b : Instant} (ha : a.Reachable) (hb : b.Reachable) :
    checkedDays? a b = some (wholeDays a b) := by
  have hle := natAbs_elapsedNanos_le ha hb
  unfold wholeDays elapsedMillis checkedDays?
  generalize elapsedNanos a b = elapsed at hle
  have hseconds := Int.natAbs_tdiv elapsed nanosPerSecond
  have hmillis := Int.natAbs_tdiv elapsed nanosPerMilli
  change _ = elapsed.natAbs / 1000000000 at hseconds
  change _ = elapsed.natAbs / 1000000 at hmillis
  have hjoin := join_millis elapsed
  unfold nanosPerDay at hle
  simp only
  rw [int64?_eq (by omega), Option.bind_eq_bind, Option.bind_some, int64?_eq (by omega),
    Option.bind_some, int64?_eq (by omega), Option.bind_some, hjoin, int64?_eq (by omega),
    Option.bind_some, int64?_eq (by omega), Option.bind_some]
  rfl

/-! ### What is taken for an instant -/

theorem reachable_of_isStorable {i : Instant} (h : i.isStorable = true) : i.Reachable := by
  have hle := Date.natAbs_toDays_le (Date.isValid_ofDays i.dayNumber) h
  rwa [Date.toDays_ofDays] at hle

theorem reachable_of_filter {o : Option Instant} : ∀ i ∈ o.filter isStorable, i.Reachable := by
  intro i hi
  exact reachable_of_isStorable (Option.mem_filter_iff.1 hi).2

theorem reachable_of_ofDate? {d : Date} : ∀ i ∈ ofDate? d, i.Reachable := by
  intro i hi
  unfold ofDate? at hi
  split at hi
  · cases hi
    rename_i h
    rw [Bool.and_eq_true] at h
    have hle := Date.natAbs_toDays_le h.1 h.2
    have hday : (ofSeconds (d.toDays * secondsPerDay)).dayNumber = d.toDays :=
      Int.mul_ediv_cancel _ (by decide)
    rw [Reachable, hday]
    exact hle
  · cases hi

theorem reachable_of_ofClock? {d : Date} {hour minute second nanos : Nat} {offset : Int} :
    ∀ i ∈ ofClock? d hour minute second nanos offset, i.Reachable := by
  intro i hi
  unfold ofClock? at hi
  split at hi
  · exact reachable_of_filter i hi
  · cases hi

theorem reachable_of_bind {α : Type} {o : Option α} {f : α → Option Instant}
    (h : ∀ a, ∀ i ∈ f a, i.Reachable) : ∀ i ∈ o.bind f, i.Reachable := by
  intro i hi
  obtain ⟨a, -, ha⟩ := Option.bind_eq_some_iff.1 hi
  exact h a i ha

theorem reachable_of_ite {b : Bool} {o : Option Instant} (h : ∀ i ∈ o, i.Reachable) :
    ∀ i ∈ (if b then o else none), i.Reachable := by
  intro i hi
  split at hi
  · exact h i hi
  · cases hi

theorem reachable_of_orElse {o : Option Instant} {o' : Unit → Option Instant}
    (h : ∀ i ∈ o, i.Reachable) (h' : ∀ i ∈ o' (), i.Reachable) :
    ∀ i ∈ o.orElse o', i.Reachable := by
  cases o with
  | none => exact h'
  | some j => exact h

theorem reachable_of_readStrict? (cs : List Char) : ∀ i ∈ readStrict? cs, i.Reachable := by
  unfold readStrict?
  iterate 13 refine reachable_of_bind fun _ => ?_
  exact reachable_of_ite reachable_of_ofClock?

theorem reachable_of_readDay? (cs : List Char) : ∀ i ∈ readDay? cs, i.Reachable := by
  unfold readDay?
  exact reachable_of_bind fun _ => reachable_of_ite reachable_of_ofDate?

theorem reachable_of_readLocal? (joint : List Char → Option (List Char)) (cs : List Char) :
    ∀ i ∈ readLocal? joint cs, i.Reachable := by
  unfold readLocal?
  exact reachable_of_bind fun _ => reachable_of_bind fun _ => reachable_of_bind fun _ =>
    reachable_of_ite reachable_of_ofClock?

theorem reachable_of_readLenient? (cs : List Char) : ∀ i ∈ readLenient? cs, i.Reachable := by
  unfold readLenient?
  exact reachable_of_orElse (reachable_of_readStrict? cs) <|
    reachable_of_orElse (reachable_of_readDay? cs) <|
      reachable_of_orElse (reachable_of_readLocal? _ cs) (reachable_of_readLocal? _ cs)

end Instant

/-- **Whatever a value stands for is reachable**, a number of milliseconds and a text of any form. -/
theorem Value.reachable_of_instant? {v : Value} {i : Instant} (h : v.instant? = some i) : i.Reachable := by
  cases v with
  | null => cases h
  | bool b => cases h
  | number n =>
    unfold instant? at h
    exact Instant.reachable_of_ite Instant.reachable_of_filter i h
  | text s =>
    exact Instant.reachable_of_readLenient? _ i h

/-! ### Days between values -/

theorem Instant.sinceEpoch_ofDays (n : Int) :
    (ofSeconds (n * secondsPerDay)).sinceEpoch = n * nanosPerDay := by
  show n * 86400 * 1000000000 + 0 = n * 86400000000000
  omega

theorem Instant.daysApart_ofDays (m n : Int) :
    (ofSeconds (m * secondsPerDay)).daysApart (ofSeconds (n * secondsPerDay)) = (m - n).natAbs := by
  rw [daysApart, sinceEpoch_ofDays, sinceEpoch_ofDays, ← Int.sub_mul, Int.natAbs_mul]
  exact Nat.mul_div_cancel _ (by decide)

/-- A date that can be written with four digits, two and two. -/
def Date.IsPlain (d : Date) : Prop := d.isValid = true ∧ 0 ≤ d.year ∧ d.year ≤ 9999

namespace Value

def ofDate (d : Date) : Value := text (String.ofList d.text)

/-- **The days between two values**, a whole number exactly, whatever the clock shows. -/
def HasDays (a b : Value) (n : Nat) : Prop :=
  (∀ clock, Builtin.days.apply clock [a, b] = .ok (.number (.ofNat n)))
    ∧ (Magnitude.ofNat n).units = n * unitsPerOne

variable {a b : Value} {x y : Instant}

theorem days_apply (a b : Value) (clock : Instant) :
    Builtin.days.apply clock [a, b] = daysBetween a b := rfl

theorem instant_of_instant? (ha : a.instant? = some x) : a.instant = .ok x := by
  rw [instant, ha]

theorem instant_of_none (ha : a.instant? = none) : a.instant = .error (.invalidDate a.display) := by
  rw [instant, ha]

theorem hasDays (ha : a.instant? = some x) (hb : b.instant? = some y) (hx : x.isLeap = false)
    (hy : y.isLeap = false) : a.HasDays b (x.daysApart y) := by
  constructor
  · intro clock
    rw [days_apply, daysBetween, instant_of_instant? ha, instant_of_instant? hb,
      ← Instant.wholeDays_eq hx hy]
    rfl
  · have hle := Instant.natAbs_elapsedNanos_le (reachable_of_instant? ha) (reachable_of_instant? hb)
    have hsmall : x.daysApart y ≤ 200000002 := by
      rw [Instant.elapsedNanos_eq hx hy] at hle
      exact Nat.div_le_of_le_mul (Nat.mul_comm .. ▸ hle)
    exact (Magnitude.units_ofNat (Nat.lt_of_le_of_lt hsmall (by decide))).1

/-- **The laws of the days between three values** that stand for instants. -/
structure DaysLaws (a b c : Value) (x y z : Instant) : Prop where
  whole : a.HasDays b (x.daysApart y)
  comm : ∀ clock, Builtin.days.apply clock [a, b] = Builtin.days.apply clock [b, a]
  self : a.HasDays a 0
  /-- The two parts of a day that are dropped may make up another day. -/
  triangle : ∃ k m n, a.HasDays c k ∧ a.HasDays b m ∧ b.HasDays c n ∧ k ≤ m + n + 1
  within : Instant.checkedDays? x y = some (x.daysApart y)

theorem daysLaws {c : Value} {z : Instant} (ha : a.instant? = some x) (hb : b.instant? = some y)
    (hc : c.instant? = some z) (hx : x.isLeap = false) (hy : y.isLeap = false)
    (hz : z.isLeap = false) : DaysLaws a b c x y z where
  whole := hasDays ha hb hx hy
  comm clock := by
    rw [(hasDays ha hb hx hy).1, (hasDays hb ha hy hx).1, Instant.daysApart_comm]
  self := by
    have hdays := hasDays ha ha hx hx
    rwa [Instant.daysApart_self] at hdays
  triangle := ⟨_, _, _, hasDays ha hc hx hz, hasDays ha hb hx hy, hasDays hb hc hy hz,
    Instant.daysApart_le x y z⟩
  within := by
    rw [Instant.checkedDays?_eq (reachable_of_instant? ha) (reachable_of_instant? hb),
      Instant.wholeDays_eq hx hy]

theorem hasDays_ofDate {d e : Date} (hd : d.IsPlain) (he : e.IsPlain) :
    (ofDate d).HasDays (ofDate e) (d.toDays - e.toDays).natAbs := by
  have hdays := hasDays (instant?_dateText hd.2 hd.1) (instant?_dateText he.2 he.1) rfl rfl
  rwa [Instant.daysApart_ofDays] at hdays

end Value

/-- **Days between values**: the laws of those that stand for instants outside leap seconds, dates in their
order, and the error that names the first value that stands for none. -/
theorem Builtin.days_spec :
    (∀ {a b c : Value} {x y z : Instant}, a.instant? = some x → b.instant? = some y →
        c.instant? = some z → x.isLeap = false → y.isLeap = false → z.isLeap = false →
        Value.DaysLaws a b c x y z)
    ∧ (∀ {d e f : Date}, d.IsPlain → e.IsPlain → f.IsPlain → d.NotAfter e → e.NotAfter f →
        ∃ m n, (Value.ofDate d).HasDays (.ofDate e) m ∧ (Value.ofDate e).HasDays (.ofDate f) n
          ∧ (Value.ofDate d).HasDays (.ofDate f) (m + n))
    ∧ (∀ {a : Value}, a.instant? = none → ∀ (b : Value) (clock : Instant),
        days.apply clock [a, b] = .error (.invalidDate a.display))
    ∧ (∀ {a b : Value} {x : Instant}, a.instant? = some x → b.instant? = none →
        ∀ clock : Instant, days.apply clock [a, b] = .error (.invalidDate b.display)) := by
  refine ⟨Value.daysLaws, ?_, ?_, ?_⟩
  · intro d e f hd he hf hde hef
    have hfirst := Date.toDays_le_of_notAfter hd.1 he.1 hde
    have hsecond := Date.toDays_le_of_notAfter he.1 hf.1 hef
    refine ⟨_, _, Value.hasDays_ofDate hd he, Value.hasDays_ofDate he hf, ?_⟩
    have hsum : (d.toDays - e.toDays).natAbs + (e.toDays - f.toDays).natAbs
        = (d.toDays - f.toDays).natAbs := by omega
    rw [hsum]
    exact Value.hasDays_ofDate hd hf
  · intro a ha b clock
    rw [Value.days_apply, Value.daysBetween, Value.instant_of_none ha]
    rfl
  · intro a b x ha hb clock
    rw [Value.days_apply, Value.daysBetween, Value.instant_of_instant? ha, Value.instant_of_none hb]
    rfl

/-- An offset, milliseconds since 1970 and a date; plain dates around a leap day; and values that stand for
no instant. -/
theorem Builtin.days_spec_mixed_forms :
    Value.DaysLaws (.text "2024-01-01T00:30:00+02:00") (.number (.ofNat 1704067200000))
        (.text "2024-03-01") (.ofSeconds 1704061800) (.ofSeconds 1704067200) (.ofSeconds 1709251200)
      ∧ (∃ m n, (Value.ofDate ⟨2023, 12, 31⟩).HasDays (.ofDate ⟨2024, 2, 29⟩) m
          ∧ (Value.ofDate ⟨2024, 2, 29⟩).HasDays (.ofDate ⟨2024, 3, 1⟩) n
          ∧ (Value.ofDate ⟨2023, 12, 31⟩).HasDays (.ofDate ⟨2024, 3, 1⟩) (m + n))
      ∧ (∀ clock, days.apply clock [.bool true, .null] = .error (.invalidDate "true"))
      ∧ ∀ clock, days.apply clock [.text "2024-03-01", .text "soon"] = .error (.invalidDate "soon") := by
  refine ⟨?_, ?_, ?_, ?_⟩
  · exact days_spec.1 (by decide +kernel) (by decide +kernel) (by decide +kernel) rfl rfl rfl
  · exact days_spec.2.1 ⟨rfl, by decide, by decide⟩ ⟨rfl, by decide, by decide⟩
      ⟨rfl, by decide, by decide⟩ (.inl (by decide)) (.inr ⟨rfl, .inl (by decide)⟩)
  · exact days_spec.2.2.1 rfl .null
  · have haccepted : (Value.text "2024-03-01").instant? = some (.ofSeconds 1709251200) := by
      decide +kernel
    exact days_spec.2.2.2 haccepted (by decide +kernel)

end Fieldbook
