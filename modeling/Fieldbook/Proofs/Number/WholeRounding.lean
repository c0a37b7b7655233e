import Fieldbook.Formula.Apply
import Fieldbook.Proofs.Number.Order
import Fieldbook.Proofs.Number.PowersOfTen

/-!
# Rounding whole numbers to places

A number is rounded to places by scaling it with a power of ten, adding a half, cutting to a whole number
and scaling back, and each of these steps is itself rounded.  So a whole number is not kept in all cases.
From `2 ^ 52` on no number is in the middle between two whole ones, and a half takes an odd one to the
next even one (`Magnitude.whole_addHalf_of_le`).  Scaling there and back takes two roundings
(`Magnitude.close_quotient_times`); it leads to infinity where the product is infinite, and to not a
number where the power is.

`Number.RoundsWhole` lists what may come of a whole number, and `Builtin.round_whole` says that the function
keeps to it.  A result is finite exactly if the scaled number is (`Number.isFinite_roundTo`), and a number
is kept where scaling is exact (`Number.roundTo_equal_self`).
-/

namespace Fieldbook

theorem unitsPerOne_eq_two_mul : unitsPerOne = 2 * twoTo 1073 := twoTo_succ 1073

theorem roundHalfEven_add (steps : Nat) {rest den : Nat} (h : rest < den) :
    roundHalfEven (steps * den + rest) den
      = if 2 * rest < den ∨ 2 * rest = den ∧ steps % 2 = 0 then steps else steps + 1 := by
  have hlow : (steps * den + rest) / den = steps := by
    rw [Nat.mul_comm, Nat.mul_add_div (Nat.zero_lt_of_lt h), Nat.div_eq_of_lt h, Nat.add_zero]
  have hrest : (steps * den + rest) % den = rest := by
    rw [Nat.mul_comm, Nat.mul_add_mod, Nat.mod_eq_of_lt h]
  rw [roundHalfEven, hlow, hrest]

namespace Magnitude

variable {m : Magnitude}

/-! ### Whole numbers and a half -/

theorem units_eq_whole_mul (h : m.isWhole = true) : m.units = m.whole * unitsPerOne := by
  have hrest : m.units % unitsPerOne = 0 := beq_iff_eq.1 h
  exact (Nat.div_mul_cancel (Nat.dvd_of_mod_eq_zero hrest)).symm

theorem isWhole_of_dvd (h : unitsPerOne ∣ m.units) : m.isWhole = true :=
  beq_iff_eq.2 (Nat.mod_eq_zero_of_dvd h)

theorem ofNat_whole (h : m.isWhole = true) : ofNat m.whole = m := by
  have hself := nearest_units m Nat.one_pos
  rw [Nat.mul_one] at hself
  rw [ofNat, ← units_eq_whole_mul h, hself]

/-- A normal magnitude is so many steps of its binade. -/
theorem exists_steps_eq (h : binade ≤ m.place) :
    ∃ steps shift, binade ≤ steps ∧ steps < 2 * binade ∧ m.place = shift * binade + steps
      ∧ m.units = steps * twoTo shift := by
  have hstep := Nat.mod_lt m.place binade_pos
  have hplace := Nat.div_add_mod m.place binade
  obtain ⟨shift, hshift⟩ := Nat.exists_eq_add_of_le' (Nat.div_pos h binade_pos)
  refine ⟨binade + m.place % binade, m.place / binade - 1, by omega, by omega, ?_, units_of_le h⟩
  rw [hshift, Nat.mul_add, Nat.mul_one, Nat.mul_comm] at hplace
  rw [hshift, Nat.add_sub_cancel]
  omega

theorem shift_steps {steps shift rest : Nat} (hlow : binade ≤ steps) (hhigh : steps < 2 * binade)
    (hrest : rest < twoTo shift) : Magnitude.shift (steps * twoTo shift + rest) 1 = shift := by
  have hfirst : twoTo (52 + shift) ≤ steps * twoTo shift + rest := by
    rw [twoTo_add]
    exact Nat.le_add_right_of_le (Nat.mul_le_mul_right _ hlow)
  have hlast : steps * twoTo shift + rest < twoTo (52 + shift + 1) :=
    calc steps * twoTo shift + rest < steps * twoTo shift + twoTo shift := Nat.add_lt_add_left hrest _
      _ = (steps + 1) * twoTo shift := (Nat.succ_mul steps _).symm
      _ ≤ twoTo 53 * twoTo shift := Nat.mul_le_mul_right _ hhigh
      _ = twoTo (52 + shift + 1) := by
          rw [← twoTo_add]
          congr 1
          omega
  have hne : steps * twoTo shift + rest ≠ 0 :=
    Nat.ne_of_gt (Nat.lt_of_lt_of_le (twoTo_pos _) hfirst)
  rw [Magnitude.shift, Nat.div_one, (Nat.log2_eq_iff hne).2 ⟨hfirst, hlast⟩]
  omega

/-- **A magnitude and a half**, rounded. -/
def addHalf (m : Magnitude) : Magnitude := nearest (m.units + twoTo 1073) 1

/-- **Below `2 ^ 52` nothing is lost.** -/
theorem whole_addHalf_of_lt (hwhole : m.isWhole = true) (h : m.whole < twoTo 52) :
    m.addHalf.isFinite = true ∧ m.addHalf.whole = m.whole := by
  have hnum : m.units + twoTo 1073 = twoTo 1073 * (2 * m.whole + 1) := by
    rw [units_eq_whole_mul hwhole, unitsPerOne_eq_two_mul]
    generalize twoTo 1073 = half
    ring
  have hlt : m.units + twoTo 1073 < twoTo (53 + 1073) * 1 := by
    rw [hnum, Nat.mul_one, twoTo_add, Nat.mul_comm]
    refine Nat.mul_lt_mul_of_pos_right ?_ (twoTo_pos _)
    rw [show twoTo 53 = 2 * twoTo 52 from rfl]
    omega
  have hfinite : m.addHalf.isFinite = true :=
    isFinite_nearest Nat.one_pos
      (Nat.lt_of_lt_of_le hlt (Nat.mul_le_mul_right 1 (twoTo_le_overflow (by decide))))
  have hunits : m.addHalf.units = m.units + twoTo 1073 :=
    units_nearest_of_dvd ⟨_, hnum⟩ (shift_le Nat.one_pos hlt) hfinite
  have hhalf : twoTo 1073 < unitsPerOne := twoTo_lt (by decide)
  refine ⟨hfinite, ?_⟩
  rw [whole, hunits, units_eq_whole_mul hwhole, Nat.mul_comm, Nat.mul_add_div unitsPerOne_pos,
    Nat.div_eq_of_lt hhalf, Nat.add_zero]

theorem exists_steps_of_le (hwhole : m.isWhole = true) (h : twoTo 52 ≤ m.whole) :
    ∃ steps shift, 1074 ≤ shift ∧ binade ≤ steps ∧ steps < 2 * binade
      ∧ m.place = shift * binade + steps ∧ m.units = steps * twoTo shift := by
  have hunits := units_eq_whole_mul hwhole
  have hle : twoTo 52 * twoTo 1074 ≤ m.units := by
    rw [hunits, unitsPerOne_eq]
    exact Nat.mul_le_mul_right _ h
  have hplace : binade ≤ m.place := by
    refine Nat.le_of_not_lt fun hlt => ?_
    rw [units_of_lt hlt] at hle
    exact Nat.not_lt.2 (Nat.le_trans (Nat.le_mul_of_pos_right _ (twoTo_pos 1074)) hle) hlt
  obtain ⟨steps, shift, hlow, hhigh, hsteps, hbinade⟩ := exists_steps_eq hplace
  refine ⟨steps, shift, Nat.le_of_not_lt fun hlt => ?_, hlow, hhigh, hsteps, hbinade⟩
  have hgt : m.units < twoTo (53 + shift) := by
    rw [twoTo_add, hbinade]
    exact Nat.mul_lt_mul_of_pos_right hhigh (twoTo_pos _)
  have hmono : twoTo (53 + shift) ≤ twoTo (52 + 1074) := twoTo_le (by omega)
  rw [twoTo_add 52] at hmono
  omega

/-- **From `2 ^ 52` on** an odd number becomes the next even one, and all others are kept. -/
theorem whole_addHalf_of_le (hfinite : m.isFinite = true) (hwhole : m.isWhole = true)
    (h : twoTo 52 ≤ m.whole) :
    m.addHalf.isFinite = true ∧ m.addHalf.isWhole = true
      ∧ m.addHalf.whole = m.whole + m.whole % 2 := by
  obtain ⟨steps, shift, hshift, hlow, hhigh, hplace, hunits⟩ := exists_steps_of_le hwhole h
  have hrest : twoTo 1073 < twoTo shift := twoTo_lt hshift
  have hadd : m.addHalf = ofPlace (shift * binade + roundHalfEven (steps * twoTo shift + twoTo 1073)
      (twoTo shift)) := by
    rw [addHalf, hunits, nearest_eq, Magnitude.steps, shift_steps hlow hhigh hrest, Nat.one_mul]
  rw [roundHalfEven_add steps hrest] at hadd
  rcases Nat.eq_or_lt_of_le hshift with rfl | hlarge
  · -- The steps are one, and the half is in the middle of a step.
    have hmiddle : 2 * twoTo 1073 = twoTo 1074 := (twoTo_succ 1073).symm
    have hself : m.whole = steps := by
      refine Nat.eq_of_mul_eq_mul_right unitsPerOne_pos ?_
      rw [← units_eq_whole_mul hwhole, hunits, unitsPerOne_eq]
    have heven : m.addHalf = ofPlace (1074 * binade + (steps + steps % 2)) := by
      rw [hadd, hmiddle]
      rcases Nat.mod_two_eq_zero_or_one steps with hbit | hbit
      · rw [if_pos (.inr ⟨rfl, hbit⟩), hbit, Nat.add_zero]
      · rw [if_neg (by omega), hbit]
    have hsteps : steps + steps % 2 ≤ 2 * binade := by
      unfold binade twoTo at hhigh ⊢
      omega
    have hbelow : 1074 * binade + (steps + steps % 2) < infinitePlace := by
      unfold infinitePlace
      omega
    have hunits' : (ofPlace (1074 * binade + (steps + steps % 2))).units
        = (steps + steps % 2) * unitsPerOne :=
      units_ofPlace hsteps (.inr (by omega)) (Nat.le_of_lt hbelow)
    rw [heven, hself]
    refine ⟨isFinite_ofPlace.2 hbelow, isWhole_of_dvd ⟨_, hunits'.trans (Nat.mul_comm _ _)⟩, ?_⟩
    rw [whole, hunits', Nat.mul_div_cancel _ unitsPerOne_pos]
  · -- The steps are two or more, and less than half a step is lost.
    obtain ⟨rest, rfl⟩ := Nat.exists_eq_add_of_le' hlarge
    have hless : 2 * twoTo 1073 < twoTo (rest + 1075) := by
      rw [← twoTo_succ]
      exact twoTo_lt (by omega)
    have hkept : m.addHalf = m := by
      rw [hadd, if_pos (.inl hless), ← hplace, ofPlace_place]
    have heven : m.whole = 2 * (steps * twoTo rest) := by
      refine Nat.eq_of_mul_eq_mul_right unitsPerOne_pos ?_
      rw [← units_eq_whole_mul hwhole, hunits, unitsPerOne_eq, twoTo_add rest, twoTo_succ 1074]
      ring
    rw [hkept, heven, Nat.mul_mod_right, Nat.add_zero]
    exact ⟨hfinite, hwhole, rfl⟩

/-- **Small numbers and even numbers are kept.** -/
theorem ofNat_whole_addHalf (hfinite : m.isFinite = true) (hwhole : m.isWhole = true)
    (h : m.whole < twoTo 52 ∨ m.whole % 2 = 0) :
    m.addHalf.isFinite = true ∧ ofNat m.addHalf.whole = m := by
  have hself := ofNat_whole hwhole
  rcases Nat.lt_or_ge m.whole (twoTo 52) with hsmall | hlarge
  · obtain ⟨hsum, hkept⟩ := whole_addHalf_of_lt hwhole hsmall
    exact ⟨hsum, by rw [hkept, hself]⟩
  · obtain ⟨hsum, -, hkept⟩ := whole_addHalf_of_le hfinite hwhole hlarge
    have heven : m.whole % 2 = 0 := h.resolve_left (Nat.not_lt.2 hlarge)
    exact ⟨hsum, by rw [hkept, heven, Nat.add_zero, hself]⟩

/-! ### Scaling back -/

/-- **The quotient of magnitudes**, the second of which is not zero. -/
def quotient (m n : Magnitude) : Magnitude := nearest (m.units * unitsPerOne) n.units

/-- **A whole number that is scaled** by a power of ten is whole and even, the first power apart. -/
theorem isWhole_times {k : Nat} {p : Magnitude} (hwhole : m.isWhole = true)
    (hnear : NearPower 1 k p) (hk : k ≠ 0) (hscaled : (m.times p).isFinite = true) :
    (m.times p).isWhole = true ∧ (m.times p).whole % 2 = 0 := by
  obtain ⟨-, hp, heq⟩ := isFinite_of_times hscaled
  obtain ⟨b, hb⟩ := hnear.even hp hk
  have hofNat : m.times p = ofNat (m.whole * (2 * b)) := by
    rw [heq, hb, units_eq_whole_mul hwhole, Nat.mul_right_comm 2, nearest_mul_whole]
  rw [hofNat] at hscaled ⊢
  obtain ⟨c, hc⟩ := two_dvd_units_ofNat hscaled (Nat.dvd_mul_left_of_dvd (Nat.dvd_mul_right 2 b) _)
  refine ⟨isWhole_of_dvd (dvd_units_ofNat hscaled), ?_⟩
  rw [whole, hc, Nat.mul_right_comm, Nat.mul_div_cancel _ unitsPerOne_pos, Nat.mul_mod_right]

variable {k : Nat} {p : Magnitude}

theorem units_of_nearPower_zero (hnear : NearPower 1 0 p) :
    p.isFinite = true ∧ p.units = unitsPerOne := by
  obtain ⟨hp, hunits⟩ := hnear.exact (by decide)
  have hten : tenTo 0 = 1 := rfl
  exact ⟨hp, by rw [hunits, hten, Nat.one_mul]⟩

theorem times_of_nearPower_zero (hfinite : m.isFinite = true) (hnear : NearPower 1 0 p) :
    m.times p = m := by
  obtain ⟨hp, hone⟩ := units_of_nearPower_zero hnear
  rw [times_of_isFinite hfinite hp, hone, nearest_units m unitsPerOne_pos]

/-- **An exact product is scaled back.** -/
theorem quotient_times_of_lt (hfinite : m.isFinite = true) (hwhole : m.isWhole = true)
    (hnear : NearPower 1 k p) (hpos : 0 < m.whole) (h : m.whole * tenTo k < twoTo 53) :
    (m.times p).isFinite = true ∧ (m.times p).quotient p = m := by
  obtain ⟨hp, hpunits⟩ := hnear.exact (Nat.lt_of_le_of_lt (Nat.le_mul_of_pos_left _ hpos) h)
  have heq : m.times p = ofNat (m.whole * tenTo k) := by
    rw [times_of_isFinite hfinite hp, hpunits, units_eq_whole_mul hwhole, nearest_mul_whole]
  obtain ⟨hunits, hscaled⟩ := units_ofNat h
  rw [heq]
  refine ⟨hscaled, ?_⟩
  have hback : (ofNat (m.whole * tenTo k)).quotient p = ofNat m.whole := by
    have hden : 0 < tenTo k * unitsPerOne := Nat.mul_pos (tenTo_pos k) unitsPerOne_pos
    rw [quotient, hunits, hpunits, ofNat]
    refine nearest_congr hden Nat.one_pos ?_
    ring
  rw [hback, ofNat_whole hwhole]

theorem units_le_times (hm : unitsPerOne ≤ m.units) (hp : unitsPerOne ≤ p.units)
    (hscaled : (m.times p).isFinite = true) : p.units ≤ 2 * (m.times p).units := by
  have hproduct := close_times hm hp hscaled
  have hle : p.value ≤ 2 * (m.times p).value :=
    calc p.value ≤ m.value * p.value := le_mul_of_one_le_left p.value_nonneg (one_le_value hm)
      _ ≤ 2 * (m.times p).value :=
          (hproduct.le_two_mul (by decide) (value_nonneg _) (mul_nonneg m.value_nonneg p.value_nonneg)).1
  unfold value at hle
  rw [← mul_div_assoc, div_le_div_iff_of_pos_right (Nat.cast_pos.2 unitsPerOne_pos)] at hle
  exact_mod_cast hle

theorem isFinite_quotient (hfinite : m.isFinite = true) (hp : 2 * unitsPerOne ≤ p.units) :
    (m.quotient p).isFinite = true := by
  have hpos : 0 < p.units := Nat.lt_of_lt_of_le (Nat.mul_pos Nat.two_pos unitsPerOne_pos) hp
  refine isFinite_nearest hpos ?_
  calc m.units * unitsPerOne
      < twoTo 2098 * unitsPerOne := Nat.mul_lt_mul_of_pos_right (units_lt_of_isFinite hfinite) unitsPerOne_pos
    _ = twoTo 2097 * (2 * unitsPerOne) := by
        rw [show 2098 = 2097 + 1 from rfl, twoTo_succ, Nat.mul_comm 2, Nat.mul_assoc]
    _ ≤ overflow * p.units := Nat.mul_le_mul (twoTo_le_overflow (Nat.le_refl _)) hp

/-- **A quotient is off by one rounding.** -/
theorem close_quotient_of_le (hpos : 0 < p.units) (hle : p.units ≤ 2 * m.units)
    (hfinite : (m.quotient p).isFinite = true) : Close 1 (m.quotient p).value (m.value / p.value) := by
  have hone : (unitsPerOne : ℚ) ≠ 0 := Nat.cast_ne_zero.2 (Nat.ne_of_gt unitsPerOne_pos)
  have hunits : (p.units : ℚ) ≠ 0 := Nat.cast_ne_zero.2 (Nat.ne_of_gt hpos)
  have hlarge : twoTo 52 * p.units ≤ m.units * unitsPerOne :=
    calc twoTo 52 * p.units ≤ twoTo 1073 * (2 * m.units) := Nat.mul_le_mul (twoTo_le (by decide)) hle
      _ = m.units * unitsPerOne := by
          rw [unitsPerOne_eq_two_mul, Nat.mul_left_comm, Nat.mul_left_comm m.units, Nat.mul_comm m.units]
  refine close_value hpos hfinite (.inr hlarge) ?_
  unfold value
  rw [Nat.cast_mul]
  field_simp

/-- **A finite product is scaled back** to a finite number, two roundings off. -/
theorem close_quotient_times (hwhole : m.isWhole = true) (hnear : NearPower 1 k p) (hk : k ≠ 0)
    (hpos : 0 < m.whole) (hscaled : (m.times p).isFinite = true) :
    ((m.times p).quotient p).isFinite = true ∧ Close 2 ((m.times p).quotient p).value m.whole := by
  obtain ⟨-, hp, -⟩ := isFinite_of_times hscaled
  have hunits := units_eq_whole_mul hwhole
  have hone : unitsPerOne ≤ m.units := by
    rw [hunits]
    exact Nat.le_mul_of_pos_left _ hpos
  have hppos : 0 < p.units := Nat.lt_of_lt_of_le unitsPerOne_pos hnear.le_units
  have hpvalue : 0 < p.value := zero_lt_one.trans_le (one_le_value hnear.le_units)
  have hback := isFinite_quotient hscaled (Nat.le_of_dvd hppos (hnear.even hp hk))
  have hquotient := close_quotient_of_le hppos (units_le_times hone hnear.le_units hscaled) hback
  have hproduct : Close 1 ((m.times p).value / p.value) m.whole := by
    have hdivided := (close_times hone hnear.le_units hscaled).mul_left (one_div_pos.2 hpvalue).le
    rwa [value_eq_of_units hunits, one_div_mul_eq_div, mul_left_comm, one_div_mul_cancel hpvalue.ne',
      mul_one] at hdivided
  exact ⟨hback, hquotient.trans hproduct⟩

end Magnitude

namespace Number

open Magnitude

variable {m p : Magnitude} {negative : Bool} {places : Nat}

/-! ### Steps of rounding -/

theorem signed_add_signed {n : Magnitude} (hm : m.isFinite = true) (hn : n.isFinite = true)
    (hpos : 0 < n.units) (negative : Bool) :
    signed negative m + signed negative n = signed negative (nearest (m.units + n.units) 1) := by
  show Number.add _ _ = _
  cases negative with
  | false =>
    have hsum : signedUnits false m + signedUnits false n = (m.units + n.units : Nat) := by
      simp only [signedUnits, Bool.false_eq_true, if_false]
      omega
    simp only [Number.add, hm, hn, hsum, Bool.not_true, Bool.false_eq_true, if_false]
    rw [if_neg (by omega), Int.natAbs_natCast, decide_eq_false (by omega)]
  | true =>
    have hsum : signedUnits true m + signedUnits true n = -(m.units + n.units : Nat) := by
      simp only [signedUnits, if_true]
      omega
    simp only [Number.add, hm, hn, hsum, Bool.not_true, Bool.false_eq_true, if_false]
    rw [if_neg (by omega), Int.natAbs_neg, Int.natAbs_natCast, decide_eq_true (by omega)]

def halfMagnitude : Magnitude := .ofPlace (1022 * binade)

theorem half_eq : (1 / 2 : Number) = signed false halfMagnitude := by decide +kernel

theorem units_half : halfMagnitude.units = twoTo 1073 := by decide +kernel

theorem signed_add_half (h : m.isFinite = true) (negative : Bool) :
    signed negative m + signed negative halfMagnitude = signed negative m.addHalf := by
  have hpos : 0 < halfMagnitude.units := by
    rw [units_half]
    exact twoTo_pos _
  rw [signed_add_signed h (by decide) hpos, units_half]
  rfl

theorem zero_eq : (0 : Number) = zero := by decide +kernel

theorem zero_lessEq (m : Magnitude) : lessEq 0 (signed false m) = true := by
  rw [zero_eq]
  exact decide_eq_true (Int.natCast_nonneg m.place)

theorem zero_not_lessEq (h : m.isZero = false) : lessEq 0 (signed true m) = false := by
  have hne : m.place ≠ 0 := beq_eq_false_iff_ne.1 h
  rw [zero_eq]
  refine decide_eq_false ?_
  show ¬ ((0 : Int) ≤ -(m.place : Int))
  omega

/-- **A number that is not zero is rounded by its magnitude.** -/
theorem roundTo_signed (hzero : m.isZero = false) (hpower : powerOfTen places = signed false p)
    (hp : p.isZero = false) (hscaled : (m.times p).isFinite = true)
    (hsum : (m.times p).addHalf.isFinite = true) (negative : Bool) :
    roundTo (signed negative m) places
      = signed negative (.ofNat (m.times p).addHalf.whole) / signed false p := by
  have hscale : signed negative m * signed false p = signed negative (m.times p) := by
    rw [signed_mul_signed hzero hp, Bool.bne_false]
  rw [roundTo, hpower, hscale, half_eq]
  cases negative with
  | false =>
    rw [zero_lessEq, if_pos rfl, signed_add_half hscaled]
    simp only [floor, mapWhole, hsum, if_true, Bool.false_eq_true, if_false]
  | true =>
    show (if lessEq 0 (signed true m) = true then _
      else (signed true (m.times p) + signed true halfMagnitude).ceil / _) = _
    rw [zero_not_lessEq hzero, if_neg Bool.false_ne_true, signed_add_half hscaled]
    simp only [ceil, mapWhole, hsum, if_true]

theorem roundTo_of_infinite (hzero : m.isZero = false) (hpower : powerOfTen places = signed false p)
    (hp : p.isZero = false) (hscaled : (m.times p).isFinite = false) (negative : Bool) :
    roundTo (signed negative m) places = signed negative .infinite / signed false p := by
  have hscale : signed negative m * signed false p = signed negative .infinite := by
    rw [signed_mul_signed hzero hp, Bool.bne_false, eq_infinite_of_isFinite_eq_false hscaled]
  rw [roundTo, hpower, hscale, half_eq]
  cases negative with
  | false =>
    rw [zero_lessEq, if_pos rfl]
    rfl
  | true =>
    rw [zero_not_lessEq hzero, if_neg Bool.false_ne_true]
    rfl

theorem signed_div_signed (hm : m.isFinite = true) (hfinite : p.isFinite = true)
    (hp : p.isZero = false) (negative : Bool) :
    signed negative m / signed false p = signed negative (m.quotient p) := by
  show Number.div _ _ = _
  simp only [Number.div, hm, hfinite, hp, quotient, Bool.not_true, Bool.false_eq_true, if_false, Bool.bne_false]

theorem infinite_div_signed (hfinite : p.isFinite = true) (negative : Bool) :
    signed negative .infinite / signed false p = signed negative .infinite := by
  have hinfinite : infinite.isFinite = false := by decide
  show Number.div _ _ = _
  simp only [Number.div, hfinite, hinfinite, Bool.not_false, if_true, Bool.bne_false]

theorem roundTo_of_le (hplaces : 309 ≤ places) (negative : Bool) (m : Magnitude) :
    roundTo (signed negative m) places = nan := by
  have hpower := powerOfTen_of_le hplaces
  cases hzero : m.isZero with
  | true =>
    have hscale : signed negative .zero * infinity = nan := by cases negative <;> decide
    rw [eq_zero_of_isZero hzero, roundTo, hpower, hscale, half_eq]
    split
    · rfl
    · rfl
  | false =>
    have hscaled : (m.times .infinite).isFinite = false := by
      rw [times, show infinite.isFinite = false from rfl, Bool.and_false, if_neg Bool.false_ne_true]
      rfl
    rw [roundTo_of_infinite hzero hpower (by decide) hscaled]
    cases negative <;> decide

theorem nearest_zero {den : Nat} (hden : 0 < den) : nearest 0 den = .zero := by
  have hzero : Magnitude.zero.units = 0 := units_eq_zero_iff.2 rfl
  have hself := nearest_units .zero hden
  rwa [hzero, Nat.zero_mul] at hself

theorem zero_mul_signed (hfinite : p.isFinite = true) (negative : Bool) :
    signed negative .zero * signed false p = signed negative .zero := by
  have hnone : Magnitude.zero.isFinite = true := by decide
  have hzero : Magnitude.zero.units = 0 := units_eq_zero_iff.2 rfl
  show Number.mul _ _ = _
  simp only [Number.mul, hfinite, hnone, hzero, Bool.and_self, if_true, Bool.bne_false, Nat.zero_mul,
    nearest_zero unitsPerOne_pos]

theorem roundTo_zero (hpower : powerOfTen places = signed false p) (hfinite : p.isFinite = true)
    (hp : p.isZero = false) (negative : Bool) : roundTo (signed negative .zero) places = zero := by
  have hzero : Magnitude.zero.units = 0 := units_eq_zero_iff.2 rfl
  have hpos : 0 < p.units := Nat.pos_of_ne_zero fun hnone => by
    rw [units_eq_zero_iff.1 hnone] at hp
    cases hp
  have hless : lessEq 0 (signed negative .zero) = true := by cases negative <;> decide +kernel
  have hcut : (signed negative .zero + 1 / 2).floor = zero := by cases negative <;> decide +kernel
  rw [roundTo, hpower, zero_mul_signed hfinite, hless, if_pos rfl, hcut, zero,
    signed_div_signed (by decide) hfinite hp, quotient, hzero, Nat.zero_mul, nearest_zero hpos]

/-- **Scaled and scaled back**, and nothing between. -/
theorem roundTo_of_isFinite (hwhole : m.isWhole = true) (hzero : m.isZero = false)
    (hpower : powerOfTen places = signed false p) (hnear : NearPower 1 places p) (hplaces : places ≠ 0)
    (hscaled : (m.times p).isFinite = true) (negative : Bool) :
    roundTo (signed negative m) places = signed negative ((m.times p).quotient p) := by
  have hp := hnear.isZero_eq_false
  obtain ⟨hproduct, heven⟩ := isWhole_times hwhole hnear hplaces hscaled
  obtain ⟨hsum, hkept⟩ := ofNat_whole_addHalf hscaled hproduct (.inr heven)
  rw [roundTo_signed hzero hpower hp hscaled hsum, hkept,
    signed_div_signed hscaled (isFinite_of_times hscaled).2.1 hp]

/-- **Rounded to no places**, a number is only added a half and cut. -/
theorem roundTo_no_places (hfinite : m.isFinite = true) (hzero : m.isZero = false)
    (hsum : m.addHalf.isFinite = true) (hcut : (Magnitude.ofNat m.addHalf.whole).isFinite = true)
    (negative : Bool) :
    roundTo (signed negative m) (0 : Nat) = signed negative (.ofNat m.addHalf.whole) := by
  obtain ⟨p, hpower, hnear⟩ := exists_powerOfTen_eq 0
  obtain ⟨hp, hone⟩ := units_of_nearPower_zero hnear
  have hscaled := times_of_nearPower_zero hfinite hnear
  rw [← hscaled] at hsum hfinite
  rw [roundTo_signed hzero hpower hnear.isZero_eq_false hfinite hsum, hscaled,
    signed_div_signed hcut hp hnear.isZero_eq_false, quotient, hone, nearest_units _ unitsPerOne_pos]

/-! ### Every whole number -/

/-- **What rounding to places makes of a whole number**, one rule for each thing that can happen. -/
inductive RoundsWhole (negative : Bool) (m : Magnitude) (places : Nat) : Number → Prop
  /-- A power that is infinite leaves nothing. -/
  | undefined : 309 ≤ places → RoundsWhole negative m places nan
  /-- What is scaled to infinity stays there. -/
  | infinite : places ≤ 308 → (signed negative m * powerOfTen places).isFinite = false →
      RoundsWhole negative m places (signed negative .infinite)
  | zero : (signed negative m * powerOfTen places).isFinite = true → m.whole = 0 →
      RoundsWhole negative m places zero
  /-- To no places, most numbers are kept, -/
  | kept : (signed negative m * powerOfTen places).isFinite = true → m.whole ≠ 0 → places = 0 →
      m.whole < twoTo 52 ∨ m.whole % 2 = 0 → RoundsWhole negative m places (signed negative m)
  /-- but a large odd number becomes the next even one. -/
  | next : (signed negative m * powerOfTen places).isFinite = true → places = 0 →
      twoTo 52 ≤ m.whole → m.whole % 2 = 1 → (Magnitude.ofNat (m.whole + 1)).isFinite = true →
      RoundsWhole negative m places (signed negative (.ofNat (m.whole + 1)))
  /-- To places, two roundings are made where scaling is not exact. -/
  | scaled {q : Magnitude} : (signed negative m * powerOfTen places).isFinite = true → m.whole ≠ 0 →
      places ≠ 0 → q.isFinite = true → Close 2 q.value m.whole →
      (m.whole * tenTo places < twoTo 53 → q = m) → RoundsWhole negative m places (signed negative q)

theorem whole_eq_zero_iff (hwhole : m.isWhole = true) : m.whole = 0 ↔ m.isZero = true := by
  rw [← units_eq_zero_iff, units_eq_whole_mul hwhole, Nat.mul_eq_zero,
    or_iff_left (Nat.ne_of_gt unitsPerOne_pos)]

/-- **Every whole number is rounded so.** -/
theorem roundTo_whole (hfinite : m.isFinite = true) (hwhole : m.isWhole = true) (negative : Bool)
    (places : Nat) : RoundsWhole negative m places (roundTo (signed negative m) places) := by
  obtain ⟨p, hpower, hnear⟩ := exists_powerOfTen_eq places
  have hp := hnear.isZero_eq_false
  rcases Nat.lt_or_ge 308 places with hplaces | hplaces
  · rw [roundTo_of_le hplaces]
    exact .undefined hplaces
  have hpfinite := isFinite_powerOfTen hnear hplaces
  cases hzero : m.isZero with
  | true =>
    obtain rfl := eq_zero_of_isZero hzero
    have hscaled : (signed negative .zero * powerOfTen places).isFinite = true := by
      rw [hpower, zero_mul_signed hpfinite]
      rfl
    rw [roundTo_zero hpower hpfinite hp]
    exact .zero hscaled ((whole_eq_zero_iff hwhole).2 hzero)
  | false =>
    have hne : m.whole ≠ 0 := by
      rw [Ne, whole_eq_zero_iff hwhole, hzero]
      exact Bool.false_ne_true
    have hscale : (signed negative m * powerOfTen places).isFinite = (m.times p).isFinite := by
      rw [hpower, signed_mul_signed hzero hp]
      rfl
    by_cases hnone : places = 0
    · subst hnone
      have hscaled : (m.times p).isFinite = true := by rw [times_of_nearPower_zero hfinite hnear, hfinite]
      by_cases hkept : m.whole < twoTo 52 ∨ m.whole % 2 = 0
      · obtain ⟨hsum, hself⟩ := ofNat_whole_addHalf hfinite hwhole hkept
        rw [roundTo_no_places hfinite hzero hsum (by rw [hself]; exact hfinite), hself]
        exact .kept (hscale.trans hscaled) hne rfl hkept
      · obtain ⟨hlarge, hodd⟩ : twoTo 52 ≤ m.whole ∧ m.whole % 2 = 1 := by omega
        obtain ⟨hsum, hcut, hnext⟩ := whole_addHalf_of_le hfinite hwhole hlarge
        have hself := ofNat_whole hcut
        rw [roundTo_no_places hfinite hzero hsum (by rw [hself]; exact hsum), hnext, hodd]
        rw [hnext, hodd] at hself
        exact .next (hscale.trans hscaled) rfl hlarge hodd (by rw [hself]; exact hsum)
    · cases hscaled : (m.times p).isFinite with
      | false =>
        rw [roundTo_of_infinite hzero hpower hp hscaled, infinite_div_signed hpfinite]
        exact .infinite hplaces (hscale.trans hscaled)
      | true =>
        have hpos := Nat.pos_of_ne_zero hne
        obtain ⟨hback, hclose⟩ := close_quotient_times hwhole hnear hnone hpos hscaled
        rw [roundTo_of_isFinite hwhole hzero hpower hnear hnone hscaled]
        exact .scaled (hscale.trans hscaled) hne hnone hback hclose
          fun hexact => (quotient_times_of_lt hfinite hwhole hnear hpos hexact).2

theorem isFinite_mul_infinity (x : Number) : (x * infinity).isFinite = false := by
  have hinfinite : infinite.isFinite = false := by decide
  cases x with
  | nan => rfl
  | signed negative m =>
    show (Number.mul _ (signed false .infinite)).isFinite = false
    simp only [Number.mul, hinfinite, Bool.and_false, Bool.false_eq_true, if_false]
    split
    · rfl
    · exact hinfinite

/-- **The result is finite exactly if the scaled number is.** -/
theorem isFinite_roundTo (hfinite : m.isFinite = true) (hwhole : m.isWhole = true) (negative : Bool)
    (places : Nat) : (roundTo (signed negative m) places).isFinite
      = (signed negative m * powerOfTen places).isFinite := by
  have hrounds := roundTo_whole hfinite hwhole negative places
  generalize roundTo (signed negative m) places = r at hrounds ⊢
  cases hrounds with
  | undefined hplaces =>
    rw [powerOfTen_of_le hplaces, isFinite_mul_infinity]
    rfl
  | infinite _ hscaled => exact hscaled.symm
  | zero hscaled => exact hscaled.symm
  | kept hscaled => exact hfinite.trans hscaled.symm
  | next hscaled _ _ _ hnext => exact hnext.trans hscaled.symm
  | scaled hscaled _ _ hback => exact hback.trans hscaled.symm

theorem isFinite_scaled_of_lt (hfinite : m.isFinite = true) (hwhole : m.isWhole = true)
    (negative : Bool) {places : Nat} (hplaces : places ≤ 308)
    (hexact : m.whole * tenTo places < twoTo 53) :
    (signed negative m * powerOfTen places).isFinite = true := by
  obtain ⟨p, hpower, hnear⟩ := exists_powerOfTen_eq places
  rw [hpower]
  cases hzero : m.isZero with
  | true =>
    rw [eq_zero_of_isZero hzero, zero_mul_signed (isFinite_powerOfTen hnear hplaces)]
    rfl
  | false =>
    have hpos : 0 < m.whole := Nat.pos_of_ne_zero fun hnone => by
      rw [(whole_eq_zero_iff hwhole).1 hnone] at hzero
      cases hzero
    rw [signed_mul_signed hzero hnear.isZero_eq_false]
    exact (quotient_times_of_lt hfinite hwhole hnear hpos hexact).1

/-- **A whole number is kept where scaling is exact**, a large odd one to no places apart. -/
theorem roundTo_equal_self (hfinite : m.isFinite = true) (hwhole : m.isWhole = true) (negative : Bool)
    {places : Nat} (hplaces : places ≤ 308) (hexact : m.whole * tenTo places < twoTo 53)
    (hnext : places = 0 → m.whole < twoTo 52 ∨ m.whole % 2 = 0) :
    (roundTo (signed negative m) places).equal (signed negative m) = true := by
  have hself : (signed negative m).equal (signed negative m) = true := equal_iff_rank.2 ⟨_, rfl, rfl⟩
  have hrounds := roundTo_whole hfinite hwhole negative places
  generalize roundTo (signed negative m) places = r at hrounds ⊢
  cases hrounds with
  | undefined hlarge => omega
  | infinite _ hscaled =>
    rw [isFinite_scaled_of_lt hfinite hwhole negative hplaces hexact] at hscaled
    cases hscaled
  | zero _ hnone =>
    rw [eq_zero_of_isZero ((whole_eq_zero_iff hwhole).1 hnone)]
    cases negative <;> decide
  | kept => exact hself
  | next _ hnone hlarge hodd =>
    have := hnext hnone
    omega
  | scaled _ _ _ _ _ hkept =>
    rw [hkept hexact]
    exact hself

end Number

/-- **What the function makes of a whole number** and a number of places that is not negative. -/
theorem Builtin.round_whole {arguments : List Value} {m : Magnitude} {negative : Bool} {places : Nat}
    (haccepted : round.arity.accepts arguments.length = true)
    (hfirst : (argument arguments 0).toNumber = .signed negative m) (hfinite : m.isFinite = true)
    (hwhole : m.isWhole = true) (hplaces : (argument arguments 1).toNumber.places = places)
    (clock : Instant) : ∃ r, round.apply clock arguments = .ok (.number r)
      ∧ Number.RoundsWhole negative m places r := by
  refine ⟨_, ?_, Number.roundTo_whole hfinite hwhole negative places⟩
  rw [apply, if_pos haccepted, run, hfirst, hplaces]

/-- The first whole number that is not kept. -/
theorem Builtin.round_odd_whole (clock : Instant) :
    round.apply clock [.number (.ofNat 4503599627370497)] = .ok (.number (.ofNat 4503599627370498))
      ∧ Number.equal (.ofNat 4503599627370498) (.ofNat 4503599627370497) = false := by
  have hrounded : (Number.ofNat 4503599627370497).roundTo Value.null.toNumber.places
      = .ofNat 4503599627370498 := by
    decide +kernel
  constructor
  · show Except.ok (Value.number ((Number.ofNat 4503599627370497).roundTo _)) = _
    exact congrArg (fun r => Except.ok (Value.number r)) hrounded
  · decide +kernel

end Fieldbook
