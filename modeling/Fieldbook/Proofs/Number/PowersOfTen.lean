import Fieldbook.Proofs.Number.Accuracy
import Mathlib.Algebra.Order.Ring.Pow

/-!
# Powers of ten

A power of ten is computed by squaring, and every product is rounded.  What comes of it differs from the
power by no more than one rounding for each factor, is a whole number, and is exact while it is below
`2 ^ 53`.  A product of two such numbers is one (`Magnitude.NearPower.times`), and so is what the loop gives
(`Number.exists_powerLoop_eq`), whatever the order in which it multiplies.  Powers up to `10 ^ 308` are
finite (`Number.isFinite_powerOfTen`) and all others infinite (`Number.powerOfTen_of_le`), since neither is so
near the limit that the roundings matter.
-/

namespace Fieldbook

namespace Magnitude

variable {m n : Magnitude}

/-! ### Large magnitudes -/

theorem units_lt_of_isFinite (h : m.isFinite = true) : m.units < twoTo 2098 := by
  have hlt : m.place < 2047 * binade := of_decide_eq_true h
  by_cases hfirst : m.place < binade
  · rw [units_of_lt hfirst]
    exact Nat.lt_trans hfirst (twoTo_lt (by decide))
  · have hnumber : m.place / binade - 1 ≤ 2045 := by
      have := (Nat.div_lt_iff_lt_mul binade_pos).2 hlt
      omega
    have hstep : binade + m.place % binade < twoTo 53 := by
      have := Nat.mod_lt m.place binade_pos
      rw [twoTo_add 52 1]
      unfold binade at this ⊢
      change _ < twoTo 52 * 2
      omega
    rw [units_of_le (Nat.le_of_not_lt hfirst)]
    calc (binade + m.place % binade) * twoTo (m.place / binade - 1)
        ≤ (binade + m.place % binade) * twoTo 2045 := Nat.mul_le_mul_left _ (twoTo_le hnumber)
      _ < twoTo 53 * twoTo 2045 := Nat.mul_lt_mul_of_pos_right hstep (twoTo_pos _)
      _ = twoTo 2098 := (twoTo_add 53 2045).symm

theorem value_lt_of_isFinite (h : m.isFinite = true) : m.value < twoTo 1024 := by
  have hone : (0 : ℚ) < unitsPerOne := Nat.cast_pos.2 unitsPerOne_pos
  have hlt : m.units < twoTo 1024 * unitsPerOne := by
    rw [unitsPerOne_eq, ← twoTo_add]
    exact units_lt_of_isFinite h
  rw [value, div_lt_iff₀ hone]
  exact_mod_cast hlt

/-! ### Whole numbers -/

/-- A natural number is kept, or it is large and rounded to an even one. -/
theorem units_ofNat_cases {k : Nat} (hfinite : (ofNat k).isFinite = true) :
    (ofNat k).units = k * unitsPerOne ∨ 2 * unitsPerOne ∣ (ofNat k).units := by
  by_cases hshift : shift (k * unitsPerOne) 1 ≤ 1074
  · exact .inl (units_nearest_of_dvd ⟨k, Nat.mul_comm k _⟩ hshift hfinite)
  · have hstep : 2 * unitsPerOne ∣ twoTo (shift (k * unitsPerOne) 1) := by
      obtain ⟨rest, hrest⟩ := Nat.exists_eq_add_of_lt (Nat.lt_of_not_le hshift)
      rw [hrest, show 1074 + rest + 1 = 1 + 1074 + rest by omega, twoTo_add, twoTo_add,
        show twoTo 1 = 2 from rfl, unitsPerOne_eq]
      exact Nat.dvd_mul_right _ _
    have hunits : (ofNat k).units = _ := units_nearest Nat.one_pos hfinite
    rw [hunits]
    exact .inr (Nat.dvd_trans hstep (Nat.dvd_mul_left _ _))

theorem dvd_units_ofNat {k : Nat} (hfinite : (ofNat k).isFinite = true) :
    unitsPerOne ∣ (ofNat k).units := by
  rcases units_ofNat_cases hfinite with hunits | hdvd
  · rw [hunits]
    exact Nat.dvd_mul_left _ _
  · exact Nat.dvd_trans (Nat.dvd_mul_left _ _) hdvd

theorem two_dvd_units_ofNat {k : Nat} (hfinite : (ofNat k).isFinite = true) (heven : 2 ∣ k) :
    2 * unitsPerOne ∣ (ofNat k).units := by
  rcases units_ofNat_cases hfinite with hunits | hdvd
  · rw [hunits]
    exact Nat.mul_dvd_mul_right heven _
  · exact hdvd

theorem nearest_mul_whole (j k : Nat) :
    nearest (j * unitsPerOne * (k * unitsPerOne)) unitsPerOne = ofNat (j * k) := by
  have hnum : j * unitsPerOne * (k * unitsPerOne) = j * k * unitsPerOne * unitsPerOne := by ring
  have hden : unitsPerOne = 1 * unitsPerOne := (Nat.one_mul _).symm
  rw [hnum]
  nth_rewrite 3 [hden]
  exact nearest_scale (j * k * unitsPerOne) 1 unitsPerOne_pos

/-! ### Products -/

/-- **The product of magnitudes**, neither of which is zero. -/
def times (m n : Magnitude) : Magnitude :=
  if m.isFinite && n.isFinite then nearest (m.units * n.units) unitsPerOne else infinite

theorem times_of_isFinite (hm : m.isFinite = true) (hn : n.isFinite = true) :
    m.times n = nearest (m.units * n.units) unitsPerOne :=
  if_pos (Bool.and_eq_true_iff.2 ⟨hm, hn⟩)

theorem isFinite_of_times (h : (m.times n).isFinite = true) :
    m.isFinite = true ∧ n.isFinite = true ∧
      m.times n = nearest (m.units * n.units) unitsPerOne := by
  have hboth : m.isFinite = true ∧ n.isFinite = true := by
    rw [← Bool.and_eq_true_iff]
    by_contra hneither
    rw [times, if_neg hneither] at h
    exact absurd h (by decide)
  exact ⟨hboth.1, hboth.2, times_of_isFinite hboth.1 hboth.2⟩

/-- **A product of whole numbers is off by one rounding.** -/
theorem close_times (hm : unitsPerOne ≤ m.units) (hn : unitsPerOne ≤ n.units)
    (hfinite : (m.times n).isFinite = true) : Close 1 (m.times n).value (m.value * n.value) := by
  obtain ⟨-, -, heq⟩ := isFinite_of_times hfinite
  have hone : (unitsPerOne : ℚ) ≠ 0 := Nat.cast_ne_zero.2 (Nat.ne_of_gt unitsPerOne_pos)
  have hlarge : twoTo 52 * unitsPerOne ≤ m.units * n.units :=
    Nat.mul_le_mul (Nat.le_trans (twoTo_le (by decide)) hm) hn
  rw [heq] at hfinite ⊢
  refine close_value unitsPerOne_pos hfinite (.inr hlarge) ?_
  unfold value
  rw [Nat.cast_mul]
  field_simp

/-- The value that is the limit of the finite ones. -/
def limit : ℚ := overflow / unitsPerOne

/-- The value of a magnitude, the limit in place of infinity. -/
def size (m : Magnitude) : ℚ := if m.isFinite then m.value else limit

theorem size_of_isFinite (h : m.isFinite = true) : m.size = m.value := if_pos h

theorem size_of_infinite (h : m.isFinite = false) : m.size = limit :=
  if_neg (Bool.not_eq_true _ ▸ h)

theorem one_le_limit : 1 ≤ limit := by
  have hone : (0 : ℚ) < unitsPerOne := Nat.cast_pos.2 unitsPerOne_pos
  have hle : unitsPerOne ≤ overflow := twoTo_le_overflow (by decide)
  rw [limit, one_le_div₀ hone]
  exact_mod_cast hle

theorem one_le_value (h : unitsPerOne ≤ m.units) : 1 ≤ m.value := by
  have hone : (0 : ℚ) < unitsPerOne := Nat.cast_pos.2 unitsPerOne_pos
  rw [value, one_le_div₀ hone]
  exact_mod_cast h

theorem one_le_size (h : unitsPerOne ≤ m.units) : 1 ≤ m.size := by
  unfold size
  split
  · exact one_le_value h
  · exact one_le_limit

theorem limit_le_of_times (hm : m.isFinite = true) (hn : n.isFinite = true)
    (h : (m.times n).isFinite = false) : limit ≤ m.value * n.value := by
  have hone : (0 : ℚ) < unitsPerOne := Nat.cast_pos.2 unitsPerOne_pos
  have hle : overflow * unitsPerOne ≤ m.units * n.units := by
    refine Nat.le_of_not_lt fun hlt => ?_
    rw [times_of_isFinite hm hn, isFinite_nearest unitsPerOne_pos hlt] at h
    cases h
  have hle' : (overflow * unitsPerOne : ℚ) ≤ m.units * n.units := by exact_mod_cast hle
  unfold limit value
  rw [div_mul_div_comm, div_le_div_iff₀ hone (mul_pos hone hone), ← mul_assoc]
  exact mul_le_mul_of_nonneg_right hle' hone.le

theorem size_times_le (hm : unitsPerOne ≤ m.units) (hn : unitsPerOne ≤ n.units) :
    (1 - unitRoundoff) * (m.times n).size ≤ m.size * n.size := by
  have hle : 1 - unitRoundoff ≤ 1 := by norm_num [unitRoundoff]
  have hlimit : (1 - unitRoundoff) * limit ≤ limit :=
    mul_le_of_le_one_left (by linarith [one_le_limit]) hle
  cases hfinite : (m.times n).isFinite with
  | true =>
    obtain ⟨hmfinite, hnfinite, -⟩ := isFinite_of_times hfinite
    have hclose := (close_times hm hn hfinite).2
    rwa [pow_one, ← size_of_isFinite hfinite, ← size_of_isFinite hmfinite,
      ← size_of_isFinite hnfinite] at hclose
  | false =>
    rw [size_of_infinite hfinite]
    refine hlimit.trans ?_
    cases hmfinite : m.isFinite with
    | false =>
      rw [size_of_infinite hmfinite]
      exact le_mul_of_one_le_right (by linarith [one_le_limit]) (one_le_size hn)
    | true =>
      cases hnfinite : n.isFinite with
      | false =>
        rw [size_of_infinite hnfinite]
        exact le_mul_of_one_le_left (by linarith [one_le_limit]) (one_le_size hm)
      | true =>
        rw [size_of_isFinite hmfinite, size_of_isFinite hnfinite]
        exact limit_le_of_times hmfinite hnfinite hfinite

/-! ### Computed powers -/

/-- **A computed power of ten.**  It is off by no more than one rounding for each factor, and by less where
roundings are to spare; it is whole, and even if it is not the first. -/
structure NearPower (spare : ℚ) (k : Nat) (m : Magnitude) : Prop where
  le_units : unitsPerOne ≤ m.units
  lower : m.isFinite = true → (1 - unitRoundoff) ^ k * 10 ^ k ≤ spare * m.value
  upper : (1 - unitRoundoff) ^ k * m.size ≤ spare * 10 ^ k
  dvd : m.isFinite = true → unitsPerOne ∣ m.units
  even : m.isFinite = true → k ≠ 0 → 2 * unitsPerOne ∣ m.units
  exact : tenTo k < twoTo 53 → m.isFinite = true ∧ m.units = tenTo k * unitsPerOne

theorem tenTo_add (j k : Nat) : tenTo (j + k) = tenTo j * tenTo k := Nat.pow_add 10 j k

theorem nearPower_ofNat {k : Nat} (h : tenTo k < twoTo 53) :
    NearPower ((1 - unitRoundoff) ^ k) k (ofNat (tenTo k)) := by
  obtain ⟨hunits, hfinite⟩ := units_ofNat h
  have hvalue : (ofNat (tenTo k)).value = 10 ^ k := by
    rw [value_eq_of_units hunits]
    exact Nat.cast_pow 10 k
  refine ⟨?_, fun _ => ?_, ?_, fun _ => dvd_units_ofNat hfinite, fun _ hk => ?_,
    fun _ => ⟨hfinite, hunits⟩⟩
  · rw [hunits]
    exact Nat.le_mul_of_pos_left _ (tenTo_pos k)
  · rw [hvalue]
  · rw [size_of_isFinite hfinite, hvalue]
  · obtain ⟨k, rfl⟩ := Nat.exists_eq_succ_of_ne_zero hk
    refine two_dvd_units_ofNat hfinite ?_
    rw [Nat.succ_eq_add_one, tenTo_add]
    exact Nat.dvd_trans (by decide) (Nat.dvd_mul_left (tenTo 1) _)

namespace NearPower

variable {spare : ℚ} {j k : Nat}

theorem isZero_eq_false (hm : NearPower spare k m) : m.isZero = false := by
  rw [Bool.eq_false_iff, ne_eq, ← units_eq_zero_iff]
  exact Nat.ne_of_gt (Nat.lt_of_lt_of_le unitsPerOne_pos hm.le_units)

theorem times_eq (hm : NearPower spare j m) (hn : NearPower (1 - unitRoundoff) k n)
    (hfinite : (m.times n).isFinite = true) :
    ∃ a b, m.units = a * unitsPerOne ∧ n.units = b * unitsPerOne ∧ m.times n = ofNat (a * b) := by
  obtain ⟨hmfinite, hnfinite, heq⟩ := isFinite_of_times hfinite
  obtain ⟨a, ha⟩ := hm.dvd hmfinite
  obtain ⟨b, hb⟩ := hn.dvd hnfinite
  rw [Nat.mul_comm] at ha hb
  refine ⟨a, b, ha, hb, ?_⟩
  rw [heq, ha, hb, nearest_mul_whole]

theorem times_exact (hm : NearPower spare j m) (hn : NearPower (1 - unitRoundoff) k n)
    (h : tenTo (j + k) < twoTo 53) :
    (m.times n).isFinite = true ∧ (m.times n).units = tenTo (j + k) * unitsPerOne := by
  rw [tenTo_add] at h ⊢
  obtain ⟨hmfinite, hmunits⟩ := hm.exact
    (Nat.lt_of_le_of_lt (Nat.le_mul_of_pos_right _ (tenTo_pos k)) h)
  obtain ⟨hnfinite, hnunits⟩ := hn.exact
    (Nat.lt_of_le_of_lt (Nat.le_mul_of_pos_left _ (tenTo_pos j)) h)
  have heq : m.times n = ofNat (tenTo j * tenTo k) := by
    rw [times_of_isFinite hmfinite hnfinite, hmunits, hnunits, nearest_mul_whole]
  rw [heq]
  exact (units_ofNat h).symm

theorem times_dvd (hm : NearPower spare j m) (hn : NearPower (1 - unitRoundoff) k n)
    (hfinite : (m.times n).isFinite = true) : unitsPerOne ∣ (m.times n).units := by
  obtain ⟨a, b, -, -, heq⟩ := hm.times_eq hn hfinite
  rw [heq] at hfinite ⊢
  exact dvd_units_ofNat hfinite

theorem times_even (hm : NearPower spare j m) (hn : NearPower (1 - unitRoundoff) k n)
    (hfinite : (m.times n).isFinite = true) (hjk : j + k ≠ 0) :
    2 * unitsPerOne ∣ (m.times n).units := by
  obtain ⟨hmfinite, hnfinite, -⟩ := isFinite_of_times hfinite
  obtain ⟨a, b, ha, hb, heq⟩ := hm.times_eq hn hfinite
  rw [heq] at hfinite ⊢
  refine two_dvd_units_ofNat hfinite ?_
  by_cases hj : j = 0
  · have hk : k ≠ 0 := by omega
    have hdvd := hn.even hnfinite hk
    rw [hb] at hdvd
    exact Nat.dvd_trans (Nat.dvd_of_mul_dvd_mul_right unitsPerOne_pos hdvd) (Nat.dvd_mul_left b a)
  · have hdvd := hm.even hmfinite hj
    rw [ha] at hdvd
    exact Nat.dvd_trans (Nat.dvd_of_mul_dvd_mul_right unitsPerOne_pos hdvd) (Nat.dvd_mul_right a b)

theorem times_lower (hm : NearPower spare j m) (hn : NearPower (1 - unitRoundoff) k n)
    (hspare : 0 < spare) (hfinite : (m.times n).isFinite = true) :
    (1 - unitRoundoff) ^ (j + k) * 10 ^ (j + k) ≤ spare * (m.times n).value := by
  have hpos := one_sub_unitRoundoff_pos
  obtain ⟨hmfinite, hnfinite, -⟩ := isFinite_of_times hfinite
  have hclose := (close_times hm.le_units hn.le_units hfinite).1
  rw [pow_one] at hclose
  calc (1 - unitRoundoff) ^ (j + k) * 10 ^ (j + k)
      = ((1 - unitRoundoff) ^ j * 10 ^ j) * ((1 - unitRoundoff) ^ k * 10 ^ k) := by
        rw [pow_add, pow_add, mul_mul_mul_comm]
    _ ≤ (spare * m.value) * ((1 - unitRoundoff) * n.value) :=
        mul_le_mul (hm.lower hmfinite) (hn.lower hnfinite) (by positivity)
          (mul_nonneg hspare.le m.value_nonneg)
    _ = spare * ((1 - unitRoundoff) * (m.value * n.value)) := by ring
    _ ≤ spare * (m.times n).value := mul_le_mul_of_nonneg_left hclose hspare.le

theorem times_upper (hm : NearPower spare j m) (hn : NearPower (1 - unitRoundoff) k n)
    (hspare : 0 < spare) : (1 - unitRoundoff) ^ (j + k) * (m.times n).size ≤ spare * 10 ^ (j + k) := by
  have hpos := one_sub_unitRoundoff_pos
  refine le_of_mul_le_mul_left ?_ hpos
  calc (1 - unitRoundoff) * ((1 - unitRoundoff) ^ (j + k) * (m.times n).size)
      = (1 - unitRoundoff) ^ (j + k) * ((1 - unitRoundoff) * (m.times n).size) := mul_left_comm _ _ _
    _ ≤ (1 - unitRoundoff) ^ (j + k) * (m.size * n.size) :=
        mul_le_mul_of_nonneg_left (size_times_le hm.le_units hn.le_units) (by positivity)
    _ = ((1 - unitRoundoff) ^ j * m.size) * ((1 - unitRoundoff) ^ k * n.size) := by
        rw [pow_add, mul_mul_mul_comm]
    _ ≤ (spare * 10 ^ j) * ((1 - unitRoundoff) * 10 ^ k) :=
        mul_le_mul hm.upper hn.upper
          (mul_nonneg (by positivity) (by linarith [one_le_size hn.le_units])) (by positivity)
    _ = (1 - unitRoundoff) * (spare * 10 ^ (j + k)) := by
        rw [pow_add]
        ring

theorem unitsPerOne_le_times (hm : NearPower spare j m) (hn : NearPower (1 - unitRoundoff) k n)
    (hspare : 0 < spare) : unitsPerOne ≤ (m.times n).units := by
  have hpos := one_sub_unitRoundoff_pos
  cases hfinite : (m.times n).isFinite with
  | false =>
    rw [eq_infinite_of_isFinite_eq_false hfinite]
    decide +kernel
  | true =>
    refine Nat.le_of_dvd (Nat.pos_of_ne_zero fun hzero => ?_) (hm.times_dvd hn hfinite)
    have hle := hm.times_lower hn hspare hfinite
    rw [value, hzero, Nat.cast_zero, zero_div, mul_zero] at hle
    exact absurd hle (not_le.2 (by positivity))

/-- **A product of computed powers is one.**  It takes one rounding, which the second has to spare. -/
theorem times (hm : NearPower spare j m) (hn : NearPower (1 - unitRoundoff) k n)
    (hspare : 0 < spare) : NearPower spare (j + k) (m.times n) where
  le_units := hm.unitsPerOne_le_times hn hspare
  lower := hm.times_lower hn hspare
  upper := hm.times_upper hn hspare
  dvd := hm.times_dvd hn
  even := hm.times_even hn
  exact := hm.times_exact hn

end NearPower

end Magnitude

namespace Number

open Magnitude

theorem signed_mul_signed {m n : Magnitude} (hm : m.isZero = false) (hn : n.isZero = false)
    (s t : Bool) : signed s m * signed t n = signed (s != t) (m.times n) := by
  show Number.mul _ _ = _
  simp only [Number.mul, times, hm, hn, Bool.or_self, Bool.false_eq_true, if_false]
  split
  · rfl
  · rfl

/-- **The loop keeps to computed powers.** -/
theorem exists_powerLoop_eq (e : Nat) {j k : Nat} {r b : Magnitude} (hr : NearPower 1 j r)
    (hb : NearPower (1 - unitRoundoff) k b) :
    ∃ q, powerLoop (signed false r) (signed false b) e = signed false q ∧ NearPower 1 (j + k * e) q := by
  induction e using Nat.strong_induction_on generalizing j k r b with
  | _ e ih =>
    have hbzero := hb.isZero_eq_false
    -- The last binary digit of the exponent takes a factor, and the others the square.
    obtain ⟨r', hr', hnear⟩ : ∃ r',
        (if e % 2 = 1 then signed false r * signed false b else signed false r) = signed false r'
          ∧ NearPower 1 (j + k * (e % 2)) r' := by
      rcases Nat.mod_two_eq_zero_or_one e with hbit | hbit
      · exact ⟨r, by rw [hbit, if_neg (by decide)], by rwa [hbit]⟩
      · refine ⟨r.times b, ?_, ?_⟩
        · rw [hbit, if_pos rfl]
          exact signed_mul_signed hr.isZero_eq_false hbzero false false
        · rw [hbit, Nat.mul_one]
          exact hr.times hb one_pos
    have hsplit : k * (e % 2) + (k + k) * (e / 2) = k * e := by
      calc k * (e % 2) + (k + k) * (e / 2) = k * (e % 2 + 2 * (e / 2)) := by ring
        _ = k * e := by rw [Nat.mod_add_div]
    rw [powerLoop]
    simp only [hr']
    split
    · rename_i hlast
      rw [hlast, Nat.mul_zero, Nat.add_zero] at hsplit
      rw [← hsplit]
      exact ⟨r', rfl, hnear⟩
    · have hsquare := hb.times hb one_sub_unitRoundoff_pos
      obtain ⟨q, hq, hnear'⟩ := ih (e / 2) (by omega) hnear hsquare
      refine ⟨q, ?_, ?_⟩
      · rw [signed_mul_signed hbzero hbzero]
        exact hq
      · rwa [Nat.add_assoc, hsplit] at hnear'

/-- **Every power of ten is computed so.** -/
theorem exists_powerOfTen_eq (places : Nat) :
    ∃ p, powerOfTen places = signed false p ∧ NearPower 1 places p := by
  have hone : NearPower 1 0 (.ofNat 1) := by
    have hnear := nearPower_ofNat (k := 0) (by decide)
    rwa [pow_zero] at hnear
  have hten : NearPower (1 - unitRoundoff) 1 (.ofNat 10) := by
    have hnear := nearPower_ofNat (k := 1) (by decide)
    rwa [pow_one] at hnear
  obtain ⟨p, hp, hnear⟩ := exists_powerLoop_eq places hone hten
  have hpositive : ¬ (places : Int) < 0 := by omega
  rw [Nat.zero_add, Nat.one_mul] at hnear
  refine ⟨p, ?_, hnear⟩
  rw [powerOfTen, if_neg hpositive]
  exact hp

/-- **Up to `10 ^ 308` they are finite**, with so much to spare that the roundings do not matter. -/
theorem isFinite_powerOfTen {places : Nat} {p : Magnitude} (hnear : NearPower 1 places p)
    (h : places ≤ 308) : p.isFinite = true := by
  by_contra hinfinite
  have hpos := one_sub_unitRoundoff_pos
  have hroundoff : 1 - unitRoundoff = 9007199254740991 / 9007199254740992 := by
    norm_num [unitRoundoff]
  have hone : (0 : ℚ) < unitsPerOne := Nat.cast_pos.2 unitsPerOne_pos
  have hupper := hnear.upper
  rw [size_of_infinite (Bool.eq_false_iff.2 hinfinite), one_mul] at hupper
  have hlimit : 0 ≤ limit := zero_le_one.trans one_le_limit
  have hle : (1 - unitRoundoff) ^ 308 * limit ≤ 10 ^ 308 :=
    calc (1 - unitRoundoff) ^ 308 * limit ≤ (1 - unitRoundoff) ^ places * limit :=
          mul_le_mul_of_nonneg_right
            (pow_le_pow_of_le_one hpos.le (by norm_num [unitRoundoff]) h) hlimit
      _ ≤ 10 ^ places := hupper
      _ ≤ 10 ^ 308 := pow_le_pow_right₀ (by norm_num) h
  have hlarge : 10 ^ 308 * 9007199254740992 ^ 308 * unitsPerOne < 9007199254740991 ^ 308 * overflow := by
    decide +kernel
  have hlarge' : (10 ^ 308 * 9007199254740992 ^ 308 * unitsPerOne : ℚ)
      < 9007199254740991 ^ 308 * overflow := by
    exact_mod_cast hlarge
  refine absurd hle (not_le.2 ?_)
  rw [hroundoff, limit, div_pow, div_mul_div_comm, lt_div_iff₀ (mul_pos (by positivity) hone), ← mul_assoc]
  exact hlarge'

/-- **From `10 ^ 309` on they are infinite.** -/
theorem powerOfTen_of_le {places : Nat} (h : 309 ≤ places) : powerOfTen places = infinity := by
  obtain ⟨p, hp, hnear⟩ := exists_powerOfTen_eq places
  have hinfinite : p.isFinite = false := by
    by_contra hfinite
    rw [Bool.not_eq_false] at hfinite
    have hratio : (1 - unitRoundoff) * 10 = 45035996273704955 / 4503599627370496 := by
      norm_num [unitRoundoff]
    have hlower := hnear.lower hfinite
    rw [one_mul, ← mul_pow, hratio] at hlower
    have hlt : (45035996273704955 / 4503599627370496 : ℚ) ^ 309 < twoTo 1024 :=
      calc (45035996273704955 / 4503599627370496 : ℚ) ^ 309
          ≤ (45035996273704955 / 4503599627370496) ^ places := pow_le_pow_right₀ (by norm_num) h
        _ ≤ p.value := hlower
        _ < twoTo 1024 := value_lt_of_isFinite hfinite
    have hlarge : twoTo 1024 * 4503599627370496 ^ 309 ≤ 45035996273704955 ^ 309 := by decide +kernel
    have hlarge' : (twoTo 1024 * 4503599627370496 ^ 309 : ℚ) ≤ 45035996273704955 ^ 309 := by
      exact_mod_cast hlarge
    rw [div_pow, div_lt_iff₀ (by positivity)] at hlt
    exact absurd hlarge' (not_le.2 hlt)
  rw [hp, eq_infinite_of_isFinite_eq_false hinfinite]
  rfl

end Number

end Fieldbook
