import Fieldbook.Number.Basic
import Fieldbook.Proofs.Number.Rounding
import Mathlib.Algebra.Order.Field.Rat
import Mathlib.Tactic.FieldSimp
import Mathlib.Tactic.Linarith
import Mathlib.Tactic.Ring

/-!
# How far rounding is off

A ratio of units is rounded to a whole number of the steps of its binade, and comes out as that number of
steps (`Magnitude.units_nearest`).  So a natural number below `2 ^ 53` is kept (`Magnitude.units_ofNat`),
and a ratio that is neither too small nor too large is off by no more than one part in `2 ^ 53`
(`Magnitude.close_value`).  `Close` counts such roundings, one after another.
-/

namespace Fieldbook

theorem roundHalfEven_bounds (num : Nat) {den : Nat} (hden : 0 < den) :
    2 * num ≤ 2 * (roundHalfEven num den * den) + den
      ∧ 2 * (roundHalfEven num den * den) ≤ 2 * num + den := by
  have hsplit := Nat.div_add_mod num den
  have hlt := Nat.mod_lt num hden
  rw [Nat.mul_comm] at hsplit
  simp only [roundHalfEven]
  split
  · omega
  · rw [Nat.add_mul, Nat.one_mul]
    omega

theorem roundHalfEven_scale (num den : Nat) {c : Nat} (hc : 0 < c) :
    roundHalfEven (num * c) (den * c) = roundHalfEven num den := by
  have hlt : 2 * (num % den * c) < den * c ↔ 2 * (num % den) < den := by
    rw [← Nat.mul_assoc, Nat.mul_lt_mul_right hc]
  have heq : 2 * (num % den * c) = den * c ↔ 2 * (num % den) = den := by
    rw [← Nat.mul_assoc, Nat.mul_left_inj (Nat.ne_of_gt hc)]
  simp only [roundHalfEven, Nat.mul_div_mul_right num den hc, Nat.mul_mod_mul_right, hlt, heq]

theorem twoTo_zero : twoTo 0 = 1 := rfl

theorem twoTo_add (m n : Nat) : twoTo (m + n) = twoTo m * twoTo n := Nat.pow_add 2 m n

theorem twoTo_succ (n : Nat) : twoTo (n + 1) = 2 * twoTo n := Nat.pow_succ'

theorem twoTo_le {m n : Nat} (h : m ≤ n) : twoTo m ≤ twoTo n := Nat.pow_le_pow_right (by decide) h

theorem twoTo_lt {m n : Nat} (h : m < n) : twoTo m < twoTo n := Nat.pow_lt_pow_right (by decide) h

theorem unitsPerOne_eq : unitsPerOne = twoTo 1074 := rfl

namespace Magnitude

/-! ### Steps of a binade -/

/-- **So many steps of a binade**, up to the first of the next. -/
theorem units_ofPlace {shift steps : Nat} (hsteps : steps ≤ 2 * binade)
    (hnormal : shift = 0 ∨ binade ≤ steps) (hplace : shift * binade + steps ≤ infinitePlace) :
    (ofPlace (shift * binade + steps)).units = steps * twoTo shift := by
  have hpos := binade_pos
  have hthis : (ofPlace (shift * binade + steps)).place = shift * binade + steps :=
    Nat.min_eq_left hplace
  by_cases hfirst : shift * binade + steps < binade
  · have hshift : shift = 0 := by
      rcases hnormal with h | h
      · exact h
      · omega
    have hlt : (ofPlace (shift * binade + steps)).place < binade := by
      rw [hthis]
      exact hfirst
    rw [units_of_lt hlt, hthis, hshift, Nat.zero_mul, Nat.zero_add, twoTo_zero, Nat.mul_one]
  · have hle : binade ≤ (ofPlace (shift * binade + steps)).place := by
      rw [hthis]
      exact Nat.le_of_not_lt hfirst
    rw [units_of_le hle, hthis]
    rcases Nat.eq_or_lt_of_le hsteps with hlast | hlast
    · -- The step after the last is the first of the next binade, where steps are twice as long.
      have hsum : shift * binade + steps = (shift + 2) * binade := by
        rw [hlast, Nat.add_mul]
      rw [hsum, Nat.mul_mod_left, Nat.mul_div_cancel _ hpos, hlast]
      show (binade + 0) * twoTo (shift + 1) = _
      rw [twoTo_add, Nat.add_zero, Nat.mul_comm (twoTo shift), ← Nat.mul_assoc, Nat.mul_comm binade]
      rfl
    · have hmin : binade ≤ steps := by
        rcases hnormal with rfl | h
        · omega
        · exact h
      obtain ⟨step, rfl⟩ := Nat.exists_eq_add_of_le hmin
      have hstep : step < binade := by omega
      have hsum : shift * binade + (binade + step) = step + binade * (shift + 1) := by
        rw [Nat.mul_add, Nat.mul_comm binade shift, Nat.mul_one]
        omega
      rw [hsum, Nat.add_mul_mod_self_left, Nat.add_mul_div_left _ _ hpos, Nat.mod_eq_of_lt hstep,
        Nat.div_eq_of_lt hstep, Nat.zero_add, Nat.add_sub_cancel]

/-- By how much the steps of the binade of a ratio are longer than units. -/
def shift (num den : Nat) : Nat := (num / den).log2 - 52

def steps (num den : Nat) : Nat := roundHalfEven num (den * twoTo (shift num den))

variable {num den : Nat}

theorem lt_twoTo_shift (hden : 0 < den) : num < twoTo 53 * (den * twoTo (shift num den)) := by
  have hlog : num / den < twoTo ((num / den).log2 + 1) := Nat.lt_log2_self
  have hle : twoTo ((num / den).log2 + 1) ≤ twoTo (53 + shift num den) :=
    twoTo_le (by unfold shift; omega)
  have hlt : num < twoTo (53 + shift num den) * den :=
    (Nat.div_lt_iff_lt_mul hden).1 (Nat.lt_of_lt_of_le hlog hle)
  rwa [twoTo_add, Nat.mul_assoc, Nat.mul_comm (twoTo (shift num den))] at hlt

/-- A ratio is at least as large as the first step of its binade, the first binade apart. -/
theorem le_of_shift (hden : 0 < den) (h : shift num den ≠ 0 ∨ twoTo 52 * den ≤ num) :
    twoTo 52 * (den * twoTo (shift num den)) ≤ num := by
  have hpos : 0 < twoTo 52 * den := Nat.mul_pos (twoTo_pos 52) hden
  by_cases hshift : shift num den = 0
  · rw [hshift, twoTo_zero, Nat.mul_one]
    exact h.resolve_left (not_not_intro hshift)
  · have hne : num / den ≠ 0 := by
      intro hzero
      exact hshift (by rw [shift, hzero]; rfl)
    have hlog : twoTo (52 + shift num den) ≤ num / den := by
      have hsum : 52 + shift num den = (num / den).log2 := by
        unfold shift at hshift ⊢
        omega
      rw [hsum]
      exact Nat.log2_self_le hne
    have hle : twoTo (52 + shift num den) * den ≤ num := (Nat.le_div_iff_mul_le hden).1 hlog
    rwa [twoTo_add, Nat.mul_assoc, Nat.mul_comm (twoTo (shift num den))] at hle

theorem steps_le (hden : 0 < den) : steps num den ≤ 2 * binade := by
  have hpos : 0 < den * twoTo (shift num den) := Nat.mul_pos hden (twoTo_pos _)
  have hlt : num < twoTo 53 * (den * twoTo (shift num den)) := lt_twoTo_shift hden
  obtain ⟨-, hround⟩ := roundHalfEven_bounds num hpos
  show roundHalfEven num (den * twoTo (shift num den)) ≤ twoTo 53
  generalize den * twoTo (shift num den) = step at hpos hlt hround
  have hbelow : 2 * (roundHalfEven num step * step) < (2 * twoTo 53 + 1) * step := by
    rw [Nat.add_mul, Nat.mul_assoc, Nat.one_mul]
    omega
  rw [← Nat.mul_assoc] at hbelow
  have := Nat.lt_of_mul_lt_mul_right hbelow
  omega

theorem le_steps (hden : 0 < den) (h : shift num den ≠ 0) : binade ≤ steps num den := by
  have hpos : 0 < den * twoTo (shift num den) := Nat.mul_pos hden (twoTo_pos _)
  have hle : twoTo 52 * (den * twoTo (shift num den)) ≤ num := le_of_shift hden (.inl h)
  obtain ⟨hround, -⟩ := roundHalfEven_bounds num hpos
  show twoTo 52 ≤ roundHalfEven num (den * twoTo (shift num den))
  generalize den * twoTo (shift num den) = step at hpos hle hround
  have habove : 2 * twoTo 52 * step ≤ (2 * roundHalfEven num step + 1) * step := by
    rw [Nat.add_mul, Nat.mul_assoc, Nat.mul_assoc, Nat.one_mul]
    omega
  have := Nat.le_of_mul_le_mul_right habove hpos
  omega

/-! ### Units of a rounded ratio -/

theorem nearest_eq (num den : Nat) :
    nearest num den = ofPlace (shift num den * binade + steps num den) := rfl

theorem shift_le (hden : 0 < den) {bits : Nat} (h : num < twoTo (53 + bits) * den) :
    shift num den ≤ bits := by
  by_cases hzero : num / den = 0
  · rw [shift, hzero]
    exact Nat.zero_le _
  · have hlog : (num / den).log2 < 53 + bits :=
      (Nat.log2_lt hzero).2 ((Nat.div_lt_iff_lt_mul hden).2 h)
    unfold shift
    omega

theorem isFinite_ofPlace {place : Nat} : (ofPlace place).isFinite = true ↔ place < infinitePlace := by
  rw [isFinite, decide_eq_true_eq]
  show min place infinitePlace < infinitePlace ↔ _
  omega

/-- **The limit of the finite ratios**, in units: half a step above the largest finite magnitude. -/
def overflow : Nat := (twoTo 54 - 1) * twoTo 2044

theorem twoTo_le_overflow {bits : Nat} (h : bits ≤ 2097) : twoTo bits ≤ overflow := by
  refine Nat.le_trans (twoTo_le h) ?_
  rw [overflow, show 2097 = 53 + 2044 from rfl, twoTo_add]
  exact Nat.mul_le_mul_right _ (by decide)

theorem isFinite_nearest (hden : 0 < den) (h : num < overflow * den) :
    (nearest num den).isFinite = true := by
  have hpos := binade_pos
  have hsteps : steps num den ≤ 2 * binade := steps_le hden
  have hlast : num < twoTo (53 + 2045) * den := by
    refine Nat.lt_trans h (Nat.mul_lt_mul_of_pos_right ?_ hden)
    rw [overflow, show 53 + 2045 = 54 + 2044 from rfl, twoTo_add 54]
    exact Nat.mul_lt_mul_of_pos_right (Nat.sub_lt (twoTo_pos 54) Nat.one_pos) (twoTo_pos 2044)
  have hshift : shift num den ≤ 2045 := shift_le hden hlast
  rw [nearest_eq, isFinite_ofPlace]
  rcases Nat.lt_or_eq_of_le hshift with hshift | hshift
  · have hmul : shift num den * binade ≤ 2044 * binade := Nat.mul_le_mul_right _ (Nat.le_of_lt_succ hshift)
    unfold infinitePlace
    omega
  · -- In the last binade the limit leaves room for all steps but the one that is infinity.
    have hstep : den * twoTo 2045 = 2 * (den * twoTo 2044) := by
      rw [show 2045 = 2044 + 1 from rfl, twoTo_succ, Nat.mul_left_comm]
    have hhalf : 0 < den * twoTo 2044 := Nat.mul_pos hden (twoTo_pos _)
    have hround := (roundHalfEven_bounds num (Nat.mul_pos hden (twoTo_pos 2045))).2
    rw [overflow, Nat.mul_assoc, Nat.mul_comm _ den] at h
    have hlt : steps num den < 2 * binade := by
      rw [steps, hshift]
      rw [hstep] at hround ⊢
      generalize den * twoTo 2044 = half at h hhalf hround
      refine Nat.lt_of_mul_lt_mul_right (a := half) ?_
      rw [show (twoTo 54 - 1) * half = twoTo 54 * half - half from Nat.sub_one_mul _ _] at h
      have hdouble : twoTo 54 * half = 2 * (2 * binade * half) := by
        rw [← Nat.mul_assoc, ← Nat.mul_assoc]
        rfl
      have hquarter : roundHalfEven num (2 * half) * (2 * half)
          = 2 * (roundHalfEven num (2 * half) * half) := Nat.mul_left_comm _ _ _
      omega
    rw [hshift]
    unfold infinitePlace
    omega

/-- **What a ratio is rounded to**, in units, if it is not too large to be finite. -/
theorem units_nearest (hden : 0 < den) (hfinite : (nearest num den).isFinite = true) :
    (nearest num den).units = steps num den * twoTo (shift num den) := by
  have hnormal : shift num den = 0 ∨ binade ≤ steps num den :=
    (Decidable.eq_or_ne _ 0).imp_right (le_steps hden)
  rw [nearest_eq] at hfinite ⊢
  exact units_ofPlace (steps_le hden) hnormal (Nat.le_of_lt (isFinite_ofPlace.1 hfinite))

theorem units_nearest_of_dvd {bits : Nat} (hdvd : twoTo bits ∣ num) (hshift : shift num 1 ≤ bits)
    (hfinite : (nearest num 1).isFinite = true) : (nearest num 1).units = num := by
  obtain ⟨rest, rfl⟩ := Nat.exists_eq_add_of_le' hshift
  obtain ⟨count, hcount⟩ := hdvd
  have hsplit : num = twoTo rest * count * twoTo (shift num 1) := by
    rw [Nat.mul_right_comm, ← twoTo_add, ← hcount]
  rw [units_nearest Nat.one_pos hfinite, steps, Nat.one_mul]
  nth_rewrite 1 [hsplit]
  rw [roundHalfEven_mul _ (twoTo_pos _), ← hsplit]

theorem units_ofNat {n : Nat} (h : n < twoTo 53) :
    (ofNat n).units = n * unitsPerOne ∧ (ofNat n).isFinite = true := by
  have hlt : n * unitsPerOne < twoTo (53 + 1074) * 1 := by
    rw [Nat.mul_one, twoTo_add, ← unitsPerOne_eq]
    exact (Nat.mul_lt_mul_right unitsPerOne_pos).2 h
  have hfinite : (ofNat n).isFinite = true :=
    isFinite_nearest Nat.one_pos
      (Nat.lt_of_lt_of_le hlt (Nat.mul_le_mul_right 1 (twoTo_le_overflow (by decide))))
  exact ⟨units_nearest_of_dvd ⟨n, Nat.mul_comm n _⟩ (shift_le Nat.one_pos hlt) hfinite, hfinite⟩

theorem ofNat_inj {m n : Nat} (hm : m < twoTo 53) (hn : n < twoTo 53) (h : ofNat m = ofNat n) : m = n := by
  refine Nat.eq_of_mul_eq_mul_right unitsPerOne_pos ?_
  rw [← (units_ofNat hm).1, ← (units_ofNat hn).1, h]

/-! ### Equal ratios -/

theorem nearest_scale (num den : Nat) {c : Nat} (hc : 0 < c) :
    nearest (num * c) (den * c) = nearest num den := by
  have hshift : shift (num * c) (den * c) = shift num den := by
    rw [shift, shift, Nat.mul_div_mul_right num den hc]
  have hsteps : steps (num * c) (den * c) = steps num den := by
    rw [steps, steps, hshift, Nat.mul_right_comm, roundHalfEven_scale _ _ hc]
  rw [nearest_eq, nearest_eq, hshift, hsteps]

theorem nearest_congr {num' den' : Nat} (hden : 0 < den) (hden' : 0 < den')
    (h : num * den' = num' * den) : nearest num den = nearest num' den' :=
  calc nearest num den = nearest (num * den') (den * den') := (nearest_scale num den hden').symm
    _ = nearest (num' * den) (den' * den) := by rw [h, Nat.mul_comm den]
    _ = nearest num' den' := nearest_scale num' den' hden

end Magnitude

/-! ### Relative error -/

def unitRoundoff : ℚ := 1 / 2 ^ 53

/-- **Two values that are apart by so many roundings**, or fewer. -/
def Close (roundings : Nat) (x y : ℚ) : Prop :=
  (1 - unitRoundoff) ^ roundings * y ≤ x ∧ (1 - unitRoundoff) ^ roundings * x ≤ y

theorem one_sub_unitRoundoff_pos : 0 < 1 - unitRoundoff := by norm_num [unitRoundoff]

namespace Close

variable {j k : Nat} {x y z : ℚ}

theorem symm (h : Close k x y) : Close k y x := ⟨h.2, h.1⟩

theorem trans (hxy : Close j x y) (hyz : Close k y z) : Close (j + k) x z := by
  have hj : 0 ≤ (1 - unitRoundoff) ^ j := pow_nonneg one_sub_unitRoundoff_pos.le j
  have hk : 0 ≤ (1 - unitRoundoff) ^ k := pow_nonneg one_sub_unitRoundoff_pos.le k
  constructor
  · calc (1 - unitRoundoff) ^ (j + k) * z = (1 - unitRoundoff) ^ j * ((1 - unitRoundoff) ^ k * z) := by
          rw [pow_add, mul_assoc]
      _ ≤ (1 - unitRoundoff) ^ j * y := mul_le_mul_of_nonneg_left hyz.1 hj
      _ ≤ x := hxy.1
  · calc (1 - unitRoundoff) ^ (j + k) * x = (1 - unitRoundoff) ^ k * ((1 - unitRoundoff) ^ j * x) := by
          rw [pow_add, mul_comm ((1 - unitRoundoff) ^ j), mul_assoc]
      _ ≤ (1 - unitRoundoff) ^ k * y := mul_le_mul_of_nonneg_left hxy.2 hk
      _ ≤ z := hyz.2

theorem mul_left (h : Close k x y) {c : ℚ} (hc : 0 ≤ c) : Close k (c * x) (c * y) := by
  constructor
  · rw [mul_left_comm]
    exact mul_le_mul_of_nonneg_left h.1 hc
  · rw [mul_left_comm]
    exact mul_le_mul_of_nonneg_left h.2 hc

/-- So few roundings take away no more than four times as much as one. -/
theorem bounds (h : Close k x y) (hk : k ≤ 4) (hx : 0 ≤ x) (hy : 0 ≤ y) :
    (1 - 4 * unitRoundoff) * y ≤ x ∧ (1 - 4 * unitRoundoff) * x ≤ y := by
  have hfour : 1 - 4 * unitRoundoff ≤ (1 - unitRoundoff) ^ 4 := by norm_num [unitRoundoff]
  have hone : 1 - unitRoundoff ≤ 1 := by norm_num [unitRoundoff]
  have hpow : 1 - 4 * unitRoundoff ≤ (1 - unitRoundoff) ^ k :=
    hfour.trans (pow_le_pow_of_le_one one_sub_unitRoundoff_pos.le hone hk)
  exact ⟨(mul_le_mul_of_nonneg_right hpow hy).trans h.1, (mul_le_mul_of_nonneg_right hpow hx).trans h.2⟩

theorem le_two_mul (h : Close k x y) (hk : k ≤ 4) (hx : 0 ≤ x) (hy : 0 ≤ y) :
    y ≤ 2 * x ∧ x ≤ 2 * y := by
  obtain ⟨hlow, hhigh⟩ := h.bounds hk hx hy
  unfold unitRoundoff at hlow hhigh
  constructor <;> linarith

end Close

namespace Magnitude

variable {num den : Nat}

def value (m : Magnitude) : ℚ := m.units / unitsPerOne

/-- **Far from both ends**: nothing is lost but by rounding, and nothing gets infinite. -/
def InRange (x : ℚ) : Prop := x = 0 ∨ 1 / 2 ^ 100 ≤ x ∧ x ≤ 2 ^ 100

theorem value_eq_of_units {m : Magnitude} {n : Nat} (h : m.units = n * unitsPerOne) : m.value = n := by
  have hone : (unitsPerOne : ℚ) ≠ 0 := Nat.cast_ne_zero.2 (Nat.ne_of_gt unitsPerOne_pos)
  rw [value, h, Nat.cast_mul, mul_div_cancel_right₀ _ hone]

theorem value_nonneg (m : Magnitude) : 0 ≤ m.value :=
  div_nonneg (Nat.cast_nonneg _) (Nat.cast_nonneg _)

theorem nearest_bounds (hden : 0 < den) (hfinite : (nearest num den).isFinite = true)
    (hnum : num = 0 ∨ twoTo 52 * den ≤ num) :
    twoTo 53 * num ≤ twoTo 53 * ((nearest num den).units * den) + num
      ∧ twoTo 53 * ((nearest num den).units * den) ≤ twoTo 53 * num + num := by
  have hpos : 0 < den * twoTo (shift num den) := Nat.mul_pos hden (twoTo_pos _)
  have hround := roundHalfEven_bounds num hpos
  have hunits : (nearest num den).units * den
      = steps num den * (den * twoTo (shift num den)) := by
    rw [units_nearest hden hfinite, Nat.mul_assoc, Nat.mul_comm _ den]
  rw [hunits]
  change 2 * num ≤ 2 * (steps num den * _) + _ ∧ 2 * (steps num den * _) ≤ _ at hround
  have hfirst : num = 0 ∨ twoTo 52 * (den * twoTo (shift num den)) ≤ num :=
    hnum.imp_right fun hnum => le_of_shift hden (.inr hnum)
  generalize hstep : den * twoTo (shift num den) = step at *
  rcases hfirst with rfl | hfirst
  · have hzero : steps 0 den = 0 := by
      by_contra hne
      have hle : 1 * step ≤ steps 0 den * step := Nat.mul_le_mul_right _ (Nat.pos_of_ne_zero hne)
      omega
    rw [hzero, Nat.zero_mul]
    exact ⟨Nat.zero_le _, Nat.zero_le _⟩
  · generalize steps num den * step = rounded at hround ⊢
    rw [show twoTo 52 = 4503599627370496 from rfl] at hfirst
    rw [show twoTo 53 = 9007199254740992 from rfl]
    omega

theorem close_units (hden : 0 < den) (hfinite : (nearest num den).isFinite = true)
    (hnum : num = 0 ∨ twoTo 52 * den ≤ num) : Close 1 ((nearest num den).units * den) num := by
  obtain ⟨hlow, hhigh⟩ := nearest_bounds hden hfinite hnum
  rw [show twoTo 53 = 2 ^ 53 from rfl] at hlow hhigh
  have hlow' : (2 ^ 53 : ℚ) * num ≤ 2 ^ 53 * ((nearest num den).units * den) + num := by
    exact_mod_cast hlow
  have hhigh' : (2 ^ 53 : ℚ) * ((nearest num den).units * den) ≤ 2 ^ 53 * num + num := by
    exact_mod_cast hhigh
  have hnonneg : (0 : ℚ) ≤ num := Nat.cast_nonneg num
  unfold Close unitRoundoff
  constructor <;> linarith

/-- A ratio in range is far from both ends, in units. -/
theorem InRange.bounds {x : ℚ} (h : InRange x) (hden : 0 < den) (hx : x * (den * unitsPerOne) = num) :
    num < twoTo 2097 * den ∧ (num = 0 ∨ twoTo 52 * den ≤ num) := by
  have hnonneg : (0 : ℚ) ≤ den * unitsPerOne := mul_nonneg (Nat.cast_nonneg den) (Nat.cast_nonneg _)
  have hlast : twoTo 100 * unitsPerOne < twoTo 2097 := by
    rw [unitsPerOne_eq, ← twoTo_add]
    exact twoTo_lt (by decide)
  have hfirst : twoTo 52 * twoTo 100 ≤ unitsPerOne := by
    rw [unitsPerOne_eq, ← twoTo_add]
    exact twoTo_le (by decide)
  rcases h with rfl | ⟨hlow, hhigh⟩
  · have hzero : num = 0 := by
      rw [zero_mul] at hx
      exact_mod_cast hx.symm
    rw [hzero]
    exact ⟨Nat.mul_pos (twoTo_pos _) hden, .inl rfl⟩
  · constructor
    · have hle : (num : ℚ) ≤ 2 ^ 100 * (den * unitsPerOne) := by
        rw [← hx]
        exact mul_le_mul_of_nonneg_right hhigh hnonneg
      have hle' : num ≤ twoTo 100 * (den * unitsPerOne) := by exact_mod_cast hle
      calc num ≤ twoTo 100 * unitsPerOne * den := by
            rwa [Nat.mul_assoc, Nat.mul_comm unitsPerOne]
        _ < twoTo 2097 * den := (Nat.mul_lt_mul_right hden).2 hlast
    · right
      have hle : (den * unitsPerOne : ℚ) ≤ 2 ^ 100 * num := by
        have := mul_le_mul_of_nonneg_right hlow hnonneg
        rw [hx] at this
        linarith
      have hle' : den * unitsPerOne ≤ twoTo 100 * num := by exact_mod_cast hle
      refine Nat.le_of_mul_le_mul_left ?_ (twoTo_pos 100)
      calc twoTo 100 * (twoTo 52 * den) = twoTo 52 * twoTo 100 * den := by
            rw [← Nat.mul_assoc, Nat.mul_comm (twoTo 52)]
        _ ≤ den * unitsPerOne := by
            rw [Nat.mul_comm den]
            exact Nat.mul_le_mul_right den hfirst
        _ ≤ twoTo 100 * num := hle'

/-- **A ratio is rounded to within one part in `2 ^ 53`**, if it is neither too small nor too large for it. -/
theorem close_value {x : ℚ} (hden : 0 < den) (hfinite : (nearest num den).isFinite = true)
    (hnum : num = 0 ∨ twoTo 52 * den ≤ num) (hx : x * (den * unitsPerOne) = num) :
    Close 1 (nearest num den).value x := by
  have hunits := close_units hden hfinite hnum
  have hden' : (0 : ℚ) < den := Nat.cast_pos.2 hden
  have hone : (0 : ℚ) < unitsPerOne := Nat.cast_pos.2 unitsPerOne_pos
  have hscaled := hunits.mul_left (one_div_pos.2 (mul_pos hden' hone)).le
  have hvalue : 1 / (den * unitsPerOne) * ((nearest num den).units * den) = (nearest num den).value := by
    unfold value
    field_simp
  have hratio : 1 / (den * unitsPerOne) * num = x := by
    rw [← hx]
    field_simp
  rwa [hvalue, hratio] at hscaled

theorem close_nearest {x : ℚ} (h : InRange x) (hden : 0 < den) (hx : x * (den * unitsPerOne) = num) :
    (nearest num den).isFinite = true ∧ Close 1 (nearest num den).value x := by
  obtain ⟨hlarge, hnum⟩ := h.bounds hden hx
  have hfinite := isFinite_nearest hden
    (Nat.lt_of_lt_of_le hlarge (Nat.mul_le_mul_right den (twoTo_le_overflow (by decide))))
  exact ⟨hfinite, close_value hden hfinite hnum hx⟩

theorem close_ofNat {n : Nat} (h : InRange n) :
    (ofNat n).isFinite = true ∧ Close 1 (ofNat n).value n := by
  refine close_nearest h Nat.one_pos ?_
  push_cast
  ring

theorem close_quotient {m n : Magnitude} (hn : 0 < n.units) (h : InRange (m.value / n.value)) :
    (nearest (m.units * unitsPerOne) n.units).isFinite = true
      ∧ Close 1 (nearest (m.units * unitsPerOne) n.units).value (m.value / n.value) := by
  have hone : (unitsPerOne : ℚ) ≠ 0 := Nat.cast_ne_zero.2 (Nat.ne_of_gt unitsPerOne_pos)
  have hn' : (n.units : ℚ) ≠ 0 := Nat.cast_ne_zero.2 (Nat.ne_of_gt hn)
  refine close_nearest h hn ?_
  unfold value
  rw [Nat.cast_mul]
  field_simp

theorem close_product {m n : Magnitude} (h : InRange (m.value * n.value)) :
    (nearest (m.units * n.units) unitsPerOne).isFinite = true
      ∧ Close 1 (nearest (m.units * n.units) unitsPerOne).value (m.value * n.value) := by
  have hone : (unitsPerOne : ℚ) ≠ 0 := Nat.cast_ne_zero.2 (Nat.ne_of_gt unitsPerOne_pos)
  refine close_nearest h unitsPerOne_pos ?_
  unfold value
  rw [Nat.cast_mul]
  field_simp

end Magnitude

end Fieldbook
