import Fieldbook.Aggregation
import Fieldbook.Proofs.Number.Accuracy
import Mathlib.Algebra.Order.Field.Basic

/-!
# Shares in percent

The share of the blank cells and that of all others are computed and rounded each on its own.  Before the
last rounding a share is off by less than `2 ^ -44` percent (`abs_percentage_sub_lt`), so the two shares add
up to a hundred unless the exact one is that near to the middle between two whole numbers, where both may be
rounded up (`Aggregation.shares_complementary`).
-/

namespace Fieldbook

namespace Magnitude

def rounded (m : Magnitude) : Nat := (2 * m.units + unitsPerOne) / (2 * unitsPerOne)

theorem rounded_bounds (m : Magnitude) :
    (m.rounded : ℚ) ≤ m.value + 1 / 2 ∧ m.value < m.rounded + 1 / 2 := by
  have hpos : 0 < 2 * unitsPerOne := Nat.mul_pos Nat.two_pos unitsPerOne_pos
  have hone : (0 : ℚ) < unitsPerOne := Nat.cast_pos.2 unitsPerOne_pos
  have hlow : m.rounded * (2 * unitsPerOne) ≤ 2 * m.units + unitsPerOne := Nat.div_mul_le_self _ _
  have hhigh : 2 * m.units + unitsPerOne < (m.rounded + 1) * (2 * unitsPerOne) := by
    rw [← Nat.div_lt_iff_lt_mul hpos]
    exact Nat.lt_succ_self _
  have hlow' : (m.rounded * (2 * unitsPerOne) : ℚ) ≤ 2 * m.units + unitsPerOne := by
    exact_mod_cast hlow
  have hhigh' : (2 * m.units + unitsPerOne : ℚ) < (m.rounded + 1) * (2 * unitsPerOne) := by
    exact_mod_cast hhigh
  have hvalue : m.value * unitsPerOne = m.units := by
    unfold value
    field_simp
  constructor
  · refine le_of_mul_le_mul_right ?_ hone
    linarith
  · refine lt_of_mul_lt_mul_right ?_ hone.le
    linarith

def share (part whole : Nat) : Magnitude :=
  nearest ((ofNat part).units * unitsPerOne) (ofNat whole).units

/-- **A share in percent**, before it is rounded to a whole number. -/
def percentage (part whole : Nat) : Magnitude :=
  nearest ((share part whole).units * (ofNat 100).units) unitsPerOne

/-! ### Before the last rounding -/

theorem inRange_of_lt {n : Nat} (h : n < twoTo 64) : InRange n := by
  rcases Nat.eq_zero_or_pos n with rfl | hpos
  · exact .inl Nat.cast_zero
  · have hone : (1 : ℚ) ≤ n := Nat.one_le_cast.2 hpos
    have hlt : (n : ℚ) < 2 ^ 64 := by exact_mod_cast h
    exact .inr ⟨by linarith, by linarith⟩

theorem value_ofNat_pos {n : Nat} (hpos : 0 < n) (h : n < twoTo 64) : 0 < (ofNat n).value := by
  obtain ⟨-, hn⟩ := close_ofNat (inRange_of_lt h)
  have hone : (1 : ℚ) ≤ n := Nat.one_le_cast.2 hpos
  obtain ⟨hlow, -⟩ := hn.le_two_mul (by decide) (value_nonneg _) (Nat.cast_nonneg n)
  linarith

theorem units_pos_of_value_pos {m : Magnitude} (h : 0 < m.value) : 0 < m.units := by
  refine Nat.pos_of_ne_zero fun hzero => ?_
  rw [value, hzero, Nat.cast_zero, zero_div] at h
  exact lt_irrefl 0 h

section

variable {part whole : Nat} (hpart : part ≤ whole) (hpos : 0 < whole) (hwhole : whole < twoTo 64)

include hpart hpos hwhole

/-- The share is off by three roundings, and neither too small nor too large for them. -/
theorem close_share : (share part whole).isFinite = true
    ∧ Close 3 (whole * (share part whole).value) part := by
  obtain ⟨-, hn⟩ := close_ofNat (inRange_of_lt hwhole)
  obtain ⟨-, he⟩ := close_ofNat (inRange_of_lt (Nat.lt_of_le_of_lt hpart hwhole))
  have hone : (1 : ℚ) ≤ whole := Nat.one_le_cast.2 hpos
  have hle : (part : ℚ) ≤ whole := Nat.cast_le.2 hpart
  have hlt : (whole : ℚ) < 2 ^ 64 := by exact_mod_cast hwhole
  have hvalue := (ofNat whole).value_nonneg
  have hvalue' := (ofNat part).value_nonneg
  obtain ⟨hnlow, hnhigh⟩ := hn.le_two_mul (by decide) hvalue (Nat.cast_nonneg whole)
  obtain ⟨helow, hehigh⟩ := he.le_two_mul (by decide) hvalue' (Nat.cast_nonneg part)
  have hnpos := value_ofNat_pos hpos hwhole
  have hrange : InRange ((ofNat part).value / (ofNat whole).value) := by
    rcases Nat.eq_zero_or_pos part with rfl | hpartpos
    · left
      rw [Nat.cast_zero, mul_zero] at hehigh
      rw [le_antisymm hehigh hvalue', zero_div]
    · right
      have hone' : (1 : ℚ) ≤ part := Nat.one_le_cast.2 hpartpos
      rw [le_div_iff₀ hnpos, div_le_iff₀ hnpos]
      constructor <;> linarith
  obtain ⟨hfinite, hshare⟩ := close_quotient (units_pos_of_value_pos hnpos) hrange
  refine ⟨hfinite, ?_⟩
  have hback : (ofNat whole).value * ((ofNat part).value / (ofNat whole).value) = (ofNat part).value :=
    mul_div_cancel₀ _ hnpos.ne'
  have hquotient := hshare.mul_left hvalue
  rw [hback] at hquotient
  have hshared := hn.symm.mul_left (share part whole).value_nonneg
  rw [mul_comm _ (whole : ℚ), mul_comm _ (ofNat whole).value] at hshared
  exact (hshared.trans hquotient).trans he

theorem close_percentage : (percentage part whole).isFinite = true
    ∧ Close 4 (whole * (percentage part whole).value) (100 * part) := by
  obtain ⟨-, hshare⟩ := close_share hpart hpos hwhole
  have hone : (1 : ℚ) ≤ whole := Nat.one_le_cast.2 hpos
  have hle : (part : ℚ) ≤ whole := Nat.cast_le.2 hpart
  have hlt : (whole : ℚ) < 2 ^ 64 := by exact_mod_cast hwhole
  have hvalue := (share part whole).value_nonneg
  obtain ⟨hlow, hhigh⟩ := hshare.le_two_mul (by decide) (by positivity) (Nat.cast_nonneg part)
  have hwholepos : (0 : ℚ) < whole := by linarith
  have hhundred : (ofNat 100).value = 100 := by
    have hkept : 100 < twoTo 53 := by decide
    rw [value_eq_of_units (units_ofNat hkept).1, Nat.cast_ofNat]
  have hrange : InRange ((share part whole).value * (ofNat 100).value) := by
    rw [hhundred]
    rcases Nat.eq_zero_or_pos part with rfl | hpartpos
    · left
      rw [Nat.cast_zero, mul_zero] at hhigh
      have hzero : (share 0 whole).value ≤ 0 := nonpos_of_mul_nonpos_right hhigh hwholepos
      rw [le_antisymm hzero hvalue, zero_mul]
    · right
      have hone' : (1 : ℚ) ≤ part := Nat.one_le_cast.2 hpartpos
      constructor
      · have hlarge : 1 / 2 ^ 65 ≤ (share part whole).value := by
          have hscaled := mul_le_mul_of_nonneg_right hlt.le hvalue
          rw [div_le_iff₀ (by positivity)]
          linarith
        linarith
      · have hsmall : (share part whole).value ≤ 2 := by
          refine le_of_mul_le_mul_left ?_ hwholepos
          linarith
        linarith
  obtain ⟨hfinite, hlast⟩ := close_product hrange
  refine ⟨hfinite, ?_⟩
  have hpercent := hshare.mul_left (c := 100) (by norm_num)
  have hscaled := hlast.mul_left hwholepos.le
  rw [hhundred, mul_comm _ (100 : ℚ), mul_left_comm] at hscaled
  exact hscaled.trans hpercent

/-- **How far a share in percent is off** before the last rounding. -/
theorem abs_percentage_sub_lt :
    |(percentage part whole).value - 100 * part / whole| < 1 / 2 ^ 44 := by
  obtain ⟨-, hclose⟩ := close_percentage hpart hpos hwhole
  have hwholepos : (0 : ℚ) < whole := Nat.cast_pos.2 hpos
  have hle : (part : ℚ) ≤ whole := Nat.cast_le.2 hpart
  have hvalue := (percentage part whole).value_nonneg
  obtain ⟨hlow, hhigh⟩ := hclose.bounds (le_refl 4) (by positivity) (by positivity)
  have hratio : whole * (100 * part / whole : ℚ) = 100 * part := mul_div_cancel₀ _ hwholepos.ne'
  unfold unitRoundoff at hlow hhigh
  rw [abs_lt]
  constructor
  · refine lt_of_mul_lt_mul_left ?_ hwholepos.le
    linarith
  · refine lt_of_mul_lt_mul_left ?_ hwholepos.le
    linarith

end

/-! ### The middle between two whole numbers -/

/-- The share in percent is in the middle between a whole number and the next. -/
def Halfway (k part whole : Nat) : Prop := 200 * part = (2 * k + 1) * whole

/-- The share in percent is no farther than `2 ^ -44` from the middle between two whole numbers. -/
def NearHalfway (part whole : Nat) : Prop :=
  ∃ k : ℤ, 2 ^ 43 * |200 * (part : ℤ) - (2 * k + 1) * whole| ≤ whole

theorem lt_abs_sub_of_not_nearHalfway {part whole : Nat} (hpos : 0 < whole)
    (h : ¬ NearHalfway part whole) (k : ℤ) : 1 / 2 ^ 44 < |(100 * part / whole : ℚ) - (k + 1 / 2)| := by
  have hwholepos : (0 : ℚ) < whole := Nat.cast_pos.2 hpos
  have hfar : (whole : ℤ) < 2 ^ 43 * |200 * (part : ℤ) - (2 * k + 1) * whole| :=
    not_le.1 fun hle => h ⟨k, hle⟩
  have hfar' : (whole : ℚ) < 2 ^ 43 * |200 * (part : ℚ) - (2 * k + 1) * whole| := by
    exact_mod_cast hfar
  have hdiff : (100 * part / whole : ℚ) - (k + 1 / 2)
      = (200 * (part : ℚ) - (2 * k + 1) * whole) / (2 * whole) := by
    field_simp
    ring
  rw [hdiff, abs_div, abs_of_pos (by positivity : (0 : ℚ) < 2 * whole), lt_div_iff₀ (by positivity)]
  linarith

theorem nearHalfway_of_sub {part whole : Nat} (hpart : part ≤ whole)
    (h : NearHalfway (whole - part) whole) : NearHalfway part whole := by
  obtain ⟨k, hk⟩ := h
  refine ⟨99 - k, ?_⟩
  rw [← abs_neg]
  convert hk using 3
  push_cast [hpart]
  ring

/-- Few cells have a share near to the middle only in the middle. -/
theorem exists_halfway_of_nearHalfway {part whole : Nat} (hpos : 0 < whole) (hwhole : whole < twoTo 43)
    (h : NearHalfway part whole) : ∃ k, Halfway k part whole := by
  obtain ⟨k, hk⟩ := h
  have hlt : (whole : ℤ) < 2 ^ 43 := by exact_mod_cast hwhole
  have hmiddle : 200 * (part : ℤ) = (2 * k + 1) * whole :=
    sub_eq_zero.1 (abs_nonpos_iff.1 (by omega))
  have hnonneg : 0 ≤ k := by
    by_contra hneg
    have hle : (2 * k + 1) * (whole : ℤ) ≤ -1 * whole :=
      mul_le_mul_of_nonneg_right (by omega) (Int.natCast_nonneg whole)
    omega
  obtain ⟨n, rfl⟩ := Int.eq_ofNat_of_zero_le hnonneg
  exact ⟨n, by exact_mod_cast hmiddle⟩

/-- The percentage in the middle between a whole number and the next, as it is computed. -/
def middle (k : Nat) : Magnitude :=
  nearest ((nearest ((2 * k + 1) * unitsPerOne) 200).units * (ofNat 100).units) unitsPerOne

theorem percentage_eq_middle {part whole k : Nat} (hpart : part ≤ whole) (hpos : 0 < whole)
    (hwhole : whole < twoTo 53) (h : Halfway k part whole) :
    percentage part whole = middle k := by
  have hshare : share part whole = nearest ((2 * k + 1) * unitsPerOne) 200 := by
    rw [share, (units_ofNat hwhole).1, (units_ofNat (Nat.lt_of_le_of_lt hpart hwhole)).1]
    refine nearest_congr (Nat.mul_pos hpos unitsPerOne_pos) (by decide) ?_
    calc part * unitsPerOne * unitsPerOne * 200 = 200 * part * unitsPerOne * unitsPerOne := by ring
      _ = (2 * k + 1) * whole * unitsPerOne * unitsPerOne := by rw [h]
      _ = (2 * k + 1) * unitsPerOne * (whole * unitsPerOne) := by ring
  rw [percentage, hshare]
  rfl

/-- The middle is rounded up, four cases apart: there what is computed is below the middle. -/
theorem rounded_middle : ∀ k < 100,
    (middle k).rounded = if k ∈ [14, 28, 56, 57] then k else k + 1 := by
  decide +kernel

/-! ### Two shares -/

/-- **What two shares in percent add up to**, that of some of the cells and that of all others. -/
structure Complementary (part whole share rest : Nat) : Prop where
  share_le : share ≤ 100
  rest_le : rest ≤ 100
  /-- Rounding twice is off by no more than one. -/
  around : 99 ≤ share + rest ∧ share + rest ≤ 101
  /-- Away from the middle between two whole numbers nothing is lost. -/
  sum_eq : ¬ NearHalfway part whole → share + rest = 100
  /-- For few cells only the middle itself is near. -/
  sum_eq_of_few : whole < twoTo 43 → (∀ k, ¬ Halfway k part whole) → share + rest = 100
  /-- In the middle both are rounded up, four cases apart for each. -/
  halfway : ∀ k, Halfway k part whole → whole < twoTo 53 →
    share = (if k ∈ [14, 28, 56, 57] then k else k + 1)
      ∧ rest = if k ∈ [42, 43, 71, 85] then 99 - k else 100 - k
  sum_eq_of_halfway : ∀ k, Halfway k part whole → whole < twoTo 53 →
    share + rest = if k ∈ [14, 28, 42, 43, 56, 57, 71, 85] then 100 else 101

section

variable {part whole : Nat} (hpart : part ≤ whole) (hpos : 0 < whole) (hwhole : whole < twoTo 64)

include hpart hpos hwhole

theorem rounded_percentage_le : (percentage part whole).rounded ≤ 100 := by
  have hwholepos : (0 : ℚ) < whole := Nat.cast_pos.2 hpos
  have hle : (part : ℚ) ≤ whole := Nat.cast_le.2 hpart
  have hclose := (abs_lt.1 (abs_percentage_sub_lt hpart hpos hwhole)).2
  have hratio : (100 * part / whole : ℚ) ≤ 100 := by
    rw [div_le_iff₀ hwholepos]
    linarith
  have hround := (rounded_bounds (percentage part whole)).1
  have hlt : ((percentage part whole).rounded : ℚ) < 101 := by linarith
  exact Nat.le_of_lt_succ (by exact_mod_cast hlt)

theorem abs_sub_rounded_lt (h : ¬ NearHalfway part whole) :
    |(100 * part / whole : ℚ) - (percentage part whole).rounded| < 1 / 2 := by
  obtain ⟨hlow, hhigh⟩ := abs_lt.1 (abs_percentage_sub_lt hpart hpos hwhole)
  obtain ⟨hround, hround'⟩ := rounded_bounds (percentage part whole)
  have hfar := lt_abs_sub_of_not_nearHalfway hpos h
  generalize (100 * part / whole : ℚ) = exact at *
  generalize (percentage part whole).value = value at *
  generalize (percentage part whole).rounded = rounded at *
  rw [abs_lt]
  constructor
  · have hbelow := hfar (rounded - 1)
    push_cast at hbelow
    by_contra hle
    rw [abs_of_nonpos (by linarith)] at hbelow
    linarith
  · have habove := hfar rounded
    push_cast at habove
    by_contra hle
    rw [abs_of_nonneg (by linarith)] at habove
    linarith

omit hwhole in
theorem percent_add_percent : (100 * part / whole : ℚ) + 100 * (whole - part : Nat) / whole = 100 := by
  have hwholepos : (0 : ℚ) < whole := Nat.cast_pos.2 hpos
  rw [Nat.cast_sub hpart]
  field_simp
  ring

theorem rounded_add_bounds :
    99 ≤ (percentage part whole).rounded + (percentage (whole - part) whole).rounded
      ∧ (percentage part whole).rounded + (percentage (whole - part) whole).rounded ≤ 101 := by
  have hsum := percent_add_percent hpart hpos
  obtain ⟨hshare, hshare'⟩ := abs_lt.1 (abs_percentage_sub_lt hpart hpos hwhole)
  obtain ⟨hrest, hrest'⟩ := abs_lt.1 (abs_percentage_sub_lt (Nat.sub_le whole part) hpos hwhole)
  obtain ⟨hround, hround'⟩ := rounded_bounds (percentage part whole)
  obtain ⟨hrounded, hrounded'⟩ := rounded_bounds (percentage (whole - part) whole)
  generalize (percentage part whole).rounded = p at *
  generalize (percentage (whole - part) whole).rounded = q at *
  have hlow : (98 : ℚ) < p + q := by linarith
  have hhigh : (p + q : ℚ) < 102 := by linarith
  have hlow' : 98 < p + q := by exact_mod_cast hlow
  have hhigh' : p + q < 102 := by exact_mod_cast hhigh
  omega

theorem rounded_add_of_not_nearHalfway (h : ¬ NearHalfway part whole) :
    (percentage part whole).rounded + (percentage (whole - part) whole).rounded = 100 := by
  have hsum := percent_add_percent hpart hpos
  have hnear : ¬ NearHalfway (whole - part) whole := fun h' => h (nearHalfway_of_sub hpart h')
  obtain ⟨hshare, hshare'⟩ := abs_lt.1 (abs_sub_rounded_lt hpart hpos hwhole h)
  obtain ⟨hrest, hrest'⟩ := abs_lt.1 (abs_sub_rounded_lt (Nat.sub_le whole part) hpos hwhole hnear)
  generalize (percentage part whole).rounded = p at *
  generalize (percentage (whole - part) whole).rounded = q at *
  have hlow : (99 : ℚ) < p + q := by linarith
  have hhigh : (p + q : ℚ) < 101 := by linarith
  have hlow' : 99 < p + q := by exact_mod_cast hlow
  have hhigh' : p + q < 101 := by exact_mod_cast hhigh
  omega

omit hpos hwhole in
theorem halfway_sub {k : Nat} (h : Halfway k part whole) (hlt : k < 100) :
    Halfway (99 - k) (whole - part) whole := by
  have hsplit : (2 * (99 - k) + 1) * whole + (2 * k + 1) * whole = 200 * whole := by
    rw [← Nat.add_mul]
    congr 1
    omega
  unfold Halfway at h ⊢
  omega

omit hwhole in
theorem lt_of_halfway {k : Nat} (h : Halfway k part whole) : k < 100 := by
  by_contra hge
  have hle : 201 * whole ≤ (2 * k + 1) * whole := Nat.mul_le_mul_right _ (by omega)
  unfold Halfway at h
  omega

omit hwhole in
theorem rounded_of_halfway {k : Nat} (h : Halfway k part whole) (hfew : whole < twoTo 53) :
    (percentage part whole).rounded = (if k ∈ [14, 28, 56, 57] then k else k + 1)
      ∧ (percentage (whole - part) whole).rounded
        = if k ∈ [42, 43, 71, 85] then 99 - k else 100 - k := by
  have hlt := lt_of_halfway hpart hpos h
  have hother := halfway_sub hpart h hlt
  -- What is below the middle for the one is above it for the other.
  have hmirror : 99 - k ∈ [14, 28, 56, 57] ↔ k ∈ [42, 43, 71, 85] := by
    simp only [List.mem_cons, List.not_mem_nil, or_false]
    omega
  have hnext : 99 - k + 1 = 100 - k := by omega
  rw [percentage_eq_middle hpart hpos hfew h,
    percentage_eq_middle (Nat.sub_le whole part) hpos hfew hother,
    rounded_middle k hlt, rounded_middle (99 - k) (by omega), hnext]
  simp only [hmirror, true_and]

omit hwhole in
theorem rounded_add_of_halfway {k : Nat} (h : Halfway k part whole) (hfew : whole < twoTo 53) :
    (percentage part whole).rounded + (percentage (whole - part) whole).rounded
      = if k ∈ [14, 28, 42, 43, 56, 57, 71, 85] then 100 else 101 := by
  have hlt := lt_of_halfway hpart hpos h
  obtain ⟨hshare, hrest⟩ := rounded_of_halfway hpart hpos h hfew
  rw [hshare, hrest]
  simp only [List.mem_cons, List.not_mem_nil, or_false]
  split <;> split <;> split <;> omega

theorem complementary : Complementary part whole
    (percentage part whole).rounded (percentage (whole - part) whole).rounded where
  share_le := rounded_percentage_le hpart hpos hwhole
  rest_le := rounded_percentage_le (Nat.sub_le whole part) hpos hwhole
  around := rounded_add_bounds hpart hpos hwhole
  sum_eq := rounded_add_of_not_nearHalfway hpart hpos hwhole
  sum_eq_of_few hfew hmiddle := rounded_add_of_not_nearHalfway hpart hpos hwhole fun hnear =>
    (exists_halfway_of_nearHalfway hpos hfew hnear).elim hmiddle
  halfway _ h hfew := rounded_of_halfway hpart hpos h hfew
  sum_eq_of_halfway _ h hfew := rounded_add_of_halfway hpart hpos h hfew

end

end Magnitude

namespace Aggregation

open Magnitude

/-- **A share of cells in percent**, as a whole number. -/
theorem percent_eq {cells : List Cell} (hne : cells ≠ []) (hlength : cells.length < twoTo 64)
    (condition : Cell → Bool) :
    percent cells condition = .ofNat (percentage (cells.countP condition) cells.length).rounded := by
  have hpart : cells.countP condition ≤ cells.length := List.countP_le_length
  have hpos : 0 < cells.length := List.length_pos_iff.2 hne
  obtain ⟨hpartFinite, -⟩ := close_ofNat (inRange_of_lt (Nat.lt_of_le_of_lt hpart hlength))
  obtain ⟨hwholeFinite, hwhole⟩ := close_ofNat (inRange_of_lt hlength)
  obtain ⟨hshareFinite, -⟩ := close_share hpart hpos hlength
  obtain ⟨hfinite, -⟩ := close_percentage hpart hpos hlength
  have hzero : (Magnitude.ofNat cells.length).isZero = false := by
    have hunits := units_pos_of_value_pos (value_ofNat_pos hpos hlength)
    rw [Bool.eq_false_iff, ne_eq, ← units_eq_zero_iff]
    exact Nat.ne_of_gt hunits
  have hhundred : (Magnitude.ofNat 100).isFinite = true := (units_ofNat (by decide)).2
  have hquotient : Number.ofNat (cells.countP condition) / .ofNat cells.length
      = .signed false (Magnitude.share (cells.countP condition) cells.length) := by
    show Number.div (.signed false _) (.signed false _) = _
    simp only [Number.div, hpartFinite, hwholeFinite, hzero, bne_self_eq_false, Bool.not_true,
      Bool.false_eq_true, if_false]
    rfl
  have hproduct : Number.signed false (Magnitude.share (cells.countP condition) cells.length) * 100
      = .signed false (percentage (cells.countP condition) cells.length) := by
    show Number.mul (.signed false _) (.signed false _) = _
    simp only [Number.mul, hshareFinite, hhundred, bne_self_eq_false, Bool.and_true, if_true]
    rfl
  rw [percent, if_neg (by simpa using hne), hquotient, hproduct]
  simp only [Number.roundHalfAway, Number.mapWhole, hfinite, if_true]
  rfl

/-- **The shares of blank and of filled cells.** -/
theorem shares_complementary {cells : List Cell} (hne : cells ≠ []) (hlength : cells.length < twoTo 64) :
    ∃ empty filled : Nat,
      percentEmpty.apply cells = .number (.ofNat empty)
      ∧ percentFilled.apply cells = .number (.ofNat filled)
      ∧ Complementary (cells.countP Cell.isBlank) cells.length empty filled := by
  have hpart : cells.countP Cell.isBlank ≤ cells.length := List.countP_le_length
  have hrest : cells.countP (fun c => !c.isBlank) = cells.length - cells.countP Cell.isBlank := by
    have hsum := cells.length_eq_countP_add_countP Cell.isBlank
    have hnot : (fun c : Cell => !c.isBlank) = fun c => decide ¬c.isBlank = true := by
      funext c
      cases c.isBlank <;> rfl
    rw [hnot]
    omega
  refine ⟨_, _, congrArg Cell.number (percent_eq hne hlength _),
    congrArg Cell.number (percent_eq hne hlength _), ?_⟩
  rw [hrest]
  exact complementary hpart (List.length_pos_iff.2 hne) hlength

theorem shares_complementary_two_in_three :
    ∃ empty filled : Nat,
      percentEmpty.apply [.null, .text "", .text "x"] = .number (.ofNat empty)
      ∧ percentFilled.apply [.null, .text "", .text "x"] = .number (.ofNat filled)
      ∧ empty + filled = 100 := by
  obtain ⟨empty, filled, hempty, hfilled, hsum⟩ :=
    @shares_complementary [.null, .text "", .text "x"] (by decide) (by decide)
  refine ⟨empty, filled, hempty, hfilled, hsum.sum_eq_of_few (by decide) ?_⟩
  intro k hk
  change 200 * 2 = (2 * k + 1) * 3 at hk
  omega

/-- **One blank cell in eight** is 12.5 percent, and both shares are rounded up. -/
theorem not_shares_of_one_in_eight :
    ¬ ∀ cells : List Cell, cells ≠ [] → ∃ empty filled : Nat,
      percentEmpty.apply cells = .number (.ofNat empty)
      ∧ percentFilled.apply cells = .number (.ofNat filled)
      ∧ empty ≤ 100 ∧ filled ≤ 100 ∧ empty + filled = 100 := by
  intro h
  obtain ⟨empty, filled, hempty, hfilled, hle, hle', hsum⟩ :=
    h (.null :: List.replicate 7 (.number 1)) (List.cons_ne_nil _ _)
  have hemptyValue : percentEmpty.apply (.null :: List.replicate 7 (.number 1)) = .number (.ofNat 13) := by
    decide +kernel
  have hfilledValue : percentFilled.apply (.null :: List.replicate 7 (.number 1)) = .number (.ofNat 88) := by
    decide +kernel
  have hsmall : twoTo 53 = 9007199254740992 := rfl
  have hempty' : empty = 13 := by
    injection hempty.symm.trans hemptyValue with hnumber
    injection hnumber with _ hmagnitude
    exact Magnitude.ofNat_inj (by omega) (by omega) hmagnitude
  have hfilled' : filled = 88 := by
    injection hfilled.symm.trans hfilledValue with hnumber
    injection hnumber with _ hmagnitude
    exact Magnitude.ofNat_inj (by omega) (by omega) hmagnitude
  omega

end Aggregation

end Fieldbook
