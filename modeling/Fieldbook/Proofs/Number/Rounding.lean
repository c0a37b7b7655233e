import Fieldbook.Number.Magnitude

/-!
# Rounding what needs no rounding

Arithmetic rounds an exact ratio of units to the nearest magnitude.  A ratio that is a magnitude
already is rounded to itself (`Magnitude.nearest_units`): in the binade of the magnitude the steps
divide its units, and the place is put together again from the binade and the steps.
-/

namespace Fieldbook

theorem twoTo_pos (n : Nat) : 0 < twoTo n := Nat.two_pow_pos n

theorem tenTo_pos (n : Nat) : 0 < tenTo n := Nat.pow_pos (by decide)

theorem binade_pos : 0 < binade := twoTo_pos 52

theorem unitsPerOne_pos : 0 < unitsPerOne := twoTo_pos 1074

theorem roundHalfEven_mul (steps : Nat) {den : Nat} (hden : 0 < den) :
    roundHalfEven (steps * den) den = steps := by
  have hlow : steps * den / den = steps := Nat.mul_div_cancel steps hden
  have hrest : steps * den % den = 0 := Nat.mul_mod_left steps den
  rw [roundHalfEven, hlow, hrest]
  exact if_pos (.inl hden)

namespace Magnitude

@[ext] theorem ext {m n : Magnitude} (h : m.place = n.place) : m = n := by
  cases m
  cases n
  cases h
  rfl

theorem eq_infinite_of_isFinite_eq_false {m : Magnitude} (h : m.isFinite = false) : m = infinite := by
  have hle := m.place_le
  have hge : infinitePlace ≤ m.place := by simpa [isFinite] using h
  apply ext
  show m.place = min infinitePlace infinitePlace
  omega

theorem ofPlace_place (m : Magnitude) : ofPlace m.place = m :=
  ext (Nat.min_eq_left m.place_le)

theorem units_of_lt {m : Magnitude} (h : m.place < binade) : m.units = m.place := by
  have hnumber : m.place / binade = 0 := Nat.div_eq_of_lt h
  have hstep : m.place % binade = m.place := Nat.mod_eq_of_lt h
  rw [units, hnumber, hstep]
  exact if_pos rfl

theorem units_of_le {m : Magnitude} (h : binade ≤ m.place) :
    m.units = (binade + m.place % binade) * twoTo (m.place / binade - 1) := by
  have hnumber : m.place / binade ≠ 0 := Nat.ne_of_gt (Nat.div_pos h binade_pos)
  rw [units]
  exact if_neg hnumber

theorem units_eq_zero_iff {m : Magnitude} : m.units = 0 ↔ m.isZero = true := by
  rw [isZero, beq_iff_eq]
  by_cases h : m.place < binade
  · rw [units_of_lt h]
  · have hle : binade ≤ m.place := Nat.le_of_not_lt h
    have hbinade := binade_pos
    have hpow := twoTo_pos (m.place / binade - 1)
    have hunits : 0 < m.units := by
      rw [units_of_le hle]
      exact Nat.mul_pos (by omega) hpow
    omega

theorem eq_zero_of_isZero {m : Magnitude} (h : m.isZero = true) : m = zero :=
  ext (beq_iff_eq.1 h)

/-- How far the steps of a binade are shifted. -/
theorem log2_units {m : Magnitude} (h : binade ≤ m.place) :
    m.units.log2 - 52 = m.place / binade - 1 := by
  have hstep : m.place % binade < binade := Nat.mod_lt _ binade_pos
  have hunits := units_of_le h
  generalize m.place / binade - 1 = shift at hunits ⊢
  have hpow : twoTo shift * twoTo 52 = 2 ^ (52 + shift) := by
    show 2 ^ shift * 2 ^ 52 = _
    rw [← Nat.pow_add, Nat.add_comm]
  have hlow : 2 ^ (52 + shift) ≤ m.units := by
    rw [hunits, ← hpow, Nat.mul_comm]
    exact Nat.mul_le_mul_right _ (Nat.le_add_right _ _)
  have hhigh : m.units < 2 ^ (52 + shift + 1) := by
    rw [hunits, Nat.pow_succ, ← hpow, Nat.mul_assoc, Nat.mul_comm]
    refine Nat.mul_lt_mul_of_pos_left ?_ (twoTo_pos shift)
    unfold binade at hstep ⊢
    omega
  have hne : m.units ≠ 0 := Nat.ne_of_gt (Nat.lt_of_lt_of_le (Nat.two_pow_pos _) hlow)
  rw [(Nat.log2_eq_iff hne).2 ⟨hlow, hhigh⟩]
  omega

/-- **A magnitude in units rounds to itself**, whatever the units are written over. -/
theorem nearest_units (m : Magnitude) {den : Nat} (hden : 0 < den) :
    nearest (m.units * den) den = m := by
  have hratio : m.units * den / den = m.units := Nat.mul_div_cancel _ hden
  rw [nearest, hratio]
  by_cases h : m.place < binade
  · have hunits := units_of_lt h
    have hshift : m.units.log2 - 52 = 0 := by
      by_cases hzero : m.units = 0
      · rw [hzero]
        rfl
      · have hlt : m.units.log2 < 52 := by
          rw [Nat.log2_lt hzero, hunits]
          exact h
        omega
    have hone : den * twoTo 0 = den := Nat.mul_one den
    rw [hshift, hone, roundHalfEven_mul _ hden, hunits, Nat.zero_mul, Nat.zero_add]
    exact ofPlace_place m
  · have hle : binade ≤ m.place := Nat.le_of_not_lt h
    have hnumber : 1 ≤ m.place / binade := Nat.div_pos hle binade_pos
    have hplace := Nat.div_add_mod m.place binade
    have hsteps : m.units * den
        = (binade + m.place % binade) * (den * twoTo (m.place / binade - 1)) := by
      rw [units_of_le hle, Nat.mul_assoc, Nat.mul_comm (twoTo _)]
    rw [log2_units hle, hsteps, roundHalfEven_mul _ (Nat.mul_pos hden (twoTo_pos _))]
    have hagain : (m.place / binade - 1) * binade + (binade + m.place % binade) = m.place := by
      obtain ⟨number, hnumber'⟩ := Nat.exists_eq_add_of_le' hnumber
      rw [hnumber'] at hplace ⊢
      rw [Nat.add_sub_cancel]
      rw [Nat.mul_add, Nat.mul_one, Nat.mul_comm] at hplace
      omega
    rw [hagain]
    exact ofPlace_place m

end Magnitude

end Fieldbook
