import Fieldbook.Cell
import Fieldbook.Proofs.Number.Rounding

/-!
# The two orders of numbers

Values are compared by rank, where both zeros are one, and numbers are sorted by their places on one
line, where every number has a place of its own (`Number.totalCompare_eq_iff`).  The line keeps the order of
values (`Number.totalCompare_of_less`).  So the two orders part in one pair of numbers only: the zeros are
equal values, and negative zero stands before zero (`Number.equal_iff`).

Whatever a cell holds counts as a finite number (`Cell.isFinite_toNumber`), and of two finite numbers one is
below the other or they are equal values (`Number.count_comparisons`).
-/

namespace Fieldbook

namespace Number

variable {x y z : Number}

/-! ### Values in order -/

theorem exists_rank (h : x.isFinite = true) : ∃ a, x.rank = some a := by
  cases x with
  | nan => cases h
  | signed s m => exact ⟨_, rfl⟩

theorem isNaN_of_isFinite (h : x.isFinite = true) : x.isNaN = false := by
  cases x with
  | nan => cases h
  | signed => rfl

theorem less_iff : x.less y = true ↔ ∃ a b, x.rank = some a ∧ y.rank = some b ∧ a < b := by
  unfold less
  cases x.rank <;> cases y.rank <;> simp

theorem equal_iff_rank : x.equal y = true ↔ ∃ a, x.rank = some a ∧ y.rank = some a := by
  unfold equal
  cases x.rank with
  | none => simp
  | some a =>
    cases y.rank with
    | none => simp
    | some b => simp [@eq_comm _ b a]

/-- **Of two finite numbers one is below the other or they are equal values**, and only one of the
three. -/
theorem count_comparisons (hx : x.isFinite = true) (hy : y.isFinite = true) :
    [y.less x, x.less y, x.equal y].count true = 1 := by
  obtain ⟨a, ha⟩ := exists_rank hx
  obtain ⟨b, hb⟩ := exists_rank hy
  simp only [less, equal, ha, hb]
  rcases Int.lt_trichotomy a b with h | rfl | h
  · simp [h, Int.ne_of_lt h, Int.not_lt.2 (Int.le_of_lt h)]
  · simp
  · simp [h, Int.ne_of_gt h, Int.not_lt.2 (Int.le_of_lt h)]

theorem lessEq_iff : x.lessEq y = true ↔ ∃ a b, x.rank = some a ∧ y.rank = some b ∧ a ≤ b := by
  unfold lessEq
  cases x.rank <;> cases y.rank <;> simp

theorem lessEq_refl (h : x.isFinite = true) : x.lessEq x = true := by
  obtain ⟨a, ha⟩ := exists_rank h
  exact lessEq_iff.2 ⟨a, a, ha, ha, Int.le_refl a⟩

theorem lessEq_trans (hxy : x.lessEq y = true) (hyz : y.lessEq z = true) : x.lessEq z = true := by
  obtain ⟨a, b, ha, hb, hab⟩ := lessEq_iff.1 hxy
  obtain ⟨b', c, hb', hc, hbc⟩ := lessEq_iff.1 hyz
  obtain rfl := Option.some.inj (hb.symm.trans hb')
  exact lessEq_iff.2 ⟨a, c, ha, hc, Int.le_trans hab hbc⟩

theorem lessEq_of_less (h : x.less y = true) : x.lessEq y = true := by
  obtain ⟨a, b, ha, hb, hlt⟩ := less_iff.1 h
  exact lessEq_iff.2 ⟨a, b, ha, hb, Int.le_of_lt hlt⟩

theorem lessEq_of_not_less (hx : x.isFinite = true) (hy : y.isFinite = true)
    (h : ¬ x.less y = true) : y.lessEq x = true := by
  obtain ⟨a, ha⟩ := exists_rank hx
  obtain ⟨b, hb⟩ := exists_rank hy
  have hle : ¬ a < b := fun hlt => h (less_iff.2 ⟨a, b, ha, hb, hlt⟩)
  exact lessEq_iff.2 ⟨b, a, hb, ha, Int.not_lt.1 hle⟩

theorem equal_of_lessEq (hxy : x.lessEq y = true) (hyx : y.lessEq x = true) : x.equal y = true := by
  obtain ⟨a, b, ha, hb, hab⟩ := lessEq_iff.1 hxy
  obtain ⟨b', a', hb', ha', hba⟩ := lessEq_iff.1 hyx
  obtain rfl := Option.some.inj (ha.symm.trans ha')
  obtain rfl := Option.some.inj (hb.symm.trans hb')
  exact equal_iff_rank.2 ⟨a, ha, Int.le_antisymm hba hab ▸ hb⟩

theorem less_of_not_less_left (hx : x.isFinite = true) (hxy : ¬ y.less x = true)
    (hyz : y.less z = true) : x.less z = true := by
  obtain ⟨a, ha⟩ := exists_rank hx
  obtain ⟨b, c, hb, hc, hlt⟩ := less_iff.1 hyz
  have hle : ¬ b < a := fun h => hxy (less_iff.2 ⟨b, a, hb, ha, h⟩)
  exact less_iff.2 ⟨a, c, ha, hc, by omega⟩

theorem less_of_not_less_right (hy : y.isFinite = true) (hxy : ¬ y.less x = true)
    (hzx : z.less x = true) : z.less y = true := by
  obtain ⟨b, hb⟩ := exists_rank hy
  obtain ⟨c, a, hc, ha, hlt⟩ := less_iff.1 hzx
  have hle : ¬ b < a := fun h => hxy (less_iff.2 ⟨b, a, hb, ha, h⟩)
  exact less_iff.2 ⟨c, b, hc, hb, by omega⟩

/-! ### Places on the line -/

/-- A number stands at its rank, or one before it if it is negative. -/
theorem totalPlace_of_rank {a : Int} (h : x.rank = some a) :
    (x.totalPlace = a ∧ 0 ≤ a) ∨ (x.totalPlace = a - 1 ∧ a ≤ 0) := by
  cases x with
  | nan => cases h
  | signed s m =>
    cases s with
    | false =>
      cases h
      exact .inl ⟨rfl, Int.natCast_nonneg _⟩
    | true =>
      cases h
      exact .inr ⟨rfl, by simp⟩

theorem totalPlace_injective (h : x.totalPlace = y.totalPlace) : x = y := by
  match x, y with
  | nan, nan => rfl
  | nan, signed false n | nan, signed true n =>
    have := n.place_le
    simp only [totalPlace] at h
    omega
  | signed false m, nan | signed true m, nan =>
    have := m.place_le
    simp only [totalPlace] at h
    omega
  | signed false m, signed true n | signed true m, signed false n =>
    simp only [totalPlace] at h
    omega
  | signed false m, signed false n | signed true m, signed true n =>
    simp only [totalPlace] at h
    rw [Magnitude.ext (show m.place = n.place by omega)]

theorem totalCompare_eq_iff : x.totalCompare y = .eq ↔ x = y := by
  rw [totalCompare, Int.compare_eq_eq]
  exact ⟨totalPlace_injective, congrArg totalPlace⟩

theorem totalCompare_swap (x y : Number) : (x.totalCompare y).swap = y.totalCompare x :=
  Int.compare_swap _ _

/-- **The line keeps the order of values.** -/
theorem totalCompare_of_less (h : x.less y = true) : x.totalCompare y = .lt := by
  obtain ⟨a, b, ha, hb, hlt⟩ := less_iff.1 h
  rw [totalCompare, Int.compare_eq_lt]
  rcases totalPlace_of_rank ha with hx | hx <;> rcases totalPlace_of_rank hb with hy | hy <;> omega

/-- **Equal values are one number, or the two zeros.** -/
theorem equal_iff : x.equal y = true ↔
    (x = y ∧ x ≠ nan) ∨ (x = negativeZero ∧ y = zero) ∨ (x = zero ∧ y = negativeZero) := by
  have hzero : zero.totalPlace = 0 := rfl
  have hnegative : negativeZero.totalPlace = -1 := rfl
  rw [equal_iff_rank]
  constructor
  · rintro ⟨a, ha, hb⟩
    have hnan : x ≠ nan := by
      rintro rfl
      cases ha
    -- Of one rank, two numbers stand at one place or next to each other around zero.
    rcases totalPlace_of_rank ha with ⟨hx, hxa⟩ | ⟨hx, hxa⟩ <;>
      rcases totalPlace_of_rank hb with ⟨hy, hya⟩ | ⟨hy, hya⟩
    · exact .inl ⟨totalPlace_injective (by omega), hnan⟩
    · exact .inr (.inr ⟨totalPlace_injective (by omega), totalPlace_injective (by omega)⟩)
    · exact .inr (.inl ⟨totalPlace_injective (by omega), totalPlace_injective (by omega)⟩)
    · exact .inl ⟨totalPlace_injective (by omega), hnan⟩
  · rintro (⟨rfl, hnan⟩ | ⟨rfl, rfl⟩ | ⟨rfl, rfl⟩)
    · cases x with
      | nan => exact absurd rfl hnan
      | signed s m => exact ⟨_, rfl, rfl⟩
    · exact ⟨0, rfl, rfl⟩
    · exact ⟨0, rfl, rfl⟩

theorem isZero_iff : x.isZero = true ↔ x = negativeZero ∨ x = zero := by
  constructor
  · intro h
    match x with
    | signed true m =>
      have hplace : m.place = 0 := eq_of_beq h
      exact .inl (congrArg (signed true) (Magnitude.ext hplace))
    | signed false m =>
      have hplace : m.place = 0 := eq_of_beq h
      exact .inr (congrArg (signed false) (Magnitude.ext hplace))
  · rintro (rfl | rfl) <;> rfl

theorem equal_of_isZero (hx : x.isZero = true) (hy : y.isZero = true) : x.equal y = true := by
  rcases isZero_iff.1 hx with rfl | rfl <;> rcases isZero_iff.1 hy with rfl | rfl <;> rfl

theorem isZero_eq_of_equal (h : x.equal y = true) : x.isZero = y.isZero := by
  rcases equal_iff.1 h with ⟨rfl, -⟩ | ⟨rfl, rfl⟩ | ⟨rfl, rfl⟩ <;> rfl

/-! ### Numbers of texts and cells -/

theorem isFinite_zero : isFinite 0 = true := by
  decide +kernel

theorem isFinite_ite (n : Number) : isFinite (if n.isFinite then n else 0) = true := by
  split
  · assumption
  · exact isFinite_zero

theorem isFinite_ofText (s : String) : (ofText s).isFinite = true := by
  unfold ofText
  split
  · exact isFinite_ite _
  · exact isFinite_zero

end Number

/-- **Whatever a cell holds counts as a finite number.** -/
theorem Cell.isFinite_toNumber (c : Cell) : c.toNumber.isFinite = true := by
  cases c with
  | null => exact Number.isFinite_zero
  | bool b =>
    cases b with
    | false => exact Number.isFinite_zero
    | true => decide +kernel
  | number n => exact Number.isFinite_ite n
  | text s => exact Number.isFinite_ofText s
  | list items => exact Number.isFinite_ofText _

end Fieldbook
