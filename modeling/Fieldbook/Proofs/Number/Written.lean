import Fieldbook.Number.Decimal
import Fieldbook.Proofs.Number.Rounding
import Fieldbook.Proofs.Text.Runs

/-!
# Numbers read back from their text

The text of a finite magnitude is digits, with at most one point, which stands between digits, and it
reads as the magnitude (`Magnitude.exists_reads`).  A whole number below `10 ^ 21` is written out.
Anything else is written as a decimal that was chosen because it reads back
(`Decimal.magnitude_shortest`), and a decimal may be set out in three ways, all of which keep its value
(`Decimal.exists_reads`).
-/

namespace Fieldbook

/-! ### Digits -/

theorem digitsValue_toDigits (n : Nat) : digitsValue (Nat.toDigits 10 n) = n :=
  Nat.ofDigitChars_ten_toDigits

theorem digitsValue_zeros_append (count : Nat) (cs : List Char) :
    digitsValue (List.replicate count '0' ++ cs) = digitsValue cs := by
  show Nat.ofDigitChars 10 _ 0 = _
  rw [Nat.ofDigitChars_append, Nat.ofDigitChars_replicate_zero, Nat.mul_zero]
  rfl

theorem digitsValue_append_zeros (cs : List Char) (count : Nat) :
    digitsValue (cs ++ List.replicate count '0') = digitsValue cs * tenTo count := by
  show Nat.ofDigitChars 10 _ 0 = _
  rw [Nat.ofDigitChars_append, Nat.ofDigitChars_replicate_zero, Nat.mul_comm]
  rfl

theorem isDigit_of_mem_toDigits {n : Nat} {c : Char} (h : c ∈ Nat.toDigits 10 n) :
    c.isDigit = true :=
  Nat.isDigit_of_mem_toDigits (by decide) (by decide) h

theorem isDigit_of_mem_zeros_append {count n : Nat} {c : Char}
    (h : c ∈ List.replicate count '0' ++ Nat.toDigits 10 n) : c.isDigit = true := by
  rcases List.mem_append.1 h with h | h
  · rw [List.eq_of_mem_replicate h]
    rfl
  · exact isDigit_of_mem_toDigits h

/-! ### Digits with a point among them -/

/-- Digits with a point among them, or without one where nothing stands behind it. -/
def pointed (front back : List Char) : List Char :=
  front ++ if back.isEmpty then [] else '.' :: back

theorem pointed_nil (front : List Char) : pointed front [] = front := List.append_nil front

theorem pointed_of_ne_nil (front : List Char) {back : List Char} (h : back ≠ []) :
    pointed front back = front ++ '.' :: back := by
  rw [pointed, List.isEmpty_eq_false_iff.2 h]
  rfl

theorem splitDigits_point {front back rest : List Char} (hfront : ∀ c ∈ front, c.isDigit = true)
    (hback : ∀ c ∈ back, c.isDigit = true) (hrest : ∀ c ∈ rest.head?, c.isDigit = false) :
    splitDigits (front ++ '.' :: (back ++ rest)) = (front, back, rest) := by
  have hpoint : ∀ c ∈ ('.' :: (back ++ rest)).head?, c.isDigit = false := by
    intro c hc
    obtain rfl : c = '.' := by simpa using hc.symm
    rfl
  rw [splitDigits, takeWhile_run hfront hpoint, dropWhile_run hfront hpoint]
  show (front, (back ++ rest).takeWhile Char.isDigit, (back ++ rest).dropWhile Char.isDigit) = _
  rw [takeWhile_run hback hrest, dropWhile_run hback hrest]

theorem splitDigits_whole {front rest : List Char} (hfront : ∀ c ∈ front, c.isDigit = true)
    (hrest : ∀ c ∈ rest.head?, c.isDigit = false) (hpoint : ∀ c ∈ rest.head?, c ≠ '.') :
    splitDigits (front ++ rest) = (front, [], rest) := by
  rw [splitDigits, takeWhile_run hfront hrest, dropWhile_run hfront hrest]
  split
  · exact absurd rfl (hpoint '.' rfl)
  · rfl

theorem eq_of_splitDigits {cs front back rest : List Char}
    (h : splitDigits cs = (front, back, rest)) :
    (∀ c ∈ front, c.isDigit = true) ∧ (∀ c ∈ back, c.isDigit = true) ∧
      (∀ c ∈ rest.head?, c.isDigit = false) ∧
      (cs = front ++ '.' :: (back ++ rest) ∨
        back = [] ∧ cs = front ++ rest ∧ ∀ c ∈ rest.head?, c ≠ '.') := by
  have hsplit := List.takeWhile_append_dropWhile (p := Char.isDigit) (l := cs)
  have hstop : ∀ c ∈ (cs.dropWhile Char.isDigit).head?, c.isDigit = false := by
    intro c hc
    have := List.head?_dropWhile_not Char.isDigit cs
    rw [hc] at this
    simpa using this
  unfold splitDigits at h
  split at h
  · rename_i tail hdrop
    obtain ⟨rfl, rfl, rfl⟩ : _ ∧ _ ∧ _ := by simpa only [Prod.mk.injEq] using h
    have htail := List.head?_dropWhile_not Char.isDigit tail
    refine ⟨List.all_eq_true.1 List.all_takeWhile, List.all_eq_true.1 List.all_takeWhile, ?_, .inl ?_⟩
    · intro c hc
      rw [hc] at htail
      simpa using htail
    · rw [List.takeWhile_append_dropWhile, ← hdrop, hsplit]
  · rename_i hpoint
    obtain ⟨rfl, rfl, rfl⟩ : _ ∧ _ ∧ _ := by simpa only [Prod.mk.injEq] using h
    refine ⟨List.all_eq_true.1 List.all_takeWhile, nofun, hstop, .inr ⟨rfl, hsplit.symm, ?_⟩⟩
    rintro c hc rfl
    obtain ⟨tail, hdrop⟩ := List.head?_eq_some_iff.1 hc
    exact hpoint tail hdrop

/-- Digits with a point among them are told apart where no digit and no point follows. -/
theorem splitDigits_pointed {front back rest : List Char} (hfront : ∀ c ∈ front, c.isDigit = true)
    (hback : ∀ c ∈ back, c.isDigit = true)
    (hrest : ∀ c ∈ rest.head?, c.isDigit = false ∧ c ≠ '.') :
    splitDigits (pointed front back ++ rest) = (front, back, rest) := by
  have hstop : ∀ c ∈ rest.head?, c.isDigit = false := fun c hc => (hrest c hc).1
  by_cases hnil : back = []
  · subst hnil
    rw [pointed_nil]
    exact splitDigits_whole hfront hstop fun c hc => (hrest c hc).2
  · rw [pointed_of_ne_nil front hnil, List.append_assoc, List.cons_append]
    exact splitDigits_point hfront hback hstop

/-- **Digits that stand for a magnitude**, with a point between them where any stand behind it. -/
structure Reads (front back : List Char) (m : Magnitude) : Prop where
  front_ne_nil : front ≠ []
  isDigit_front : ∀ c ∈ front, c.isDigit = true
  isDigit_back : ∀ c ∈ back, c.isDigit = true
  ofDigits_eq : Magnitude.ofDigits front back 0 = m

/-! ### Decimals -/

namespace Magnitude

theorem ofDecimal_whole (digits : Nat) :
    ofDecimal digits 0 = nearest (digits * unitsPerOne) 1 := by
  by_cases hzero : digits = 0
  · subst hzero
    rw [Nat.zero_mul]
    rfl
  · have hbig : ¬ (310 : Int) ≤ 0 := by decide
    have hsmall : ¬ (0 : Int) + (digits.log2 + 1) < -330 := by omega
    have hone : digits * tenTo (0 : Int).toNat = digits := Nat.mul_one digits
    rw [ofDecimal, if_neg hzero, if_neg hbig, if_neg hsmall, if_pos (Int.le_refl 0), hone]

/-- A power of ten that is not too large may be written out. -/
theorem ofDecimal_mul_tenTo {digits : Nat} (hzero : digits ≠ 0) {exponent : Int}
    (hnonneg : 0 ≤ exponent) (hlt : exponent < 310) :
    ofDecimal (digits * tenTo exponent.toNat) 0 = ofDecimal digits exponent := by
  have hbig : ¬ 310 ≤ exponent := by omega
  have hsmall : ¬ exponent + (digits.log2 + 1) < -330 := by omega
  rw [ofDecimal_whole, ofDecimal, if_neg hzero, if_neg hbig, if_neg hsmall, if_pos hnonneg]

end Magnitude

namespace Decimal

variable {d : Decimal}

/-! Zeros behind the digits, a point among them, or a point and zeros in front of them. -/

theorem reads_zeros_behind (hzero : d.digits ≠ 0) (hnonneg : 0 ≤ d.exponent)
    (hlt : d.exponent < 310) :
    Reads (Nat.toDigits 10 d.digits ++ List.replicate d.exponent.toNat '0') [] d.magnitude where
  front_ne_nil := List.append_ne_nil_of_left_ne_nil Nat.toDigits_ne_nil _
  isDigit_front c hc := by
    rcases List.mem_append.1 hc with hc | hc
    · exact isDigit_of_mem_toDigits hc
    · rw [List.eq_of_mem_replicate hc]
      rfl
  isDigit_back c hc := by cases hc
  ofDigits_eq := by
    show Magnitude.ofDecimal (digitsValue (_ ++ [])) 0 = _
    rw [List.append_nil, digitsValue_append_zeros, digitsValue_toDigits]
    exact Magnitude.ofDecimal_mul_tenTo hzero hnonneg hlt

theorem reads_point_among {places : Nat} (hexponent : d.exponent = -places)
    (hlt : places < (Nat.toDigits 10 d.digits).length) :
    Reads ((Nat.toDigits 10 d.digits).take ((Nat.toDigits 10 d.digits).length - places))
      ((Nat.toDigits 10 d.digits).drop ((Nat.toDigits 10 d.digits).length - places))
      d.magnitude where
  front_ne_nil := by
    rw [← List.length_pos_iff, List.length_take]
    omega
  isDigit_front _ hc := isDigit_of_mem_toDigits (List.mem_of_mem_take hc)
  isDigit_back _ hc := isDigit_of_mem_toDigits (List.mem_of_mem_drop hc)
  ofDigits_eq := by
    have hback : (0 : Int) - ((Nat.toDigits 10 d.digits).length
        - ((Nat.toDigits 10 d.digits).length - places) : Nat) = d.exponent := by omega
    rw [Magnitude.ofDigits, List.take_append_drop, digitsValue_toDigits, List.length_drop, hback]
    rfl

theorem reads_point_in_front {places : Nat} (hexponent : d.exponent = -places)
    (hle : (Nat.toDigits 10 d.digits).length ≤ places) :
    Reads ['0'] (List.replicate (places - (Nat.toDigits 10 d.digits).length) '0'
      ++ Nat.toDigits 10 d.digits) d.magnitude where
  front_ne_nil := List.cons_ne_nil _ _
  isDigit_front c hc := by
    rw [List.mem_singleton.1 hc]
    rfl
  isDigit_back _ hc := isDigit_of_mem_zeros_append hc
  ofDigits_eq := by
    have hback : (0 : Int) - ((places - (Nat.toDigits 10 d.digits).length)
        + (Nat.toDigits 10 d.digits).length : Nat) = d.exponent := by omega
    have hfront : ∀ cs, digitsValue (['0'] ++ cs) = digitsValue cs := digitsValue_zeros_append 1
    rw [Magnitude.ofDigits, hfront, digitsValue_zeros_append, digitsValue_toDigits,
      List.length_append, List.length_replicate, hback]
    rfl

/-- **However a decimal is set out, it reads as itself.** -/
theorem exists_reads (hzero : d.digits ≠ 0) (hlt : d.exponent < 310) :
    ∃ front back, d.positional = pointed front back ∧ Reads front back d.magnitude := by
  by_cases hnonneg : 0 ≤ d.exponent
  · refine ⟨_, [], ?_, reads_zeros_behind hzero hnonneg hlt⟩
    rw [pointed_nil, positional, if_pos hnonneg]
  · have hexponent : d.exponent = -((-d.exponent).toNat : Int) := by omega
    by_cases hamong : (-d.exponent).toNat < (Nat.toDigits 10 d.digits).length
    · have hback : (Nat.toDigits 10 d.digits).drop
          ((Nat.toDigits 10 d.digits).length - (-d.exponent).toNat) ≠ [] := by
        rw [← List.length_pos_iff, List.length_drop]
        omega
      refine ⟨_, _, ?_, reads_point_among hexponent hamong⟩
      rw [pointed_of_ne_nil _ hback, positional, if_neg hnonneg]
      exact if_pos hamong
    · refine ⟨_, _, ?_, reads_point_in_front hexponent (Nat.le_of_not_lt hamong)⟩
      rw [pointed_of_ne_nil _ (List.append_ne_nil_of_right_ne_nil _ Nat.toDigits_ne_nil), positional,
        if_neg hnonneg]
      exact if_neg hamong

/-! ### The decimal of a magnitude -/

/-- A count of units as a decimal with as many places as it takes.  The units divide ten to the number
of places, so that nothing is cut off. -/
theorem magnitude_of_places {m : Magnitude} (h : m.isZero = false) (places : Nat)
    (hplaces : 330 ≤ places) (hunit : twoTo places = unitsPerOne) :
    magnitude ⟨m.units * tenTo places / unitsPerOne, -(places : Int)⟩ = m := by
  have hunits : m.units ≠ 0 := by
    intro hzero
    rw [Magnitude.units_eq_zero_iff.1 hzero] at h
    cases h
  have hten : tenTo places = 5 ^ places * unitsPerOne := hunit ▸ Nat.mul_pow 5 2 places
  have hdigits : m.units * tenTo places / unitsPerOne = m.units * 5 ^ places := by
    rw [hten, ← Nat.mul_assoc, Nat.mul_div_cancel _ unitsPerOne_pos]
  have hratio : m.units * 5 ^ places * unitsPerOne = m.units * tenTo places := by
    rw [hten, Nat.mul_assoc]
  have hfive : 2 ^ places ≤ m.units * 5 ^ places :=
    Nat.le_trans (Nat.pow_le_pow_left (by decide) places)
      (Nat.le_mul_of_pos_left _ (Nat.pos_of_ne_zero hunits))
  have hne : m.units * 5 ^ places ≠ 0 :=
    Nat.ne_of_gt (Nat.lt_of_lt_of_le (Nat.two_pow_pos _) hfive)
  have hlog : ¬ (m.units * 5 ^ places).log2 < places := by
    rw [Nat.log2_lt hne]
    exact Nat.not_lt.2 hfive
  have hbig : ¬ 310 ≤ -(places : Int) := by omega
  have hsmall : ¬ -(places : Int) + ((m.units * 5 ^ places).log2 + 1) < -330 := by omega
  have hnegative : ¬ 0 ≤ -(places : Int) := by omega
  have hagain : (- -(places : Int)).toNat = places := by omega
  show Magnitude.ofDecimal (m.units * tenTo places / unitsPerOne) (-(places : Int)) = m
  rw [hdigits, Magnitude.ofDecimal, if_neg hne, if_neg hbig, if_neg hsmall, if_neg hnegative, hratio,
    hagain]
  exact Magnitude.nearest_units m (tenTo_pos places)

/-- **The shortest decimal reads back.** -/
theorem magnitude_shortest {m : Magnitude} (h : m.isZero = false) :
    (shortest m).magnitude = m := by
  have hchosen : ∀ found : Option Decimal, (∀ d, found = some d → d.magnitude = m) →
      (found.getD (exact m.units)).magnitude = m := by
    intro found hfound
    cases found with
    | none => exact magnitude_of_places h 1074 (by decide) rfl
    | some d => exact hfound d rfl
  refine hchosen _ fun d hd => ?_
  obtain ⟨step, -, hd⟩ := List.exists_of_findSome?_eq_some hd
  have hread := List.find?_some hd
  exact of_decide_eq_true hread

end Decimal

namespace Magnitude

theorem ofDecimal_whole_of_isWhole {m : Magnitude} (h : m.isWhole = true) :
    ofDecimal m.whole 0 = m := by
  have hunits : m.whole * unitsPerOne = m.units :=
    Nat.div_mul_cancel (Nat.dvd_of_mod_eq_zero (beq_iff_eq.1 h))
  rw [ofDecimal_whole, hunits, ← Nat.mul_one m.units]
  exact nearest_units m Nat.one_pos

/-- **The text of a finite magnitude is digits that stand for it.** -/
theorem exists_reads {m : Magnitude} (hfinite : m.isFinite = true) :
    ∃ front back, (Number.signed false m).chars = pointed front back ∧ Reads front back m := by
  cases hzero : m.isZero with
  | true =>
    obtain rfl := eq_zero_of_isZero hzero
    exact ⟨['0'], [], rfl, List.cons_ne_nil _ _, List.forall_mem_singleton.2 rfl, nofun, rfl⟩
  | false =>
    have hchars : (Number.signed false m).chars = m.text := by
      simp [Number.chars, hzero, hfinite]
    rw [hchars, text]
    split
    · rename_i hwhole
      refine ⟨_, [], (pointed_nil _).symm, Nat.toDigits_ne_nil, fun _ => isDigit_of_mem_toDigits,
        (by intro c hc; cases hc), ?_⟩
      have hwhole : m.isWhole = true := (Bool.and_eq_true_iff.1 hwhole).1
      show ofDecimal (digitsValue (_ ++ [])) 0 = _
      rw [List.append_nil, digitsValue_toDigits]
      exact ofDecimal_whole_of_isWhole hwhole
    · -- The chosen decimal stands for `m`, which is neither zero nor infinite.
      have hback := Decimal.magnitude_shortest hzero
      have hdigits : (Decimal.shortest m).digits ≠ 0 := by
        intro hnone
        rw [Decimal.magnitude, hnone] at hback
        rw [← hback] at hzero
        cases hzero
      have hlt : (Decimal.shortest m).exponent < 310 := by
        apply Int.lt_of_not_ge
        intro hge
        rw [Decimal.magnitude, ofDecimal, if_neg hdigits, if_pos hge] at hback
        rw [← hback] at hfinite
        cases hfinite
      have hreads := Decimal.exists_reads hdigits hlt
      rwa [hback] at hreads

end Magnitude

end Fieldbook
