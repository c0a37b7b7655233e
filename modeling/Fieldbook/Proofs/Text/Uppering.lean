import Fieldbook.Text.Case
import Mathlib.Data.List.Basic

/-!
# Upper case is final

A text in upper case is its own upper case (`upper_upper`), although the upper case of one character may
be several.  The tables of characters say nothing about where they lead, so that it is checked of them
entry by entry: where a run or an expansion leads, no run begins and nothing is expanded.  Runs are
compared as a whole, by their ends or by their parity (`CaseRun.misses`).
-/

namespace Fieldbook.Text

namespace CaseRun

def low (run : CaseRun) : Nat := (run.first + run.offset).toNat

def high (run : CaseRun) : Nat := (run.last + run.offset).toNat

/-- Whether every code point of a run has the parity of the first, before and after the mapping. -/
def hasParity (run : CaseRun) : Bool :=
  (run.stride == 2 || run.first == run.last) && 0 ≤ run.first + run.offset

/-- Whether a code point is told from those that a run leads to, by its place or by its parity. -/
def missesCode (run : CaseRun) (code : Nat) : Bool :=
  Nat.blt code run.low || Nat.blt run.high code || (run.hasParity && (run.low + code) % 2 == 1)

def misses (run other : CaseRun) : Bool :=
  Nat.blt other.last run.low || Nat.blt run.high other.first
    || (run.hasParity && other.stride == 2 && (run.low + other.first) % 2 == 1)

variable {run other : CaseRun} {code image : Nat}

theorem map?_eq_some (h : run.map? code = some image) :
    run.first ≤ code ∧ code ≤ run.last ∧ (code - run.first) % run.stride = 0 ∧
      image = ((code : Int) + run.offset).toNat := by
  unfold map? at h
  split at h
  · rename_i hin
    exact ⟨hin.1, hin.2.1, hin.2.2, (Option.some.inj h).symm⟩
  · cases h

theorem low_le_image (h : run.map? code = some image) : run.low ≤ image ∧ image ≤ run.high := by
  obtain ⟨hfirst, hlast, -, rfl⟩ := map?_eq_some h
  unfold low high
  omega

theorem mod_two_image (hparity : run.hasParity = true) (h : run.map? code = some image) :
    image % 2 = run.low % 2 := by
  obtain ⟨hfirst, hlast, hstride, rfl⟩ := map?_eq_some h
  simp only [hasParity, Bool.and_eq_true, Bool.or_eq_true, beq_iff_eq, decide_eq_true_eq] at hparity
  obtain ⟨htwo | hone, hlow⟩ := hparity
  · rw [htwo] at hstride
    unfold low
    omega
  · obtain rfl : code = run.first := by omega
    rfl

theorem ne_image_of_missesCode {key : Nat} (hmiss : run.missesCode key = true)
    (h : run.map? code = some image) : image ≠ key := by
  rintro rfl
  obtain ⟨hlow, hhigh⟩ := low_le_image h
  simp only [missesCode, Bool.or_eq_true, Bool.and_eq_true, Nat.blt_eq, beq_iff_eq] at hmiss
  rcases hmiss with (hbelow | habove) | ⟨hparity, hmod⟩
  · omega
  · omega
  · have := mod_two_image hparity h
    omega

/-- **No run begins where a run leads** that misses it. -/
theorem map?_eq_none_of_misses (hmiss : run.misses other = true) (h : run.map? code = some image) :
    other.map? image = none := by
  cases hother : other.map? image with
  | none => rfl
  | some next =>
    obtain ⟨hlow, hhigh⟩ := low_le_image h
    obtain ⟨hfirst, hlast, hstride, -⟩ := map?_eq_some hother
    simp only [misses, Bool.or_eq_true, Bool.and_eq_true, Nat.blt_eq, beq_iff_eq] at hmiss
    rcases hmiss with (hbelow | habove) | ⟨⟨hparity, htwo⟩, hmod⟩
    · omega
    · omega
    · have := mod_two_image hparity h
      rw [htwo] at hstride
      omega

end CaseRun

/-! ### The tables -/

/-- **A code point that stays**: no run begins there, and it is not expanded. -/
def Stays (code : Nat) : Prop :=
  (∀ run ∈ upperRuns, run.map? code = none) ∧ ∀ e ∈ upperExpansions, e.1 ≠ code

theorem misses_upperRuns : ∀ run ∈ upperRuns, ∀ other ∈ upperRuns, run.misses other = true := by
  have hall : (upperRuns.all fun run => upperRuns.all run.misses) = true := by decide +kernel
  exact fun run hrun => List.all_eq_true.1 (List.all_eq_true.1 hall run hrun)

theorem missesCode_upperRuns : ∀ run ∈ upperRuns, ∀ e ∈ upperExpansions, run.missesCode e.1 = true := by
  have hall : (upperRuns.all fun run => upperExpansions.all fun e => run.missesCode e.1) = true := by
    decide +kernel
  exact fun run hrun => List.all_eq_true.1 (List.all_eq_true.1 hall run hrun)

def stays (code : Nat) : Bool :=
  (upperRuns.all fun run => Nat.blt code run.first || Nat.blt run.last code
      || !((code - run.first) % run.stride == 0))
    && upperExpansions.all fun e => !(e.1 == code)

theorem stays_of_tables {code : Nat} (h : stays code = true) : Stays code := by
  rw [stays, Bool.and_eq_true, List.all_eq_true, List.all_eq_true] at h
  refine ⟨fun run hrun => ?_, fun e he => by simpa using h.2 e he⟩
  cases hmap : run.map? code with
  | none => rfl
  | some image =>
    obtain ⟨hfirst, hlast, hstride, -⟩ := CaseRun.map?_eq_some hmap
    have := h.1 run hrun
    simp only [Bool.or_eq_true, Nat.blt_eq, Bool.not_eq_true', beq_eq_false_iff_ne] at this
    omega

theorem stays_of_mem_upperExpansions : ∀ e ∈ upperExpansions, ∀ code ∈ e.2, Stays code := by
  have hall : (upperExpansions.all fun e => e.2.all stays) = true := by decide +kernel
  exact fun e he code hcode =>
    stays_of_tables (List.all_eq_true.1 (List.all_eq_true.1 hall e he) code hcode)

theorem stays_of_map? {run : CaseRun} {code image : Nat} (hrun : run ∈ upperRuns)
    (h : run.map? code = some image) : Stays image :=
  ⟨fun other hother => CaseRun.map?_eq_none_of_misses (misses_upperRuns run hrun other hother) h,
    fun e he => (CaseRun.ne_image_of_missesCode (missesCode_upperRuns run hrun e he) h).symm⟩

/-! ### Characters and texts -/

theorem toUpper_toUpper_of_lt : ∀ n < 128,
    (Char.ofNat n).toUpper.toNat < 128 ∧ (Char.ofNat n).toUpper.toUpper = (Char.ofNat n).toUpper := by
  decide

theorem toUpper_of_map?_eq_none : ∀ n < 128,
    (⟨0x61, 0x7A, 1, -32⟩ : CaseRun).map? n = none → (Char.ofNat n).toUpper = Char.ofNat n := by
  decide

theorem upperChar_of_stays {c : Char} (h : Stays c.toNat) : upperChar c = [c] := by
  obtain ⟨hruns, hexpansions⟩ := h
  unfold upperChar
  split
  · rename_i hascii
    have hupper := toUpper_of_map?_eq_none c.toNat hascii (hruns _ (.head _))
    rw [Char.ofNat_toNat] at hupper
    rw [hupper]
  · have hnone : upperRuns.findSome? (·.map? c.toNat) = none := by
      rw [List.findSome?_eq_none_iff]
      exact hruns
    have hlookup : upperExpansions.lookup c.toNat = none := by
      rw [List.lookup_eq_none_iff]
      intro e he
      simpa using (hexpansions e he).symm
    rw [mapCase, hnone, hlookup]

theorem upperChar_ofNat_of_stays {code : Nat} (h : Stays code) :
    upperChar (Char.ofNat code) = [Char.ofNat code] := by
  by_cases hvalid : code.isValidChar
  · apply upperChar_of_stays
    rw [Char.ofNat, dif_pos hvalid]
    exact h
  · -- What is no code point is read as the first one.
    rw [Char.ofNat, dif_neg hvalid]
    decide

/-- **What a character becomes in upper case stays.** -/
theorem upperChar_of_mem_upperChar {c d : Char} (h : d ∈ upperChar c) : upperChar d = [d] := by
  unfold upperChar at h
  split at h
  · rename_i hascii
    obtain rfl := List.mem_singleton.1 h
    have hupper := toUpper_toUpper_of_lt c.toNat hascii
    rw [Char.ofNat_toNat] at hupper
    rw [upperChar, if_pos hupper.1, hupper.2]
  · rename_i hascii
    unfold mapCase at h
    split at h
    · rename_i code hfound
      obtain rfl := List.mem_singleton.1 h
      obtain ⟨run, hrun, hmap⟩ := List.exists_of_findSome?_eq_some hfound
      exact upperChar_ofNat_of_stays (stays_of_map? hrun hmap)
    · rename_i hnone
      split at h
      · rename_i codes hlookup
        obtain ⟨code, hcode, rfl⟩ := List.mem_map.1 h
        have hmem : (c.toNat, codes) ∈ upperExpansions := by
          obtain ⟨front, back, htable, -⟩ := List.lookup_eq_some_iff.1 hlookup
          rw [htable]
          exact List.mem_append_right front List.mem_cons_self
        exact upperChar_ofNat_of_stays (stays_of_mem_upperExpansions _ hmem code hcode)
      · rename_i hlookup
        obtain rfl := List.mem_singleton.1 h
        rw [upperChar, if_neg hascii, mapCase, hnone, hlookup]

/-- **Upper case is final.** -/
theorem upper_upper (cs : List Char) : upper (upper cs) = upper cs := by
  have hchar : ∀ c, (upperChar c).flatMap upperChar = upperChar c := by
    intro c
    calc (upperChar c).flatMap upperChar
        = (upperChar c).flatMap ([·]) :=
          List.flatMap_congr fun d hd => upperChar_of_mem_upperChar hd
      _ = upperChar c := List.flatMap_singleton' _
  unfold upper
  rw [List.flatMap_assoc]
  simp only [hchar]

end Fieldbook.Text
