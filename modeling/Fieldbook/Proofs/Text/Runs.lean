import Fieldbook.Text.Blank

/-!
# Runs of characters

Readers take the longest run of characters of a kind.  Where a run is followed by a character of
another kind, or by nothing, it is taken whole (`takeWhile_run`, `dropWhile_run`).
-/

namespace Fieldbook

section Runs

variable {p : Char → Bool} {run rest : List Char}

theorem takeWhile_run (hrun : ∀ c ∈ run, p c = true) (hrest : ∀ c ∈ rest.head?, p c = false) :
    (run ++ rest).takeWhile p = run := by
  rw [List.takeWhile_append_of_pos hrun]
  cases rest with
  | nil => exact List.append_nil run
  | cons c rest =>
    rw [List.takeWhile_cons_of_neg (by simp [hrest c rfl])]
    exact List.append_nil run

theorem dropWhile_run (hrun : ∀ c ∈ run, p c = true) (hrest : ∀ c ∈ rest.head?, p c = false) :
    (run ++ rest).dropWhile p = rest := by
  rw [List.dropWhile_append_of_pos hrun]
  cases rest with
  | nil => rfl
  | cons c rest => exact List.dropWhile_cons_of_neg (by simp [hrest c rfl])

end Runs

namespace Text

theorem isBlank_eq_false {c : Char} (hlow : 33 ≤ c.toNat) (hhigh : c.toNat ≤ 126) :
    isBlank c = false := by
  rw [Bool.eq_false_iff]
  intro hblank
  simp [isBlank, inRanges, blankRanges] at hblank
  omega

theorem isBlank_of_isDigit {c : Char} (h : c.isDigit = true) : isBlank c = false := by
  have hbounds : 48 ≤ c.toNat ∧ c.toNat ≤ 57 := by
    simpa [Char.isDigit, UInt32.le_iff_toNat_le] using h
  exact isBlank_eq_false (by omega) (by omega)

theorem trim_eq_self {cs : List Char} (hfront : ∀ c ∈ cs.head?, isBlank c = false)
    (hback : ∀ c ∈ cs.getLast?, isBlank c = false) : trim cs = cs := by
  have hkeep : ∀ ds : List Char, (∀ c ∈ ds.head?, isBlank c = false) → ds.dropWhile isBlank = ds := by
    intro ds hds
    have hempty : ∀ c ∈ ([] : List Char), isBlank c = true := nofun
    exact dropWhile_run hempty hds
  unfold trim trimFront trimBack
  rw [hkeep cs hfront, hkeep cs.reverse (by rwa [List.head?_reverse]), List.reverse_reverse]

end Text

end Fieldbook
