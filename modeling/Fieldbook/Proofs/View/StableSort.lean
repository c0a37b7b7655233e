import Fieldbook.Proofs.View.Stages

/-!
# Sorted rows

Sorting rows by keys leaves no choice.  Rows are compared by the first key that tells them apart
(`SortKey.compareAll_eq_find?`), which is a total preorder, and rows that no key tells apart keep their
order (`SortKey.sort_unique`).  Rows may be equal in everything they hold, so that the law of the
result is said of rows with their places in the input: `SortKey.StablySorted` is met by one list of
them only.
-/

namespace Fieldbook.SortKey

variable (keys : List SortKey) (fields : List Field)

/-! ### The comparison -/

/-- **The first key that tells two rows apart decides.** -/
theorem compareAll_eq_find? (a b : Row) :
    compareAll keys fields a b =
      ((keys.map fun k => k.compareRows fields a b).find? (· ≠ .eq)).getD .eq := by
  induction keys with
  | nil => rfl
  | cons k keys ih =>
    rw [List.map_cons, List.find?_cons]
    show (k.compareRows fields a b).then (compareAll keys fields a b) = _
    cases h : k.compareRows fields a b with
    | eq => exact ih
    | lt => rfl
    | gt => rfl

theorem compareAll_self (a : Row) : compareAll keys fields a a = .eq := by
  have := transCmp_compareAll fields keys
  exact Std.ReflCmp.compare_self

/-! ### The order of the result -/

/-- **Rows with their places, stably sorted.** -/
structure StablySorted (rows : List Row) (placed : List (Row × Nat)) : Prop where
  /-- Every row of the input stands there once, whatever it holds. -/
  perm : placed.Perm rows.zipIdx
  /-- No row stands before one that is below it. -/
  ordered : placed.Pairwise fun a b => compareAll keys fields a.1 b.1 ≠ .gt
  /-- Rows that no key tells apart keep their order. -/
  ties : placed.Pairwise fun a b => compareAll keys fields a.1 b.1 = .eq → a.2 < b.2

variable {keys fields} {rows : List Row} {placed other : List (Row × Nat)}

/-- **Rows are stably sorted in one way only.** -/
theorem StablySorted.unique (h : StablySorted keys fields rows placed)
    (h' : StablySorted keys fields rows other) : placed = other := by
  have hperm : placed.Perm other := h.perm.trans h'.perm.symm
  refine List.Perm.eq_of_pairwise ?_ (h.ordered.and h.ties) (h'.ordered.and h'.ties) hperm
  rintro a b ha hb ⟨hab, hplace⟩ ⟨hba, hplace'⟩
  -- Neither is above the other, so they are tied, and each would have to stand first.
  rw [compareAll_swap] at hba hplace'
  exfalso
  cases hcompare : compareAll keys fields a.1 b.1 with
  | lt => exact hba (by rw [hcompare]; rfl)
  | gt => exact hab hcompare
  | eq =>
    have hlt := hplace hcompare
    have hlt' := hplace' (by rw [hcompare]; rfl)
    omega

variable (keys fields rows)

/-- **Rows can be stably sorted**, and `sort` gives the rows of the result. -/
theorem exists_stablySorted :
    ∃ placed, StablySorted keys fields rows placed ∧
      placed.map (·.1) = sort keys fields rows := by
  have hsorted := pairwise_mergeSort_zipIdx (compareAll_trans keys fields)
    (compareAll_total keys fields) rows
  refine ⟨_, ⟨List.mergeSort_perm _ _, hsorted.imp fun h => bne_iff_ne.1 h.1, hsorted.imp ?_⟩,
    map_mergeSort_zipIdx (fun a b => compareAll keys fields a b != .gt) rows⟩
  intro a b h htied
  refine h.2 ?_
  rw [compareAll_swap keys fields a.1 b.1, htied]
  rfl

/-- **What a sort does.**  The first key that tells two rows apart compares them, by a total preorder.
The sorted rows are those of the one list in which every row of the input stands once, none before
one that is below it, and rows that no key tells apart in the order of the input. -/
theorem sort_unique :
    (∀ a b, compareAll keys fields a b =
      ((keys.map fun k => k.compareRows fields a b).find? (· ≠ .eq)).getD .eq) ∧
    (∀ a, compareAll keys fields a a = .eq) ∧
    (∀ a b, compareAll keys fields b a = (compareAll keys fields a b).swap) ∧
    (∀ a b c, compareAll keys fields a b ≠ .gt → compareAll keys fields b c ≠ .gt →
      compareAll keys fields a c ≠ .gt) ∧
    ∃ placed, StablySorted keys fields rows placed ∧
      placed.map (·.1) = sort keys fields rows ∧
      ∀ other, StablySorted keys fields rows other → other = placed := by
  obtain ⟨placed, hplaced, hrows⟩ := exists_stablySorted keys fields rows
  refine ⟨compareAll_eq_find? keys fields, compareAll_self keys fields, compareAll_swap keys fields,
    ?_, placed, hplaced, hrows, fun other hother => hother.unique hplaced⟩
  intro a b c hab hbc
  have htrans := compareAll_trans keys fields a b c (bne_iff_ne.2 hab) (bne_iff_ne.2 hbc)
  exact bne_iff_ne.1 htrans

end Fieldbook.SortKey
