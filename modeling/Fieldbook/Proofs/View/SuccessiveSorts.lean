import Fieldbook.Proofs.View.StableSort

/-!
# One sort after another

Sorting by some keys, the minor ones, and then by others, the major ones, is sorting once by all of
them, major keys first (`SortKey.sortOn_append`).  It rests on stability: the second sort keeps the order of
the first among items that it holds equal.  Items may be equal, so that the two results are compared
with their places in the input (`mergeSort_mergeSort`).
-/

namespace Fieldbook

/-- **A sort by one order and then by another is one sort** by the second, and by the first among what
the second holds equal. -/
theorem mergeSort_mergeSort {α : Type} {le le₁ le₂ : α → α → Bool}
    (htrans₁ : ∀ a b c, le₁ a b → le₁ b c → le₁ a c) (htotal₁ : ∀ a b, le₁ a b || le₁ b a)
    (htrans₂ : ∀ a b c, le₂ a b → le₂ b c → le₂ a c) (htotal₂ : ∀ a b, le₂ a b || le₂ b a)
    (htrans : ∀ a b c, le a b → le b c → le a c) (htotal : ∀ a b, le a b || le b a)
    (hle : ∀ a b, le a b = (le₁ a b && (!le₁ b a || le₂ a b))) (l : List α) :
    (l.mergeSort le₂).mergeSort le₁ = l.mergeSort le := by
  let minor := l.zipIdx.mergeSort fun a b => le₂ a.1 b.1
  let twice := minor.mergeSort fun a b => le₁ a.1 b.1
  let once := l.zipIdx.mergeSort fun a b => le a.1 b.1
  have htwice : twice.Pairwise fun a b => le a.1 b.1 ∧ (le b.1 a.1 → a.2 < b.2) := by
    refine (pairwise_mergeSort_of_pairwise (fun a b c => htrans₁ a.1 b.1 c.1)
      (fun a b => htotal₁ a.1 b.1) (pairwise_mergeSort_zipIdx htrans₂ htotal₂ l)).imp ?_
    rintro a b ⟨hab, htied⟩
    rw [hle, hle, hab]
    cases hba : le₁ b.1 a.1 with
    | false => simp
    | true =>
      obtain ⟨hab₂, hplace⟩ := htied hba
      simpa [hab₂] using hplace
  have honce : once.Pairwise fun a b => le a.1 b.1 ∧ (le b.1 a.1 → a.2 < b.2) :=
    pairwise_mergeSort_zipIdx htrans htotal l
  have hperm : twice.Perm once :=
    ((List.mergeSort_perm _ _).trans (List.mergeSort_perm _ _)).trans (List.mergeSort_perm _ _).symm
  have hsame : twice = once := by
    refine List.Perm.eq_of_pairwise ?_ htwice honce hperm
    rintro a b - - ⟨hab, hplace⟩ ⟨hba, hplace'⟩
    -- Neither is above the other, so they are tied, and each would have to stand first.
    have hlt := hplace hba
    have hlt' := hplace' hab
    omega
  calc (l.mergeSort le₂).mergeSort le₁
      = twice.map (·.1) := by
        rw [List.map_mergeSort (s := le₁) fun _ _ _ _ => rfl, map_mergeSort_zipIdx]
    _ = once.map (·.1) := by rw [hsame]
    _ = l.mergeSort le := map_mergeSort_zipIdx le l

namespace SortKey

variable (keys keys₁ keys₂ : List SortKey) (fields : List Field)

/-- The keys that come later decide among what the first hold equal. -/
theorem compareAll_append (a b : Row) : compareAll (keys₁ ++ keys₂) fields a b =
    (compareAll keys₁ fields a b).then (compareAll keys₂ fields a b) := by
  induction keys₁ with
  | nil => rfl
  | cons k keys₁ ih =>
    show (k.compareRows fields a b).then (compareAll (keys₁ ++ keys₂) fields a b) = _
    rw [ih, ← Ordering.then_assoc]
    rfl

theorem compareAll_append_self (a b : Row) :
    compareAll (keys ++ keys) fields a b = compareAll keys fields a b := by
  rw [compareAll_append]
  cases compareAll keys fields a b <;> rfl

section

variable {α : Type} (row : α → Row) (items : List α)

/-- **Sorting by more keys is sorting by the later keys first**, and then by the others. -/
theorem sortOn_append : sortOn row (keys₁ ++ keys₂) fields items =
    sortOn row keys₁ fields (sortOn row keys₂ fields items) := by
  have htrans : ∀ (keys : List SortKey) (a b c : α),
      compareAll keys fields (row a) (row b) != .gt →
      compareAll keys fields (row b) (row c) != .gt →
      compareAll keys fields (row a) (row c) != .gt :=
    fun keys a b c => compareAll_trans keys fields (row a) (row b) (row c)
  have htotal : ∀ (keys : List SortKey) (a b : α),
      (compareAll keys fields (row a) (row b) != .gt ||
        compareAll keys fields (row b) (row a) != .gt) = true :=
    fun keys a b => compareAll_total keys fields (row a) (row b)
  refine (mergeSort_mergeSort (htrans keys₁) (htotal keys₁) (htrans keys₂) (htotal keys₂)
    (htrans _) (htotal _) (fun a b => ?_) items).symm
  rw [compareAll_append, compareAll_swap keys₁ fields (row a) (row b)]
  cases compareAll keys₁ fields (row a) (row b) <;> rfl

theorem sortOn_sortOn :
    sortOn row keys fields (sortOn row keys fields items) = sortOn row keys fields items := by
  rw [← sortOn_append]
  unfold sortOn
  simp only [compareAll_append_self]

/-- **Sorting by keys is sorting by one key at a time**, the last key first. -/
theorem sortOn_eq_foldr : sortOn row keys fields items =
    keys.foldr (fun k sorted => sortOn row [k] fields sorted) items := by
  induction keys with
  | nil => exact List.mergeSort_of_pairwise (List.pairwise_of_forall fun _ _ => rfl)
  | cons k keys ih =>
    rw [List.foldr_cons, ← ih]
    exact sortOn_append [k] keys fields row items

end

/-- **One sort after another.**  Sorting by several keys is sorting by the later ones first and by the
others then, down to one key at a time; the result is stably sorted by all keys together.  Sorting
again by the same keys changes nothing.  The same holds of whatever is sorted by its row, so that
rows that are equal are not mixed up either. -/
theorem sort_append (rows : List Row) :
    sort (keys₁ ++ keys₂) fields rows = sort keys₁ fields (sort keys₂ fields rows)
    ∧ sort keys fields (sort keys fields rows) = sort keys fields rows
    ∧ (∀ (α : Type) (row : α → Row) (items : List α),
        sortOn row (keys₁ ++ keys₂) fields items
          = sortOn row keys₁ fields (sortOn row keys₂ fields items)
        ∧ sortOn row keys fields (sortOn row keys fields items) = sortOn row keys fields items
        ∧ sortOn row keys fields items
          = keys.foldr (fun k sorted => sortOn row [k] fields sorted) items)
    ∧ ∃ placed, StablySorted (keys₁ ++ keys₂) fields rows placed ∧
        placed.map (·.1) = sort keys₁ fields (sort keys₂ fields rows) := by
  have hrows : sort (keys₁ ++ keys₂) fields rows = sort keys₁ fields (sort keys₂ fields rows) :=
    sortOn_append keys₁ keys₂ fields id rows
  refine ⟨hrows, sortOn_sortOn keys fields id rows, fun α row items => ?_, ?_⟩
  · exact ⟨sortOn_append keys₁ keys₂ fields row items, sortOn_sortOn keys fields row items,
      sortOn_eq_foldr keys fields row items⟩
  · rw [← hrows]
    exact exists_stablySorted (keys₁ ++ keys₂) fields rows

end SortKey

end Fieldbook
