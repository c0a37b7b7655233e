import Fieldbook.View.Sort

/-!
# Comparing rows

Rows are compared by several keys, each by its own order and in its own direction.  Whatever the keys
are, the comparison is a total preorder (`SortKey.transCmp_compareAll`): of two rows one is not above
the other, and what is not above goes from row to row.  A sort relies on both.
-/

namespace Fieldbook

section Comparisons

variable {α β : Type} (cmp cmp' : α → α → Ordering) [Std.TransCmp cmp]

theorem transCmp_on (f : β → α) : Std.TransCmp fun a b => cmp (f a) (f b) where
  eq_swap := Std.OrientedCmp.eq_swap
  isLE_trans := Std.TransCmp.isLE_trans

theorem transCmp_then [Std.TransCmp cmp'] : Std.TransCmp fun a b => (cmp a b).then (cmp' a b) :=
  inferInstanceAs (Std.TransCmp (compareLex cmp cmp'))

theorem transCmp_turn (d : SortDirection) : Std.TransCmp fun a b => d.turn (cmp a b) := by
  cases d with
  | ascending => exact inferInstanceAs (Std.TransCmp cmp)
  | descending =>
    have hswap : (fun a b => (cmp a b).swap) = fun a b => cmp b a := by
      funext a b
      exact Std.OrientedCmp.eq_swap.symm
    show Std.TransCmp fun a b => (cmp a b).swap
    rw [hswap]
    exact Std.TransCmp.opposite

end Comparisons

theorem Number.transCmp_totalCompare : Std.TransCmp Number.totalCompare :=
  transCmp_on compare Number.totalPlace

theorem Text.transCmp_compareCase : Std.TransCmp Text.compareCase :=
  inferInstanceAs (Std.TransCmp (compareLex (compareOn fun c => !Text.isLowercase c) compare))

theorem Text.transCmp_compareText : Std.TransCmp Text.compareText := by
  have hfold : Std.TransCmp fun a b => List.compareLex compare (Text.fold a) (Text.fold b) :=
    transCmp_on (List.compareLex compare) Text.fold
  have hcase := Text.transCmp_compareCase
  exact transCmp_then _ (List.compareLex Text.compareCase)

namespace SortKey

variable (fields : List Field)

theorem transCmp_compareRows (k : SortKey) : Std.TransCmp (k.compareRows fields) := by
  have hnumber : Std.TransCmp fun a b : Row =>
      (a.cell k.field).toNumber.totalCompare (b.cell k.field).toNumber :=
    have := Number.transCmp_totalCompare
    transCmp_on _ fun r : Row => (r.cell k.field).toNumber
  have htext : Std.TransCmp fun a b : Row =>
      Text.compareText (a.cell k.field).display.toList (b.cell k.field).display.toList :=
    have := Text.transCmp_compareText
    transCmp_on _ fun r : Row => (r.cell k.field).display.toList
  unfold compareRows
  cases k.isNumeric fields with
  | true =>
    simp only [if_true]
    exact transCmp_turn _ k.direction
  | false =>
    simp only [Bool.false_eq_true, if_false]
    exact transCmp_turn _ k.direction

/-- **Rows are compared by a total preorder**, whatever the keys. -/
theorem transCmp_compareAll (keys : List SortKey) : Std.TransCmp (compareAll keys fields) := by
  induction keys with
  | nil =>
    -- Without a key any two rows are equal, as any two rows compared by one and the same number.
    show Std.TransCmp fun _ _ => .eq
    exact transCmp_on compare fun _ => 0
  | cons k keys ih =>
    have hfirst := k.transCmp_compareRows fields
    show Std.TransCmp fun a b => (k.compareRows fields a b).then (compareAll keys fields a b)
    exact transCmp_then _ _

end SortKey

end Fieldbook
