import Fieldbook.Proofs.Number.Order
import Fieldbook.Proofs.View.Stages

/-!
# Sorting by numbers

Under a number field rows are sorted by the places of their numbers, whatever their cells hold.  Two rows are
tied exactly if they have one number (`SortKey.compareRows_eq_iff`), and rows of one number keep their order
(`SortKey.filter_sort_number`).

This is less than a sort by values would do.  Zero and negative zero are equal values and two numbers, and so
a sort takes rows of the two apart: the negative zeros stand first, in their order, and then the others, in
theirs (`SortKey.filter_sort_zeros`).  `SortKey.numbers_tied` is all of it, and `SortKey.zeros_apart` shows
two rows of equal values that are not left in their order.
-/

namespace Fieldbook

theorem filter_append_filter_of_pairwise {α : Type} {p : α → Bool} {l : List α}
    (h : l.Pairwise fun a b => p b = true → p a = true) :
    l.filter p ++ l.filter (fun a => !p a) = l := by
  induction l with
  | nil => rfl
  | cons a l ih =>
    obtain ⟨ha, hl⟩ := List.pairwise_cons.1 h
    by_cases hp : p a = true
    · rw [List.filter_cons_of_pos hp, List.filter_cons_of_neg (by simpa using hp), List.cons_append,
        ih hl]
    · have hnone : l.filter p = [] := List.filter_eq_nil_iff.2 fun b hb hpb => hp (ha b hb hpb)
      have hall : l.filter (fun a => !p a) = l := by
        rw [List.filter_eq_self]
        intro b hb
        simpa using fun hpb => hp (ha b hb hpb)
      rw [List.filter_cons_of_neg hp, List.filter_cons_of_pos (by simpa using hp), hnone, hall,
        List.nil_append]

namespace SortDirection

theorem turn_eq_eq_iff (d : SortDirection) (o : Ordering) : d.turn o = .eq ↔ o = .eq := by
  cases d <;> cases o <;> decide

def firstZero : SortDirection → Number
  | ascending => .negativeZero
  | descending => .zero

def lastZero : SortDirection → Number
  | ascending => .zero
  | descending => .negativeZero

theorem turn_lastZero (d : SortDirection) : d.turn (d.lastZero.totalCompare d.firstZero) = .gt := by
  cases d <;> decide +kernel

theorem lastZero_ne (d : SortDirection) : d.lastZero ≠ d.firstZero := by
  cases d <;> decide +kernel

theorem isZero_iff (d : SortDirection) (n : Number) :
    n.isZero = true ↔ n = d.firstZero ∨ n = d.lastZero := by
  rw [Number.isZero_iff]
  cases d with
  | ascending => exact Iff.rfl
  | descending => exact or_comm

end SortDirection

namespace SortKey

variable {k : SortKey} {fields : List Field}

def number (k : SortKey) (r : Row) : Number := (r.cell k.field).toNumber

theorem compareRows_of_isNumeric (hnumeric : k.isNumeric fields = true) (a b : Row) :
    k.compareRows fields a b = k.direction.turn ((k.number a).totalCompare (k.number b)) := by
  unfold compareRows
  rw [hnumeric]
  rfl

/-- **Two rows are tied exactly if they have one number.** -/
theorem compareRows_eq_iff (hnumeric : k.isNumeric fields = true) (a b : Row) :
    k.compareRows fields a b = .eq ↔ k.number a = k.number b := by
  rw [compareRows_of_isNumeric hnumeric, SortDirection.turn_eq_eq_iff, Number.totalCompare_eq_iff]

theorem compareAll_singleton (a b : Row) : compareAll [k] fields a b = k.compareRows fields a b :=
  Ordering.then_eq

theorem pairwise_sort (keys : List SortKey) (fields : List Field) (rows : List Row) :
    (sort keys fields rows).Pairwise fun a b => compareAll keys fields a b ≠ .gt :=
  (List.pairwise_mergeSort (compareAll_trans keys fields) (compareAll_total keys fields) rows).imp
    bne_iff_ne.1

/-- **Rows of one number keep their order.** -/
theorem filter_sort_number (hnumeric : k.isNumeric fields = true) (rows : List Row) (n : Number) :
    (sort [k] fields rows).filter (fun r => k.number r = n)
      = rows.filter fun r => k.number r = n := by
  rw [filter_sort]
  refine List.mergeSort_of_pairwise (List.pairwise_of_forall_mem_list fun a ha b hb => ?_)
  have ha : k.number a = n := by simpa using (List.mem_filter.1 ha).2
  have hb : k.number b = n := by simpa using (List.mem_filter.1 hb).2
  have htied := (compareRows_eq_iff hnumeric a b).2 (ha.trans hb.symm)
  rw [id, id, compareAll_singleton, htied]
  rfl

/-- **A sort takes the zeros apart.** -/
theorem filter_sort_zeros (hnumeric : k.isNumeric fields = true) (rows : List Row) :
    (sort [k] fields rows).filter (fun r => (k.number r).isZero)
      = rows.filter (fun r => k.number r = k.direction.firstZero)
        ++ rows.filter fun r => k.number r = k.direction.lastZero := by
  have hordered : ((sort [k] fields rows).filter fun r => (k.number r).isZero).Pairwise fun a b =>
      decide (k.number b = k.direction.firstZero) = true →
        decide (k.number a = k.direction.firstZero) = true := by
    refine ((pairwise_sort [k] fields rows).filter _).imp_of_mem fun {a b} ha _ hab hb => ?_
    rw [decide_eq_true_eq] at hb ⊢
    refine ((k.direction.isZero_iff _).1 (List.mem_filter.1 ha).2).resolve_right fun hlast => hab ?_
    rw [compareAll_singleton, compareRows_of_isNumeric hnumeric, hlast, hb]
    exact k.direction.turn_lastZero
  rw [← filter_append_filter_of_pairwise hordered, List.filter_filter, List.filter_filter,
    ← filter_sort_number hnumeric rows, ← filter_sort_number hnumeric rows]
  congr 1
  · refine List.filter_congr fun r _ => ?_
    rw [Bool.eq_iff_iff, Bool.and_eq_true, decide_eq_true_eq, k.direction.isZero_iff]
    exact and_iff_left_of_imp .inl
  · refine List.filter_congr fun r _ => ?_
    rw [Bool.eq_iff_iff, Bool.and_eq_true, Bool.not_eq_true', decide_eq_false_iff_not,
      decide_eq_true_eq, k.direction.isZero_iff]
    constructor
    · rintro ⟨hfirst, hzero⟩
      exact hzero.resolve_left hfirst
    · intro hlast
      exact ⟨hlast ▸ k.direction.lastZero_ne, .inr hlast⟩

/-- **Which rows are tied under a number field.**  Rows of one number are, and they keep their order; so
are rows of equal values, unless they are zeros.  Of the zeros all of one sign stand before all of the
other. -/
theorem numbers_tied (hnumeric : k.isNumeric fields = true) :
    (∀ a b, k.compareRows fields a b = .eq ↔ k.number a = k.number b) ∧
    (∀ a b, (k.number a).equal (k.number b) = true → (k.number a).isZero = false →
      k.compareRows fields a b = .eq) ∧
    ∀ rows,
      (∀ n, (sort [k] fields rows).filter (fun r => k.number r = n)
        = rows.filter fun r => k.number r = n) ∧
      (sort [k] fields rows).filter (fun r => (k.number r).isZero)
        = rows.filter (fun r => k.number r = k.direction.firstZero)
          ++ rows.filter fun r => k.number r = k.direction.lastZero := by
  refine ⟨compareRows_eq_iff hnumeric, fun a b hequal hzero => ?_,
    fun rows => ⟨filter_sort_number hnumeric rows, filter_sort_zeros hnumeric rows⟩⟩
  rw [compareRows_eq_iff hnumeric]
  rcases Number.equal_iff.1 hequal with ⟨hsame, -⟩ | ⟨ha, -⟩ | ⟨ha, -⟩
  · exact hsame
  · rw [ha] at hzero
    cases hzero
  · rw [ha] at hzero
    cases hzero

/-- Two rows of equal values that are not tied, and that a sort turns around: a zero and a negative
zero. -/
theorem zeros_apart :
    let field : Field := ⟨"n", "n", .number⟩
    let plus : Row := ⟨"r1", .ofList [("n", .number .zero)], default, default⟩
    let minus : Row := ⟨"r2", .ofList [("n", .number .negativeZero)], default, default⟩
    let k : SortKey := ⟨"n", .ascending⟩
    (k.number plus).equal (k.number minus) = true ∧
      k.compareRows [field] plus minus = .gt ∧
      sort [k] [field] [plus, minus] = [minus, plus] := by
  intro field plus minus k
  refine ⟨by decide +kernel, by decide +kernel, ?_⟩
  have hsort := mergeSort_cons_eq_filter (compareAll_trans [k] [field]) (compareAll_total [k] [field])
    plus [minus]
  rw [List.mergeSort_singleton] at hsort
  refine hsort.trans ?_
  decide +kernel

end SortKey

end Fieldbook
