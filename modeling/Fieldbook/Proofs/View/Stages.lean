import Fieldbook.Proofs.View.Comparison
import Fieldbook.View.Run
import Mathlib.Data.List.Nodup

/-!
# The stages of a view

A view shows the rows that pass its filters and that the search finds, sorted (`View.shown`).  A stable
sort commutes with keeping rows (`filter_mergeSort`), so the stages may be run in any order
(`View.foldl_stages`).  That it is stable is said for any order the rows have beforehand
(`pairwise_mergeSort_of_pairwise`).  No stage brings in a row or shows one twice, so that the places of
the rows found are distinct (`View.nodup_places_found`).
-/

namespace Fieldbook

section Sorting

variable {α : Type} {le : α → α → Bool} (htrans : ∀ a b c, le a b → le b c → le a c)
  (htotal : ∀ a b, le a b || le b a)

include htrans htotal

/-- A first item stands, once sorted, after those that are strictly below it and before all others. -/
theorem mergeSort_cons_eq_filter (a : α) (l : List α) :
    (a :: l).mergeSort le =
      (l.mergeSort le).filter (fun b => !le a b) ++ a :: (l.mergeSort le).filter (le a) := by
  obtain ⟨below, above, hcons, htail, hbelow⟩ := List.mergeSort_cons htrans htotal a l
  have hsorted := List.pairwise_mergeSort htrans htotal (a :: l)
  rw [hcons, List.pairwise_append, List.pairwise_cons] at hsorted
  have habove : ∀ b ∈ above, le a b := hsorted.2.1.1
  have hnone : below.filter (le a) = [] :=
    List.filter_eq_nil_iff.2 fun b hb => by simpa using hbelow b hb
  have hnone' : above.filter (fun b => !le a b) = [] :=
    List.filter_eq_nil_iff.2 fun b hb => by simpa using habove b hb
  rw [hcons, htail, List.filter_append, List.filter_append, hnone, hnone',
    List.filter_eq_self.2 hbelow, List.filter_eq_self.2 habove, List.append_nil, List.nil_append]

/-- **Sorting commutes with keeping items.** -/
theorem filter_mergeSort (p : α → Bool) (l : List α) :
    (l.mergeSort le).filter p = (l.filter p).mergeSort le := by
  induction l with
  | nil => rw [List.filter_nil, List.mergeSort_nil, List.filter_nil]
  | cons a l ih =>
    by_cases ha : p a
    · rw [List.filter_cons_of_pos ha, mergeSort_cons_eq_filter htrans htotal a l,
        mergeSort_cons_eq_filter htrans htotal a (l.filter p), ← ih, List.filter_append,
        List.filter_cons_of_pos ha, List.filter_comm p, List.filter_comm p]
    · obtain ⟨below, above, hcons, htail, -⟩ := List.mergeSort_cons htrans htotal a l
      rw [List.filter_cons_of_neg ha, ← ih, hcons, htail, List.filter_append, List.filter_append,
        List.filter_cons_of_neg ha]

/-- **A sort keeps the order of what it holds equal**, whatever that order is. -/
theorem pairwise_mergeSort_of_pairwise {R : α → α → Prop} {l : List α} (h : l.Pairwise R) :
    (l.mergeSort le).Pairwise fun a b => le a b ∧ (le b a → R a b) := by
  induction l with
  | nil =>
    rw [List.mergeSort_nil]
    exact .nil
  | cons a l ih =>
    obtain ⟨ha, hl⟩ := List.pairwise_cons.1 h
    rw [mergeSort_cons_eq_filter htrans htotal a l, List.pairwise_append, List.pairwise_cons]
    refine ⟨(ih hl).filter _, ⟨fun c hc => ?_, (ih hl).filter _⟩, fun b hb c hc => ?_⟩
    · obtain ⟨hmem, hac⟩ := List.mem_filter.1 hc
      exact ⟨hac, fun _ => ha c (List.mem_mergeSort.1 hmem)⟩
    · have hab : ¬ le a b := by simpa using (List.mem_filter.1 hb).2
      have hba : le b a := (Bool.or_eq_true_iff.1 (htotal b a)).resolve_right hab
      have hac : le a c := by
        rcases List.mem_cons.1 hc with rfl | hc
        · simpa using htotal c c
        · exact (List.mem_filter.1 hc).2
      -- An item below the first one is below all that stand behind it, so that no tie is left.
      exact ⟨htrans b a c hba hac, fun hcb => absurd (htrans a c b hac hcb) hab⟩

/-- Items sorted with their places: of two that are tied the first place stands first. -/
theorem pairwise_mergeSort_zipIdx (l : List α) :
    (l.zipIdx.mergeSort fun a b => le a.1 b.1).Pairwise fun a b =>
      le a.1 b.1 ∧ (le b.1 a.1 → a.2 < b.2) := by
  have hplaces : l.zipIdx.Pairwise fun a b => a.2 < b.2 := by
    rw [← List.pairwise_map (R := (· < ·)), List.zipIdx_map_snd]
    exact List.pairwise_lt_range'
  exact pairwise_mergeSort_of_pairwise (fun a b c => htrans a.1 b.1 c.1)
    (fun a b => htotal a.1 b.1) hplaces

end Sorting

theorem map_mergeSort_zipIdx {α : Type} (le : α → α → Bool) (l : List α) :
    (l.zipIdx.mergeSort fun a b => le a.1 b.1).map (·.1) = l.mergeSort le := by
  rw [List.map_mergeSort (s := le) fun _ _ _ _ => rfl]
  congr 1
  exact List.zipIdx_map_fst 0 l

namespace SortKey

variable (keys : List SortKey) (fields : List Field)

theorem compareAll_swap (a b : Row) :
    compareAll keys fields b a = (compareAll keys fields a b).swap := by
  have := transCmp_compareAll fields keys
  exact Std.OrientedCmp.eq_swap

theorem compareAll_trans (a b c : Row) (hab : compareAll keys fields a b != .gt)
    (hbc : compareAll keys fields b c != .gt) : compareAll keys fields a c != .gt := by
  have := transCmp_compareAll fields keys
  simp only [bne_iff_ne, ← Ordering.isLE_iff_ne_gt] at hab hbc ⊢
  exact Std.TransCmp.isLE_trans hab hbc

theorem compareAll_total (a b : Row) :
    (compareAll keys fields a b != .gt || compareAll keys fields b a != .gt) := by
  rw [compareAll_swap keys fields a b]
  cases compareAll keys fields a b <;> rfl

variable {α : Type} (row : α → Row) (items : List α)

theorem map_sortOn : (sortOn row keys fields items).map row = sort keys fields (items.map row) :=
  List.map_mergeSort fun _ _ _ _ => rfl

theorem filter_sort (p : Row → Bool) (rows : List Row) :
    (sort keys fields rows).filter p = sort keys fields (rows.filter p) :=
  filter_mergeSort (compareAll_trans keys fields) (compareAll_total keys fields) p rows

end SortKey

section

variable {α : Type} (row : α → Row) (items : List α)

theorem Filter.select_eq (filters : List Filter) (rows : List Row) :
    Filter.select filters rows = rows.filter fun r => filters.all (·.passes r) :=
  rfl

theorem Filter.map_selectOn (filters : List Filter) :
    (Filter.selectOn row filters items).map row = Filter.select filters (items.map row) := by
  rw [Filter.select, Filter.selectOn, Filter.selectOn, List.filter_map]
  rfl

def Row.isFound (query : String) (r : Row) : Bool :=
  Text.isBlankText query.toList || r.mentions (Text.lower query.toList)

theorem Row.searchOn_eq (query : String) :
    Row.searchOn row query items = items.filter fun a => (row a).isFound query := by
  unfold Row.searchOn Row.isFound
  cases Text.isBlankText query.toList with
  | true => simp
  | false => simp

theorem Row.search_eq (query : String) (rows : List Row) :
    Row.search query rows = rows.filter (·.isFound query) :=
  Row.searchOn_eq _ rows query

theorem Row.map_searchOn (query : String) :
    (Row.searchOn row query items).map row = Row.search query (items.map row) := by
  rw [Row.search, Row.searchOn_eq, Row.searchOn_eq, List.filter_map]
  rfl

end

namespace View

variable (v : View) (t : Table) (search : String)

/-- The stages that say which rows a view shows, in which order. -/
def stages : List (List Row → List Row) :=
  [Filter.select v.filters, SortKey.sort v.sorts t.fields, Row.search search]

/-- **The rows that a view shows**: of the table's rows, those that pass every filter and that the
search finds, sorted. -/
def shown : List Row :=
  SortKey.sort v.sorts t.fields
    (t.rows.filter fun r => v.filters.all (·.passes r) && r.isFound search)

theorem stages_comm {f g : List Row → List Row} (hf : f ∈ v.stages t search)
    (hg : g ∈ v.stages t search) (rows : List Row) : g (f rows) = f (g rows) := by
  have hsort : ∀ p : Row → Bool, ∀ rows, SortKey.sort v.sorts t.fields (rows.filter p) =
      (SortKey.sort v.sorts t.fields rows).filter p :=
    fun p rows => (SortKey.filter_sort v.sorts t.fields p rows).symm
  simp only [stages, List.mem_cons, List.not_mem_nil, or_false] at hf hg
  rcases hf with rfl | rfl | rfl <;> rcases hg with rfl | rfl | rfl <;>
    simp only [Row.search_eq, Filter.select_eq, hsort, List.filter_comm]

theorem search_sort_select : Row.search search
    (SortKey.sort v.sorts t.fields (Filter.select v.filters t.rows)) = v.shown t search := by
  have hboth : ∀ r : Row, (r.isFound search && v.filters.all (·.passes r)) =
      (v.filters.all (·.passes r) && r.isFound search) := fun r => Bool.and_comm _ _
  rw [Row.search_eq, SortKey.filter_sort, Filter.select_eq, List.filter_filter, shown]
  simp only [hboth]

/-- **The stages may be run in any order.** -/
theorem foldl_stages {order : List (List Row → List Row)} (h : order.Perm (v.stages t search)) :
    order.foldl (fun rows stage => stage rows) t.rows = v.shown t search := by
  have hcomm : ∀ f ∈ order, ∀ g ∈ order, ∀ rows, g (f rows) = f (g rows) :=
    fun f hf g hg => v.stages_comm t search (h.mem_iff.1 hf) (h.mem_iff.1 hg)
  rw [h.foldl_eq' hcomm]
  exact v.search_sort_select t search

theorem map_row_found : (v.found t search).map (·.row) = v.shown t search := by
  have hrows : t.storedRows.map (·.row) = t.rows := by
    rw [Table.storedRows, List.mapIdx_eq_zipIdx_map, List.map_map]
    exact List.zipIdx_map_fst 0 t.rows
  show (Row.searchOn _ _ _).map StoredRow.row = _
  rw [Row.map_searchOn, SortKey.map_sortOn, Filter.map_selectOn, hrows]
  exact v.search_sort_select t search

theorem nodup_places_found : ((v.found t search).map (·.place)).Nodup := by
  have hplaces : t.storedRows.map (·.place) = List.range t.rows.length := by
    rw [Table.storedRows, List.mapIdx_eq_zipIdx_map, List.map_map, List.range_eq_range']
    exact List.zipIdx_map_snd 0 t.rows
  have hselect : ((Filter.selectOn StoredRow.row v.filters t.storedRows).map (·.place)).Nodup :=
    (hplaces ▸ List.nodup_range).sublist (List.filter_sublist.map _)
  have hsort := ((List.mergeSort_perm (Filter.selectOn StoredRow.row v.filters t.storedRows)
    fun a b => SortKey.compareAll v.sorts t.fields a.row b.row != .gt).map (·.place)).nodup_iff.2
      hselect
  rw [found, Row.searchOn_eq]
  exact hsort.sublist (List.filter_sublist.map _)

end View

end Fieldbook
