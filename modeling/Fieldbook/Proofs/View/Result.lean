import Fieldbook.Proofs.Calculation.Recount
import Fieldbook.Proofs.View.Groups
import Fieldbook.Proofs.View.Stages
import Mathlib.Data.List.GetD

/-!
# What a view shows

A view calculates the rows that its stages leave, and shows the calculated rows in the groups of the
stored ones.  Rows that cannot be told apart by anything they hold are still told apart here: groups
are compared by the positions of their rows (`View.run_shown`).
-/

namespace Fieldbook

theorem StoredRow.position?_getElem {stored : List StoredRow}
    (hplaces : (stored.map (·.place)).Nodup) {i : Nat} (hi : i < stored.length) :
    position? stored stored[i].place = some i := by
  have hdistinct : stored.Pairwise fun a b => a.place ≠ b.place := List.pairwise_map.1 hplaces
  refine List.findIdx?_eq_some_iff_getElem.2 ⟨hi, beq_self_eq_true _, ?_⟩
  intro j hj hsame
  exact List.pairwise_iff_getElem.1 hdistinct j i (by omega) hi hj (beq_iff_eq.1 hsame)

namespace View

/-- The rows grouped, each by its position in the list. -/
def positions (field : String) (rows : List Row) : List (Group Nat) :=
  Group.collect (fun i => (rows.getD i default).groupKey field) (List.range rows.length)

theorem map_getD_range {α : Type} (l : List α) (d : α) :
    (List.range l.length).map (l.getD · d) = l := by
  apply List.ext_getElem (by simp)
  intro i hi hi'
  rw [List.getElem_map, List.getElem_range, List.getD_eq_getElem l d hi']

theorem group_eq_positions (field : String) (rows : List Row) :
    Row.group field rows = (positions field rows).map (·.map (rows.getD · default)) := by
  rw [positions, ← Group.collect_map (rows.getD · default) (·.groupKey field), map_getD_range]
  rfl

theorem lt_of_mem_positions {field : String} {rows : List Row} {g : Group Nat}
    (hg : g ∈ positions field rows) {i : Nat} (hi : i ∈ g.items) : i < rows.length :=
  List.mem_range.1 ((Group.sublist_of_mem_collect hg).subset hi)

variable {stored : List StoredRow} {computed : List Row}

/-- **A group lists the calculated rows at the positions of its stored rows.** -/
theorem groups_eq_positions (v : View) {field : String} (hfield : v.groupBy = some field)
    (hplaces : (stored.map (·.place)).Nodup) (hlength : computed.length = stored.length) :
    v.groups stored computed =
      (positions field (stored.map (·.row))).map (·.map (computed.getD · default)) := by
  have hcollect : Group.collect (·.row.groupKey field) stored =
      (positions field (stored.map (·.row))).map (·.map (stored.getD · default)) := by
    have hkey : ∀ i, (stored.map (·.row)).getD i default = (stored.getD i default).row :=
      fun i => List.getD_map stored default StoredRow.row
    simp only [positions, hkey, List.length_map]
    rw [← Group.collect_map (stored.getD · default) (·.row.groupKey field), map_getD_range]
  rw [groups, hfield]
  show (Group.collect _ stored).map _ = _
  rw [hcollect, List.map_map]
  refine List.map_congr_left fun g hg => ?_
  have hlt : ∀ i ∈ g.items, i < stored.length := fun i hi => by
    simpa using lt_of_mem_positions hg hi
  show Group.mk g.key (((g.items.map (stored.getD · default)).filterMap
      fun s => StoredRow.position? stored s.place).filterMap (computed[·]?)) =
    Group.mk g.key (g.items.map (computed.getD · default))
  congr 1
  calc
    _ = g.items.filterMap (computed[·]?) := by
      -- The places of the stored rows give back their positions.
      rw [List.filterMap_map]
      refine congrArg _ ((List.filterMap_congr fun i hi => ?_).trans List.filterMap_some)
      show StoredRow.position? stored (stored.getD i default).place = some i
      rw [List.getD_eq_getElem stored default (hlt i hi)]
      exact StoredRow.position?_getElem hplaces (hlt i hi)
    _ = g.items.filterMap (some ∘ (computed.getD · default)) := by
      refine List.filterMap_congr fun i hi => ?_
      have hi' : i < computed.length := hlength ▸ hlt i hi
      rw [Function.comp, List.getD_eq_getElem computed default hi', List.getElem?_eq_getElem hi']
    _ = g.items.map (computed.getD · default) := by
      rw [List.filterMap_eq_map]

/-- **What a view shows.**  It keeps the rows that pass every filter and that the search finds, sorted;
filters, sort and search may be run in any order.  The rows and the stats are those of calculating what
is kept.  Without a field to group by there are no groups; with one, the groups are those of the stored
rows with each row replaced by the calculated row at its own position: every position is in one group,
once, and the positions of a group ascend. -/
theorem run_shown (v : View) (t : Table) (registry : Registry) (search : String)
    (options : CalculationOptions) :
    let shown := SortKey.sort v.sorts t.fields
      (t.rows.filter fun r => v.filters.all (·.passes r) && r.isFound search)
    let result := v.run t registry search options
    (∀ order : List (List Row → List Row), order.Perm (v.stages t search) →
      order.foldl (fun rows stage => stage rows) t.rows = shown) ∧
    (result.rows, result.stats) = t.computeRows shown registry options ∧
    result.rows = shown.map (t.computeRow · registry options) ∧
    (v.groupBy = none → result.groups = []) ∧
    ∀ field, v.groupBy = some field → ∃ positions : List (Group Nat),
      Row.group field shown = positions.map (·.map (shown.getD · default)) ∧
      result.groups = positions.map (·.map (result.rows.getD · default)) ∧
      (positions.flatMap (·.items)).Perm (List.range result.rows.length) ∧
      ∀ g ∈ positions, g.items.Pairwise (· < ·) := by
  intro shown result
  have hfound : (v.found t search).map (·.row) = shown := v.map_row_found t search
  have hrun : (result.rows, result.stats) = t.computeRows shown registry options := by
    rw [← hfound]
    rfl
  have hrows : result.rows = shown.map (t.computeRow · registry options) := by
    rw [← t.computeRows_fst, ← hrun]
  have hlength : result.rows.length = shown.length := by rw [hrows, List.length_map]
  refine ⟨fun order h => v.foldl_stages t search h, hrun, hrows, ?_, ?_⟩
  · intro hnone
    show v.groups _ _ = []
    rw [groups, hnone]
  · intro field hfield
    refine ⟨positions field shown, group_eq_positions field shown, ?_, ?_, ?_⟩
    · have hstored : result.rows.length = (v.found t search).length := by
        rw [hlength, ← hfound, List.length_map]
      rw [← hfound]
      exact v.groups_eq_positions hfield (v.nodup_places_found t search) hstored
    · rw [hlength]
      exact Group.flatMap_items_collect _
    · intro g hg
      exact List.pairwise_lt_range.sublist (Group.sublist_of_mem_collect hg)

end View

end Fieldbook
