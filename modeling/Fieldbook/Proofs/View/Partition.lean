import Fieldbook.Keyed
import Fieldbook.Proofs.View.Groups
import Mathlib.Data.List.Nodup

/-!
# Groups as a partition

The keys of the groups are the keys of the items in order of first appearance, and the group of a key
holds the items with that key in their order: `Group.partition` says so without going through the list,
and `Group.collect_eq_partition` finds what `Group.collect` does equal to it.

Groups may also be kept beside an index, a map from each key to the position of its group, so that no
group has to be searched for.  The index must then never lead past the groups or to the group of another
key: `IndexedGroups.Agrees` is what one more item keeps (`IndexedGroups.add?_of_agrees`), and so the
groups found that way are the same (`IndexedGroups.collect?_eq`).
-/

namespace Fieldbook

namespace Group

variable {α : Type} {key : α → String}

/-- **The partition of items by their keys**, in order of first appearance. -/
def partition (key : α → String) (items : List α) : List (Group α) :=
  (items.map key).eraseDups.map fun k => ⟨k, items.filter (key · = k)⟩

/-! ### Keys in order of first appearance -/

theorem eraseDups_concat (keys : List String) (k : String) :
    (keys ++ [k]).eraseDups = if k ∈ keys then keys.eraseDups else keys.eraseDups ++ [k] := by
  rw [List.eraseDups_append]
  split
  · rename_i hk
    simp [List.removeAll, hk]
  · rename_i hk
    simp [List.removeAll, hk, List.eraseDups_cons]

theorem pairwise_eraseDups (keys : List String) :
    keys.eraseDups.Pairwise fun j k => keys.idxOf j < keys.idxOf k := by
  induction keys using List.reverseRecOn with
  | nil => exact .nil
  | append_singleton keys last ih =>
    have hold : keys.eraseDups.Pairwise fun j k =>
        (keys ++ [last]).idxOf j < (keys ++ [last]).idxOf k := by
      refine ih.imp_of_mem fun hj hk hlt => ?_
      rw [List.idxOf_append_of_mem (List.mem_eraseDups.1 hj),
        List.idxOf_append_of_mem (List.mem_eraseDups.1 hk)]
      exact hlt
    rw [eraseDups_concat]
    split
    · exact hold
    · rename_i hlast
      refine List.pairwise_append.2 ⟨hold, List.pairwise_singleton _ _, fun j hj k hk => ?_⟩
      obtain rfl := List.mem_singleton.1 hk
      have hj' : j ∈ keys := List.mem_eraseDups.1 hj
      rw [List.idxOf_append_of_mem hj', List.idxOf_append_of_notMem hlast]
      exact Nat.lt_of_lt_of_le (List.idxOf_lt_length_iff.2 hj') (Nat.le_add_right _ _)

theorem nodup_eraseDups (keys : List String) : keys.eraseDups.Nodup := by
  refine (pairwise_eraseDups keys).imp ?_
  rintro j _ hlt rfl
  exact Nat.lt_irrefl _ hlt

/-! ### One more item -/

theorem add_of_notMem {k : String} {groups : List (Group α)} (h : k ∉ groups.map (·.key)) (a : α) :
    add k a groups = groups ++ [⟨k, [a]⟩] := by
  induction groups with
  | nil => rfl
  | cons g rest ih =>
    rw [List.map_cons, List.mem_cons, not_or] at h
    rw [add, if_neg (Ne.symm h.1), ih h.2]
    rfl

theorem add_append_cons {k : String} {front : List (Group α)} (h : k ∉ front.map (·.key))
    {g : Group α} (hg : g.key = k) (back : List (Group α)) (a : α) :
    add k a (front ++ g :: back) = front ++ { g with items := g.items ++ [a] } :: back := by
  induction front with
  | nil => rw [List.nil_append, add, if_pos hg, List.nil_append]
  | cons g' rest ih =>
    rw [List.map_cons, List.mem_cons, not_or] at h
    rw [List.cons_append, add, if_neg (Ne.symm h.1), ih h.2, List.cons_append]

theorem keys_add_of_mem {k : String} {groups : List (Group α)} (h : k ∈ groups.map (·.key)) (a : α) :
    (add k a groups).map (·.key) = groups.map (·.key) := by
  induction groups with
  | nil => cases h
  | cons g rest ih =>
    rw [add]
    split
    · rfl
    · rename_i hne
      have hrest : k ∈ rest.map (·.key) := (List.mem_cons.1 h).resolve_left (Ne.symm hne)
      rw [List.map_cons, List.map_cons, ih hrest]

theorem add_map_of_mem {k : String} {keys : List String} (hnodup : keys.Nodup) (hk : k ∈ keys)
    (items : String → List α) (a : α) :
    add k a (keys.map fun j => ⟨j, items j⟩)
      = keys.map fun j => ⟨j, if j = k then items j ++ [a] else items j⟩ := by
  obtain ⟨front, back, rfl⟩ := List.append_of_mem hk
  have hkeys : k ∉ front ∧ k ∉ back := by
    have := List.nodup_middle.1 hnodup
    rw [List.nodup_cons, List.mem_append, not_or] at this
    exact this.1
  have hother : ∀ part : List String, k ∉ part →
      (part.map fun j => (⟨j, if j = k then items j ++ [a] else items j⟩ : Group α))
        = part.map fun j => ⟨j, items j⟩ := by
    intro part hpart
    refine List.map_congr_left fun j hj => ?_
    have hne : j ≠ k := fun heq => hpart (heq ▸ hj)
    rw [if_neg hne]
  rw [List.map_append, List.map_cons, List.map_append, List.map_cons, hother front hkeys.1,
    hother back hkeys.2, if_pos rfl]
  refine add_append_cons (g := ⟨k, items k⟩) ?_ rfl _ a
  simpa using hkeys.1

/-- **Grouping is partitioning.** -/
theorem collect_eq_partition (items : List α) : collect key items = partition key items := by
  induction items using List.reverseRecOn with
  | nil => rfl
  | append_singleton items a ih =>
    have hnone : ∀ j, j ≠ key a → items.filter (key · = j) = (items ++ [a]).filter (key · = j) := by
      intro j hj
      simp [Ne.symm hj]
    rw [collect_concat, ih, partition, partition, List.map_append, List.map_singleton,
      eraseDups_concat]
    split
    · rename_i hold
      rw [add_map_of_mem (nodup_eraseDups _) (List.mem_eraseDups.2 hold)]
      refine List.map_congr_left fun j _ => ?_
      by_cases hj : j = key a
      · subst hj
        simp
      · rw [if_neg hj, hnone j hj]
    · rename_i hnew
      have hfirst : items.filter (key · = key a) = [] := by
        refine List.filter_eq_nil_iff.2 fun b hb heq => hnew ?_
        exact of_decide_eq_true heq ▸ List.mem_map_of_mem hb
      rw [add_of_notMem (by simpa using hnew), List.map_append, List.map_singleton]
      congr 1
      · refine List.map_congr_left fun j hj => ?_
        have hne : j ≠ key a := fun heq => hnew (heq ▸ List.mem_eraseDups.1 hj)
        rw [hnone j hne]
      · rw [List.filter_append, hfirst]
        simp

theorem keys_collect (items : List α) :
    (collect key items).map (·.key) = (items.map key).eraseDups := by
  rw [collect_eq_partition, partition, List.map_map]
  exact List.map_id _

theorem mem_keys_collect {items : List α} {k : String} :
    k ∈ (collect key items).map (·.key) ↔ ∃ a ∈ items, key a = k := by
  rw [keys_collect, List.mem_eraseDups, List.mem_map]

/-- **A group holds the items with its key**, in their order. -/
theorem items_of_mem_collect {items : List α} {g : Group α} (h : g ∈ collect key items) :
    g.items = items.filter (key · = g.key) := by
  rw [collect_eq_partition] at h
  obtain ⟨k, -, rfl⟩ := List.mem_map.1 h
  rfl

/-- **Items are in one group exactly if they have one key.** -/
theorem exists_mem_collect_iff {items : List α} {a b : α} (ha : a ∈ items) (hb : b ∈ items) :
    (∃ g ∈ collect key items, a ∈ g.items ∧ b ∈ g.items) ↔ key a = key b := by
  constructor
  · rintro ⟨g, hg, hag, hbg⟩
    rw [items_of_mem_collect hg] at hag hbg
    have hkey : key a = g.key := of_decide_eq_true (List.mem_filter.1 hag).2
    have hkey' : key b = g.key := of_decide_eq_true (List.mem_filter.1 hbg).2
    rw [hkey, hkey']
  · intro hkey
    obtain ⟨g, hg, hgkey⟩ := List.mem_map.1 (mem_keys_collect.2 ⟨a, ha, rfl⟩)
    refine ⟨g, hg, ?_⟩
    rw [items_of_mem_collect hg]
    exact ⟨List.mem_filter.2 ⟨ha, decide_eq_true hgkey.symm⟩,
      List.mem_filter.2 ⟨hb, decide_eq_true (hkey ▸ hgkey.symm)⟩⟩

theorem items_ne_nil_of_mem_collect {items : List α} {g : Group α} (h : g ∈ collect key items) :
    g.items ≠ [] := by
  obtain ⟨a, ha, hkey⟩ := mem_keys_collect.1 (List.mem_map_of_mem h)
  rw [items_of_mem_collect h]
  exact List.ne_nil_of_mem (List.mem_filter.2 ⟨ha, decide_eq_true hkey⟩)

end Group

/-! ### Groups found by an index -/

/-- Groups beside an index: the position of the group of each key. -/
structure IndexedGroups (α : Type) where
  groups : List (Group α)
  index : Keyed Nat

namespace IndexedGroups

variable {α : Type} {key : α → String}

def start : IndexedGroups α := ⟨[], .empty⟩

/-- An item put at the end of the group at a position.  A position past the groups is refused. -/
def push? (groups : List (Group α)) (i : Nat) (item : α) : Option (List (Group α)) :=
  groups[i]?.map fun g => groups.set i { g with items := g.items ++ [item] }

/-- **One more item**, put into the group that the index gives for its key, or into a new last group
that the index learns of. -/
def add? (k : String) (item : α) (s : IndexedGroups α) : Option (IndexedGroups α) :=
  match s.index.get? k with
  | some i => (push? s.groups i item).map fun groups => { s with groups }
  | none => some ⟨s.groups ++ [⟨k, [item]⟩], s.index.insert k s.groups.length⟩

/-- **Items grouped with an index.** -/
def collect? (key : α → String) (items : List α) : Option (List (Group α)) :=
  (items.foldlM (fun (s : IndexedGroups α) item => s.add? (key item) item) start).map (·.groups)

/-- **The index leads to the group of each key**, and knows every group. -/
def Agrees (s : IndexedGroups α) : Prop :=
  ∀ k i, s.index.get? k = some i ↔ (s.groups.map (·.key))[i]? = some k

theorem agrees_start : (start : IndexedGroups α).Agrees := by
  intro k i
  simp [start]

variable {s : IndexedGroups α} {k : String} {i : Nat}

theorem Agrees.notMem_keys (h : s.Agrees) (hindex : s.index.get? k = none) :
    k ∉ s.groups.map (·.key) := by
  intro hk
  obtain ⟨i, hi⟩ := List.mem_iff_getElem?.1 hk
  rw [← h, hindex] at hi
  cases hi

theorem Agrees.lt_length (h : s.Agrees) (hindex : s.index.get? k = some i) :
    i < s.groups.length := by
  have hlt := (List.getElem?_eq_some_iff.1 ((h k i).1 hindex)).1
  rwa [List.length_map] at hlt

/-- A new key leads to the position behind the old groups, and no other key does. -/
theorem Agrees.concat (h : s.Agrees) (hindex : s.index.get? k = none) (items : List α) :
    (⟨s.groups ++ [⟨k, items⟩], s.index.insert k s.groups.length⟩ : IndexedGroups α).Agrees := by
  intro j i
  rw [Keyed.get?_insert, List.map_append, List.map_singleton, List.getElem?_append,
    List.length_map]
  by_cases hi : i < s.groups.length
  · rw [if_pos hi, ← h]
    by_cases hj : j = k
    · subst hj
      rw [if_pos rfl, hindex]
      simp [Nat.ne_of_gt hi]
    · rw [if_neg hj]
  · have hsingle : [k][i - s.groups.length]? = some j ↔ i = s.groups.length ∧ j = k := by
      rw [List.getElem?_singleton]
      split
      · have heq : i = s.groups.length := by omega
        rw [Option.some.injEq, eq_comm, and_iff_right heq]
      · have hne : i ≠ s.groups.length := by omega
        simp [hne]
    rw [if_neg hi, hsingle]
    by_cases hj : j = k
    · rw [if_pos hj, Option.some.injEq, eq_comm]
      simp [hj]
    · rw [if_neg hj]
      simp only [hj, and_false, iff_false]
      exact fun heq => hi (h.lt_length heq)

/-- The position of a key is that of the group that the search comes to first. -/
theorem Agrees.push?_eq (h : s.Agrees) (hindex : s.index.get? k = some i) (a : α) :
    push? s.groups i a = some (Group.add k a s.groups) := by
  have hi : i < s.groups.length := h.lt_length hindex
  have hkey : s.groups[i].key = k := by
    have hget := (h k i).1 hindex
    rw [List.getElem?_map, List.getElem?_eq_getElem hi] at hget
    exact Option.some.inj hget
  have hfront : k ∉ (s.groups.take i).map (·.key) := by
    intro hk
    obtain ⟨j, hj⟩ := List.mem_iff_getElem?.1 hk
    rw [List.map_take, List.getElem?_take] at hj
    split at hj
    · rename_i hlt
      rw [← h, hindex] at hj
      cases hj
      exact Nat.lt_irrefl _ hlt
    · cases hj
  have hadd := Group.add_append_cons hfront hkey (s.groups.drop (i + 1)) a
  rw [← List.drop_eq_getElem_cons hi, List.take_append_drop] at hadd
  rw [push?, List.getElem?_eq_getElem hi, Option.map_some, List.set_eq_take_append_cons_drop,
    if_pos hi, hadd]

/-- **One more item** finds its group where the search finds it, and the index stays right. -/
theorem add?_of_agrees (h : s.Agrees) (k : String) (a : α) :
    ∃ s', s.add? k a = some s' ∧ s'.Agrees ∧ s'.groups = Group.add k a s.groups := by
  unfold add?
  cases hindex : s.index.get? k with
  | none => exact ⟨_, rfl, h.concat hindex [a], (Group.add_of_notMem (h.notMem_keys hindex) a).symm⟩
  | some i =>
    have hk : k ∈ s.groups.map (·.key) := List.mem_of_getElem? ((h k i).1 hindex)
    refine ⟨⟨Group.add k a s.groups, s.index⟩, ?_, fun j l => ?_, rfl⟩
    · show (push? s.groups i a).map _ = _
      rw [h.push?_eq hindex]
      rfl
    · show s.index.get? j = some l ↔ _
      rw [Group.keys_add_of_mem hk]
      exact h j l

/-- **Grouping with an index is grouping**, and no position is ever refused. -/
theorem collect?_eq (items : List α) : collect? key items = some (Group.collect key items) := by
  have hrun : ∀ s : IndexedGroups α, s.Agrees →
      ∃ s', items.foldlM (fun t item => t.add? (key item) item) s = some s' ∧
        s'.groups = items.foldl (fun groups item => Group.add (key item) item groups) s.groups := by
    induction items with
    | nil => exact fun s _ => ⟨s, rfl, rfl⟩
    | cons a rest ih =>
      intro s hs
      obtain ⟨t, hadd, ht, hgroups⟩ := add?_of_agrees hs (key a) a
      obtain ⟨s', hrest, hs'⟩ := ih t ht
      refine ⟨s', ?_, ?_⟩
      · rw [List.foldlM_cons, hadd]
        exact hrest
      · rw [hs', hgroups, List.foldl_cons]
  obtain ⟨s', hfold, hgroups⟩ := hrun start agrees_start
  rw [collect?, hfold, Option.map_some, hgroups]
  rfl

end IndexedGroups

/-! ### Rows -/

/-- **Rows are grouped as the partition by their keys**, and the index finds the same groups.  The keys
are those of the rows, each once and in order of first appearance; the group of a key holds the rows with
that key in their order.  No row is lost or repeated, and no group is empty. -/
theorem Row.group_eq_partition (field : String) (rows : List Row) :
    let groups := Row.group field rows
    let keys := groups.map (·.key)
    groups = Group.partition (·.groupKey field) rows
    ∧ IndexedGroups.collect? (·.groupKey field) rows = some groups
    ∧ (∀ k, k ∈ keys ↔ ∃ row ∈ rows, row.groupKey field = k)
    ∧ keys.Nodup
    ∧ (keys.Pairwise fun j k =>
        (rows.map (·.groupKey field)).idxOf j < (rows.map (·.groupKey field)).idxOf k)
    ∧ (∀ g ∈ groups, g.items = rows.filter (·.groupKey field = g.key) ∧ g.items ≠ [])
    ∧ (groups.flatMap (·.items)).Perm rows := by
  intro groups keys
  have hkeys : keys = (rows.map (·.groupKey field)).eraseDups := Group.keys_collect rows
  refine ⟨Group.collect_eq_partition rows, IndexedGroups.collect?_eq rows,
    fun k => Group.mem_keys_collect, ?_, ?_, fun g hg => ?_, Group.flatMap_items_collect rows⟩
  · rw [hkeys]
    exact Group.nodup_eraseDups _
  · rw [hkeys]
    exact Group.pairwise_eraseDups _
  · exact ⟨Group.items_of_mem_collect hg, Group.items_ne_nil_of_mem_collect hg⟩

end Fieldbook
