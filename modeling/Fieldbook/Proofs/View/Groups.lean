import Fieldbook.View.Group
import Mathlib.Data.List.Induction

/-!
# Items in groups

Grouping a list loses no item and repeats none (`Group.flatMap_items_collect`), keeps the order of
the list in each group (`Group.sublist_of_mem_collect`), and looks at nothing but the keys: items that
stand for others are grouped as the others are (`Group.collect_map`).
-/

namespace Fieldbook.Group

variable {α β : Type} {key : α → String}

theorem collect_concat (items : List α) (a : α) :
    collect key (items ++ [a]) = add (key a) a (collect key items) :=
  List.foldl_append

theorem add_map (f : α → β) (k : String) (a : α) (groups : List (Group α)) :
    add k (f a) (groups.map (·.map f)) = (add k a groups).map (·.map f) := by
  induction groups with
  | nil => rfl
  | cons g rest ih =>
    rw [List.map_cons, add, add]
    by_cases hkey : g.key = k
    · rw [if_pos hkey, if_pos (show (g.map f).key = k from hkey), List.map_cons, map, map,
        List.map_append]
      rfl
    · rw [if_neg hkey, if_neg (show (g.map f).key ≠ k from hkey), List.map_cons, ih]

theorem collect_map (f : α → β) (key : β → String) (items : List α) :
    collect key (items.map f) = (collect (fun a => key (f a)) items).map (·.map f) := by
  induction items using List.reverseRecOn with
  | nil => rfl
  | append_singleton items a ih =>
    rw [List.map_append, List.map_singleton, collect_concat, collect_concat, ih, add_map]

theorem flatMap_items_add (k : String) (a : α) (groups : List (Group α)) :
    ((add k a groups).flatMap (·.items)).Perm (groups.flatMap (·.items) ++ [a]) := by
  induction groups with
  | nil => exact .refl _
  | cons g rest ih =>
    rw [add, List.flatMap_cons]
    by_cases hkey : g.key = k
    · rw [if_pos hkey, List.flatMap_cons, List.append_assoc, List.append_assoc]
      exact List.perm_append_comm.append_left g.items
    · rw [if_neg hkey, List.flatMap_cons, List.append_assoc]
      exact ih.append_left g.items

/-- **Grouping keeps every item, as often as it is there.** -/
theorem flatMap_items_collect (items : List α) :
    ((collect key items).flatMap (·.items)).Perm items := by
  induction items using List.reverseRecOn with
  | nil => exact .refl _
  | append_singleton items a ih =>
    rw [collect_concat]
    exact (flatMap_items_add (key a) a _).trans (ih.append_right [a])

/-- A group is as it was before, or has the new item at its end, or holds nothing else. -/
theorem mem_add {k : String} {a : α} {groups : List (Group α)} {g : Group α}
    (h : g ∈ add k a groups) :
    g ∈ groups ∨ (∃ g' ∈ groups, g.items = g'.items ++ [a]) ∨ g.items = [a] := by
  induction groups with
  | nil =>
    obtain rfl := List.mem_singleton.1 h
    exact .inr (.inr rfl)
  | cons g' rest ih =>
    rw [add] at h
    by_cases hkey : g'.key = k
    · rw [if_pos hkey, List.mem_cons] at h
      rcases h with rfl | h
      · exact .inr (.inl ⟨g', List.mem_cons_self, rfl⟩)
      · exact .inl (List.mem_cons_of_mem g' h)
    · rw [if_neg hkey, List.mem_cons] at h
      rcases h with rfl | h
      · exact .inl List.mem_cons_self
      · rcases ih h with h | ⟨g'', hmem, hitems⟩ | h
        · exact .inl (List.mem_cons_of_mem g' h)
        · exact .inr (.inl ⟨g'', List.mem_cons_of_mem g' hmem, hitems⟩)
        · exact .inr (.inr h)

/-- **A group keeps the order of the items.** -/
theorem sublist_of_mem_collect {items : List α} {g : Group α} (h : g ∈ collect key items) :
    g.items.Sublist items := by
  induction items using List.reverseRecOn generalizing g with
  | nil => cases h
  | append_singleton items a ih =>
    rw [collect_concat] at h
    rcases mem_add h with h | ⟨g', hmem, hitems⟩ | h
    · exact (ih h).trans (List.sublist_append_left items [a])
    · rw [hitems]
      exact (ih hmem).append_right [a]
    · rw [h]
      exact List.sublist_append_right items [a]

end Fieldbook.Group
