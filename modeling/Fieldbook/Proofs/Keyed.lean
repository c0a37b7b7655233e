import Mathlib.Data.List.Nodup
import Fieldbook.Keyed

/-!
# What is found under a key

Three ways to keep things under keys meet here: a list searched for the first with a key, entries looked
up among pairs, and a `Keyed` map made of entries.  Of several with one key the list gives the first
and the map the last (`Keyed.get?_ofList`).  Where keys are different they give the same, and the
order does not matter (`find?_of_mem`, `find?_perm`, `Keyed.lookup_perm`).
-/

namespace Fieldbook

section Search

variable {α : Type} {key : α → String} {items items' : List α}

theorem find?_of_mem (hkeys : (items.map key).Nodup) {a : α} (ha : a ∈ items) :
    items.find? (key · == key a) = some a := by
  cases h : items.find? (key · == key a) with
  | none =>
    have := List.find?_eq_none.1 h a ha
    simp at this
  | some b =>
    have hkey : key b = key a := by simpa using List.find?_some h
    exact congrArg some (List.inj_on_of_nodup_map hkeys (List.mem_of_find?_eq_some h) ha hkey)

theorem find?_perm (h : items'.Perm items) (hkeys : (items.map key).Nodup) (k : String) :
    items'.find? (key · == k) = items.find? (key · == k) := by
  have hkeys' : (items'.map key).Nodup := (h.map key).nodup_iff.2 hkeys
  cases hfound : items.find? (key · == k) with
  | none =>
    refine List.find?_eq_none.2 fun a ha => ?_
    exact List.find?_eq_none.1 hfound a (h.mem_iff.1 ha)
  | some a =>
    have hkey : key a = k := by simpa using List.find?_some hfound
    rw [← hkey]
    exact find?_of_mem hkeys' (h.mem_iff.2 (List.mem_of_find?_eq_some hfound))

end Search

namespace Keyed

variable {α : Type}

theorem lookup_isSome_iff {entries : List (String × α)} {k : String} :
    (entries.lookup k).isSome ↔ k ∈ entries.map (·.1) := by
  induction entries with
  | nil => simp
  | cons e rest ih =>
    rw [lookup_cons_eq, List.map_cons, List.mem_cons]
    by_cases h : k = e.1
    · simp [h]
    · rw [if_neg h, ih]
      simp [h]

theorem lookup_eq_find? (entries : List (String × α)) (k : String) :
    entries.lookup k = (entries.find? (·.1 == k)).map (·.2) := by
  induction entries with
  | nil => rfl
  | cons e rest ih =>
    rw [lookup_cons_eq, List.find?_cons]
    by_cases h : k = e.1
    · simp [h]
    · have hb : (e.1 == k) = false := by simpa using fun he => h he.symm
      rw [if_neg h, hb, ih]

theorem lookup_map_key (key : α → String) (items : List α) (k : String) :
    (items.map fun a => (key a, a)).lookup k = items.find? (key · == k) := by
  rw [lookup_eq_find?, List.find?_map, Option.map_map]
  exact Option.map_id'

theorem lookup_perm {entries entries' : List (String × α)} (h : entries'.Perm entries)
    (hkeys : (entries.map (·.1)).Nodup) (k : String) : entries'.lookup k = entries.lookup k := by
  rw [lookup_eq_find?, lookup_eq_find?, find?_perm h hkeys]

theorem mem_keys_iff {m : Keyed α} {k : String} : k ∈ m.keys ↔ m.contains k = true :=
  lookup_isSome_iff.symm

theorem nodup_keys (m : Keyed α) : m.keys.Nodup := by
  unfold keys
  rw [List.nodup_iff_pairwise_ne, List.pairwise_map]
  refine m.sorted.imp fun h he => ?_
  rw [he] at h
  exact String.lt_irrefl _ h

theorem mem_values_of_get? {m : Keyed α} {k : String} {a : α} (h : m.get? k = some a) :
    a ∈ m.values := by
  obtain ⟨front, back, hentries, -⟩ := List.lookup_eq_some_iff.1 h
  rw [values, hentries]
  exact List.mem_map_of_mem (List.mem_append_right front List.mem_cons_self)

theorem get?_foldl_insert (entries : List (String × α)) (m : Keyed α) (k : String) :
    (entries.foldl (fun m e => m.insert e.1 e.2) m).get? k
      = (entries.reverse.lookup k).or (m.get? k) := by
  induction entries generalizing m with
  | nil => rfl
  | cons e rest ih =>
    rw [List.foldl_cons, ih, get?_insert, List.reverse_cons, List.lookup_append, Option.or_assoc]
    congr 1
    rw [lookup_cons_eq]
    by_cases h : k = e.1 <;> simp [h]

/-- **Of several values under one key the last is found.** -/
theorem get?_ofList (entries : List (String × α)) (k : String) :
    (ofList entries).get? k = entries.reverse.lookup k := by
  unfold ofList
  rw [get?_foldl_insert, get?_empty, Option.or_none]

theorem get?_ofList_of_nodup {entries : List (String × α)} (hkeys : (entries.map (·.1)).Nodup)
    (k : String) : (ofList entries).get? k = entries.lookup k := by
  rw [get?_ofList]
  exact lookup_perm (List.reverse_perm entries) hkeys k

/-- **A map is the map of its entries**, in whatever order they come. -/
theorem ofList_perm {m : Keyed α} {entries : List (String × α)} (h : entries.Perm m.entries) :
    ofList entries = m := by
  have hkeys : (m.entries.map (·.1)).Nodup := m.nodup_keys
  ext k : 1
  rw [get?_ofList_of_nodup ((h.map (·.1)).nodup_iff.2 hkeys)]
  exact lookup_perm h hkeys k

end Keyed

namespace NameSet

theorem get?_ofNames (names : List String) (k : String) :
    (ofNames names).get? k = if k ∈ names then some () else none := by
  have hkeys : (names.map fun name => (name, ())).map (·.1) = names := by
    rw [List.map_map]
    exact List.map_id names
  have hiff : ((ofNames names).get? k).isSome ↔ k ∈ names := by
    unfold ofNames
    rw [Keyed.get?_ofList, Keyed.lookup_isSome_iff, List.map_reverse, List.mem_reverse, hkeys]
  split
  · rename_i h
    exact Option.isSome_iff_exists.1 (hiff.2 h) |>.choose_spec
  · rename_i h
    exact Option.not_isSome_iff_eq_none.1 (mt hiff.1 h)

@[simp] theorem contains_ofNames {names : List String} {k : String} :
    (ofNames names).contains k = true ↔ k ∈ names := by
  unfold Keyed.contains
  rw [get?_ofNames]
  by_cases h : k ∈ names <;> simp [h]

theorem contains_insert {s : NameSet} {name k : String} :
    Keyed.contains (s.insert name ()) k = (k == name || s.contains k) := by
  rw [Keyed.contains, Keyed.contains, Keyed.get?_insert]
  by_cases h : k = name <;> simp [h]

theorem contains_insert_iff {s : NameSet} {name k : String} :
    Keyed.contains (s.insert name ()) k = true ↔ k = name ∨ s.contains k = true := by
  rw [contains_insert, Bool.or_eq_true, beq_iff_eq]

theorem ext_contains {s t : NameSet} (h : ∀ k, s.contains k = true ↔ t.contains k = true) : s = t := by
  refine Keyed.ext fun k => ?_
  have hk : (s.get? k).isSome ↔ (t.get? k).isSome := h k
  cases hs : s.get? k with
  | none =>
    rw [hs] at hk
    exact (Option.not_isSome_iff_eq_none.1 fun ht => absurd (hk.2 ht) Bool.false_ne_true).symm
  | some u =>
    rw [hs] at hk
    exact (Option.isSome_iff_exists.1 (hk.1 rfl)).choose_spec.symm

theorem ofNames_congr {names names' : List String} (h : ∀ k, k ∈ names ↔ k ∈ names') :
    ofNames names = ofNames names' := by
  ext k
  rw [get?_ofNames, get?_ofNames]
  simp only [h]

theorem ofNames_keys (s : NameSet) : ofNames s.keys = s := by
  unfold ofNames Keyed.keys
  rw [List.map_map]
  exact Keyed.ofList_perm (.of_eq (List.map_id s.entries))

end NameSet

end Fieldbook
