/-!
# Values under text keys

A `Keyed α` is a finite map from text keys to values, kept as a list of entries in increasing
key order.  The order leaves one list for each map, so two maps that give the same value under
every key are equal (`Keyed.ext`), and putting a value changes what is found under its key and
nothing else (`Keyed.get?_insert`).  A `NameSet` is the same without values.
-/

namespace Fieldbook

structure Keyed (α : Type) where
  /-- The entries, in increasing key order. -/
  entries : List (String × α)
  sorted : entries.Pairwise fun a b => a.1 < b.1
deriving DecidableEq

namespace Keyed

variable {α : Type}

def empty : Keyed α := ⟨[], .nil⟩

instance : Inhabited (Keyed α) := ⟨empty⟩

def get? (m : Keyed α) (key : String) : Option α := m.entries.lookup key

def contains (m : Keyed α) (key : String) : Bool := (m.get? key).isSome

def values (m : Keyed α) : List α := m.entries.map (·.2)

def keys (m : Keyed α) : List String := m.entries.map (·.1)

/-- Entries with a value put under a key, in its place by key order. -/
def insertEntry (key : String) (value : α) : List (String × α) → List (String × α)
  | [] => [(key, value)]
  | (k, v) :: rest =>
    if key < k then (key, value) :: (k, v) :: rest
    else if key = k then (key, value) :: rest
    else (k, v) :: insertEntry key value rest

theorem mem_insertEntry {key : String} {value : α} {entries : List (String × α)}
    {e : String × α} (h : e ∈ insertEntry key value entries) : e = (key, value) ∨ e ∈ entries := by
  induction entries with
  | nil => simpa [insertEntry] using h
  | cons head rest ih =>
    obtain ⟨k, v⟩ := head
    simp only [insertEntry] at h
    split at h
    · simpa using h
    · split at h
      · rcases List.mem_cons.1 h with h | h
        · exact .inl h
        · exact .inr (List.mem_cons_of_mem _ h)
      · rcases List.mem_cons.1 h with h | h
        · exact .inr (h ▸ List.mem_cons_self)
        · exact (ih h).imp_right (List.mem_cons_of_mem _)

theorem key_lt_of_not_lt {a b : String} (h : ¬ a < b) (hne : a ≠ b) : b < a :=
  Std.lt_of_le_of_ne (String.not_lt.1 h) (Ne.symm hne)

theorem sorted_insertEntry {key : String} {value : α} {entries : List (String × α)}
    (h : entries.Pairwise fun a b => a.1 < b.1) :
    (insertEntry key value entries).Pairwise fun a b => a.1 < b.1 := by
  induction entries with
  | nil => exact List.pairwise_singleton _ _
  | cons head rest ih =>
    obtain ⟨k, v⟩ := head
    obtain ⟨hhead, hrest⟩ := List.pairwise_cons.1 h
    simp only [insertEntry]
    split
    · rename_i hlt
      refine List.pairwise_cons.2 ⟨fun e he => ?_, h⟩
      rcases List.mem_cons.1 he with he | he
      · exact he ▸ hlt
      · exact String.lt_trans hlt (hhead e he)
    · split
      · rename_i heq
        exact List.pairwise_cons.2 ⟨fun e he => heq ▸ hhead e he, hrest⟩
      · rename_i hlt hne
        refine List.pairwise_cons.2 ⟨fun e he => ?_, ih hrest⟩
        rcases mem_insertEntry he with he | he
        · exact he ▸ key_lt_of_not_lt hlt hne
        · exact hhead e he

/-- **Putting a value under a key**, in place of the one that was there. -/
def insert (m : Keyed α) (key : String) (value : α) : Keyed α :=
  ⟨insertEntry key value m.entries, sorted_insertEntry m.sorted⟩

/-- The map of a list of entries; of two values under one key the later stays. -/
def ofList (entries : List (String × α)) : Keyed α :=
  entries.foldl (fun m e => m.insert e.1 e.2) empty

theorem lookup_cons_eq (k : String) (e : String × α) (rest : List (String × α)) :
    (e :: rest).lookup k = if k = e.1 then some e.2 else rest.lookup k := by
  obtain ⟨key, value⟩ := e
  by_cases h : k = key
  · subst h
    rw [List.lookup_cons_self, if_pos rfl]
  · have hb : (k == key) = false := by simpa using h
    rw [List.lookup_cons, hb, if_neg h]

theorem lookup_insertEntry (key : String) (value : α) (entries : List (String × α)) (k : String) :
    (insertEntry key value entries).lookup k
      = if k = key then some value else entries.lookup k := by
  induction entries with
  | nil => exact lookup_cons_eq k (key, value) []
  | cons head rest ih =>
    obtain ⟨k', v⟩ := head
    simp only [insertEntry]
    split
    · exact lookup_cons_eq k (key, value) _
    · split
      · rename_i hkey
        subst hkey
        rw [lookup_cons_eq, lookup_cons_eq]
        by_cases h : k = key <;> simp [h]
      · rename_i hne
        rw [lookup_cons_eq, lookup_cons_eq, ih]
        by_cases h : k = k'
        · subst h
          have : k ≠ key := fun e => hne e.symm
          simp [this]
        · simp [h]

/-- **Putting a value changes what is found under its key only.** -/
theorem get?_insert (m : Keyed α) (key : String) (value : α) (k : String) :
    (m.insert key value).get? k = if k = key then some value else m.get? k :=
  lookup_insertEntry key value m.entries k

@[simp] theorem get?_empty (k : String) : (empty : Keyed α).get? k = none := rfl

theorem lookup_eq_none_of_lt {entries : List (String × α)} {k : String}
    (h : ∀ e ∈ entries, k < e.1) : entries.lookup k = none := by
  induction entries with
  | nil => rfl
  | cons head rest ih =>
    have hne : k ≠ head.1 := fun e => String.lt_irrefl _ (e ▸ h head List.mem_cons_self)
    rw [lookup_cons_eq, if_neg hne]
    exact ih fun e he => h e (List.mem_cons_of_mem _ he)

/-- Where the first keys of two sorted lists differ, they are told apart by a look-up. -/
theorem lookup_ne_of_lt {a b : String × α} {r₁ r₂ : List (String × α)} (hlt : a.1 < b.1)
    (hb : ∀ e ∈ r₂, b.1 < e.1) : (a :: r₁).lookup a.1 ≠ (b :: r₂).lookup a.1 := by
  have hnone : (b :: r₂).lookup a.1 = none := lookup_eq_none_of_lt fun e he => by
    rcases List.mem_cons.1 he with he | he
    · exact he ▸ hlt
    · exact String.lt_trans hlt (hb e he)
  rw [hnone, lookup_cons_eq, if_pos rfl]
  exact Option.some_ne_none _

theorem entries_ext {l₁ l₂ : List (String × α)} (h₁ : l₁.Pairwise fun a b => a.1 < b.1)
    (h₂ : l₂.Pairwise fun a b => a.1 < b.1) (h : ∀ k, l₁.lookup k = l₂.lookup k) : l₁ = l₂ := by
  induction l₁ generalizing l₂ with
  | nil =>
    cases l₂ with
    | nil => rfl
    | cons e rest =>
      have := h e.1
      rw [lookup_cons_eq, if_pos rfl] at this
      exact absurd this (Option.some_ne_none _).symm
  | cons a r₁ ih =>
    cases l₂ with
    | nil =>
      have := h a.1
      rw [lookup_cons_eq, if_pos rfl] at this
      exact absurd this (Option.some_ne_none _)
    | cons b r₂ =>
      obtain ⟨ha, hr₁⟩ := List.pairwise_cons.1 h₁
      obtain ⟨hb, hr₂⟩ := List.pairwise_cons.1 h₂
      have hkey : a.1 = b.1 := by
        apply Decidable.byContradiction
        intro hne
        by_cases hlt : a.1 < b.1
        · exact lookup_ne_of_lt hlt hb (h a.1)
        · exact lookup_ne_of_lt (key_lt_of_not_lt hlt hne) ha (h b.1).symm
      have hval : a.2 = b.2 := by
        have := h a.1
        rw [lookup_cons_eq, lookup_cons_eq, if_pos rfl, if_pos hkey] at this
        exact Option.some.inj this
      have hab : a = b := Prod.ext hkey hval
      subst hab
      congr 1
      refine ih hr₁ hr₂ fun k => ?_
      by_cases hk : k = a.1
      · subst hk
        rw [lookup_eq_none_of_lt ha, lookup_eq_none_of_lt hb]
      · have := h k
        rwa [lookup_cons_eq, lookup_cons_eq, if_neg hk, if_neg hk] at this

/-- **Maps with the same look-ups are equal.** -/
@[ext] theorem ext {m n : Keyed α} (h : ∀ k, m.get? k = n.get? k) : m = n := by
  obtain ⟨l₁, h₁⟩ := m
  obtain ⟨l₂, h₂⟩ := n
  have : l₁ = l₂ := entries_ext h₁ h₂ h
  subst this
  rfl

end Keyed

abbrev NameSet := Keyed Unit

namespace NameSet

def ofNames (names : List String) : NameSet := .ofList (names.map fun name => (name, ()))

end NameSet

end Fieldbook
