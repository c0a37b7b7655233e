import Fieldbook.Aggregation
import Fieldbook.Proofs.Number.Order

/-!
# The smallest and the largest

A list is reduced to its smallest number by keeping, of two numbers, the one that is below the other.  What
is left of a list in this way is first in it: an item that no item comes before (`Compares.comesFirst_foldl`).
It takes numbers that can be compared with each other, and whatever a cell holds counts as one of these; not
a number, which would give way to any other, is never among them (`Compares.withLast`).

A first item of two lists together is first among the first items of both, and a list in another order has
the same first items.  So the smallest number of a list may be found part by part and in any order, and
likewise, with the order turned around, the largest (`Aggregation.extremes`).
-/

namespace Fieldbook

section Choice

variable {α : Type} {p : α → Prop} {le lt : α → α → Bool}

/-- **A comparison of items with a property**: one of two comes strictly before the other, or the other
does not come behind it. -/
structure Compares (p : α → Prop) (le lt : α → α → Bool) : Prop where
  refl : ∀ {x}, p x → le x x = true
  trans : ∀ {x y z}, le x y = true → le y z = true → le x z = true
  le_of_lt : ∀ {x y}, p x → p y → lt x y = true → le x y = true
  le_of_not_lt : ∀ {x y}, p x → p y → ¬ lt x y = true → le y x = true

/-- **An item that no item of a list comes before.** -/
structure ComesFirst (le : α → α → Bool) (items : List α) (a : α) : Prop where
  mem : a ∈ items
  le_of_mem : ∀ b ∈ items, le a b = true

/-- The item that comes strictly before the other; the second if neither does. -/
def keepFirst (lt : α → α → Bool) (x y : α) : α := if lt x y then x else y

theorem keepFirst_eq (lt : α → α → Bool) (x y : α) :
    keepFirst lt x y = x ∨ keepFirst lt x y = y := by
  unfold keepFirst
  split
  · exact .inl rfl
  · exact .inr rfl

theorem reduce?_eq_none_iff (op : α → α → α) (items : List α) :
    reduce? op items = none ↔ items = [] := by
  cases items <;> simp [reduce?]

namespace Compares

theorem turned (h : Compares p le lt) : Compares p (fun x y => le y x) (fun x y => lt y x) where
  refl := h.refl
  trans hxy hyz := h.trans hyz hxy
  le_of_lt hx hy := h.le_of_lt hy hx
  le_of_not_lt hx hy := h.le_of_not_lt hy hx

/-- Items that come last whatever they are compared with, none of which has the property. -/
theorem withLast (h : Compares p le lt) {last : α → Bool} (hlast : ∀ {x}, p x → last x = false) :
    Compares p le fun x y => last y || lt x y where
  refl := h.refl
  trans := h.trans
  le_of_lt hx hy hlt := by
    rw [hlast hy, Bool.false_or] at hlt
    exact h.le_of_lt hx hy hlt
  le_of_not_lt hx hy hlt := by
    rw [hlast hy, Bool.false_or] at hlt
    exact h.le_of_not_lt hx hy hlt

theorem keepFirst_le (h : Compares p le lt) {x y : α} (hx : p x) (hy : p y) :
    le (keepFirst lt x y) x = true ∧ le (keepFirst lt x y) y = true := by
  unfold keepFirst
  split
  · rename_i hlt
    exact ⟨h.refl hx, h.le_of_lt hx hy hlt⟩
  · rename_i hlt
    exact ⟨h.le_of_not_lt hx hy hlt, h.refl hy⟩

/-- **What is left of a list is first in it.** -/
theorem comesFirst_foldl (h : Compares p le lt) {a : α} {items : List α} (hp : ∀ x ∈ a :: items, p x) :
    ComesFirst le (a :: items) (items.foldl (keepFirst lt) a) := by
  induction items generalizing a with
  | nil =>
    refine ⟨List.mem_singleton_self a, fun b hb => ?_⟩
    rw [List.mem_singleton.1 hb]
    exact h.refl (hp a (List.mem_singleton_self a))
  | cons b items ih =>
    obtain ⟨ha, hp⟩ := List.forall_mem_cons.1 hp
    obtain ⟨hb, hp⟩ := List.forall_mem_cons.1 hp
    have hkept : p (keepFirst lt a b) := by
      rcases keepFirst_eq lt a b with heq | heq
      · rwa [heq]
      · rwa [heq]
    obtain ⟨hmem, hle⟩ := ih (List.forall_mem_cons.2 ⟨hkept, hp⟩)
    obtain ⟨hlea, hleb⟩ := h.keepFirst_le ha hb
    have hfirst := hle _ List.mem_cons_self
    rw [List.foldl_cons]
    refine ⟨?_, fun x hx => ?_⟩
    · rcases List.mem_cons.1 hmem with heq | hmem
      · rw [heq]
        rcases keepFirst_eq lt a b with heq | heq
        · rw [heq]
          exact List.mem_cons_self
        · rw [heq]
          exact List.mem_cons_of_mem a List.mem_cons_self
      · exact List.mem_cons_of_mem a (List.mem_cons_of_mem b hmem)
    · rcases List.mem_cons.1 hx with rfl | hx
      · exact h.trans hfirst hlea
      · rcases List.mem_cons.1 hx with rfl | hx
        · exact h.trans hfirst hleb
        · exact hle x (List.mem_cons_of_mem _ hx)

theorem exists_reduce? (h : Compares p le lt) {items : List α} (hne : items ≠ [])
    (hp : ∀ x ∈ items, p x) :
    ∃ a, reduce? (keepFirst lt) items = some a ∧ ComesFirst le items a := by
  cases items with
  | nil => exact absurd rfl hne
  | cons a items => exact ⟨_, rfl, h.comesFirst_foldl hp⟩

end Compares

namespace ComesFirst

variable {items others : List α} {a b c : α}

/-- **A first item of two lists together** does not come behind the first items of the two, and one of
these does not come behind it. -/
theorem append (ha : ComesFirst le items a) (hb : ComesFirst le others b)
    (hc : ComesFirst le (items ++ others) c) :
    le c a = true ∧ le c b = true ∧ (le a c = true ∨ le b c = true) := by
  refine ⟨hc.le_of_mem a (List.mem_append_left _ ha.mem),
    hc.le_of_mem b (List.mem_append_right _ hb.mem), ?_⟩
  rcases List.mem_append.1 hc.mem with hmem | hmem
  · exact .inl (ha.le_of_mem c hmem)
  · exact .inr (hb.le_of_mem c hmem)

theorem perm (ha : ComesFirst le items a) (hb : ComesFirst le others b) (hperm : items.Perm others) :
    le a b = true ∧ le b a = true :=
  ⟨ha.le_of_mem b (hperm.mem_iff.2 hb.mem), hb.le_of_mem a (hperm.mem_iff.1 ha.mem)⟩

end ComesFirst

end Choice

theorem Number.compares : Compares (fun x => x.isFinite = true) Number.lessEq Number.less where
  refl := lessEq_refl
  trans := lessEq_trans
  le_of_lt _ _ := lessEq_of_less
  le_of_not_lt := lessEq_of_not_less

namespace Aggregation

/-- **An aggregation that finds what is first in an order of numbers.** -/
structure FindsFirst (a : Aggregation) (le : Number → Number → Bool) : Prop where
  /-- Nothing comes of no cells, and only of these. -/
  apply_eq_null_iff : ∀ cells, a.apply cells = .null ↔ cells = []
  /-- Of others comes what one of them counts as, and what none of them comes before. -/
  exists_apply_eq : ∀ cells, cells ≠ [] → ∃ c ∈ cells,
    a.apply cells = .number c.toNumber ∧ ∀ d ∈ cells, le c.toNumber d.toNumber = true
  /-- Two lists together come to the first of what they come to. -/
  apply_append : ∀ cells others, cells ≠ [] → others ≠ [] → ∃ x y n,
    a.apply cells = .number x ∧ a.apply others = .number y ∧ a.apply (cells ++ others) = .number n ∧
      le n x = true ∧ le n y = true ∧ (n.equal x = true ∨ n.equal y = true)
  /-- In any order cells come to equal values. -/
  apply_perm : ∀ cells others, cells ≠ [] → cells.Perm others → ∃ x y,
    a.apply cells = .number x ∧ a.apply others = .number y ∧ x.equal y = true

theorem numberCell_eq_null_iff (n : Option Number) : numberCell n = .null ↔ n = none := by
  cases n <;> simp [numberCell]

section

variable {a : Aggregation} {le lt : Number → Number → Bool}
  (happly : ∀ cells, a.apply cells = numberCell (reduce? (keepFirst lt) (cells.map Cell.toNumber)))
  (hcompares : Compares (fun x => x.isFinite = true) le lt)

include happly hcompares

theorem exists_comesFirst {cells : List Cell} (hne : cells ≠ []) :
    ∃ n, a.apply cells = .number n ∧ ComesFirst le (cells.map Cell.toNumber) n := by
  have hne' : cells.map Cell.toNumber ≠ [] := fun hnil => hne (List.map_eq_nil_iff.1 hnil)
  have hfinite : ∀ x ∈ cells.map Cell.toNumber, x.isFinite = true := by
    intro x hx
    obtain ⟨c, -, rfl⟩ := List.mem_map.1 hx
    exact c.isFinite_toNumber
  obtain ⟨n, hreduce, hfirst⟩ := hcompares.exists_reduce? hne' hfinite
  refine ⟨n, ?_, hfirst⟩
  rw [happly, hreduce]
  rfl

theorem findsFirst_of_compares
    (hequal : ∀ {x y}, le x y = true → le y x = true → x.equal y = true) : FindsFirst a le where
  apply_eq_null_iff cells := by
    rw [happly, numberCell_eq_null_iff, reduce?_eq_none_iff, List.map_eq_nil_iff]
  exists_apply_eq cells hne := by
    obtain ⟨n, hn, hmem, hle⟩ := exists_comesFirst happly hcompares hne
    obtain ⟨c, hc, rfl⟩ := List.mem_map.1 hmem
    exact ⟨c, hc, hn, fun d hd => hle _ (List.mem_map_of_mem hd)⟩
  apply_append cells others hne hne' := by
    obtain ⟨x, hx, hfirst⟩ := exists_comesFirst happly hcompares hne
    obtain ⟨y, hy, hfirst'⟩ := exists_comesFirst happly hcompares hne'
    obtain ⟨n, hn, hboth⟩ := exists_comesFirst happly hcompares
      (List.append_ne_nil_of_left_ne_nil hne others)
    rw [List.map_append] at hboth
    obtain ⟨hnx, hny, hone⟩ := hfirst.append hfirst' hboth
    exact ⟨x, y, n, hx, hy, hn, hnx, hny, hone.imp (hequal hnx) (hequal hny)⟩
  apply_perm cells others hne hperm := by
    have hne' : others ≠ [] := fun hnil => hne (List.perm_nil.1 (hnil ▸ hperm))
    obtain ⟨x, hx, hfirst⟩ := exists_comesFirst happly hcompares hne
    obtain ⟨y, hy, hfirst'⟩ := exists_comesFirst happly hcompares hne'
    obtain ⟨hxy, hyx⟩ := hfirst.perm hfirst' (hperm.map Cell.toNumber)
    exact ⟨x, y, hx, hy, hequal hxy hyx⟩

end

/-- **The smallest and the largest of the numbers that cells count as.** -/
theorem extremes : FindsFirst min Number.lessEq ∧ FindsFirst max fun x y => y.lessEq x :=
  ⟨findsFirst_of_compares (fun _ => rfl) (Number.compares.withLast Number.isNaN_of_isFinite)
      Number.equal_of_lessEq,
    findsFirst_of_compares (fun _ => rfl) (Number.compares.turned.withLast Number.isNaN_of_isFinite)
      fun hxy hyx => Number.equal_of_lessEq hyx hxy⟩

end Aggregation

end Fieldbook
