import Mathlib.Data.List.Nodup
import Fieldbook.Proofs.Dependency.Rounds

/-!
# The schedule of a table

`Schedule.ofFields` numbers nothing and follows no chain, yet its order is that of numbers: a formula
stands where the longest chain of references below it puts it, and among formulas of one number
where its field does.  `Schedule.sorted_ofFields` says so by the trees of the formulas alone.
-/

namespace Fieldbook

/-- **A field reads another** if a name in the tree of its formula is the other's, and no field before
that one has the name. -/
def Field.Reads (fields : List Field) (f p : Field) : Prop :=
  ∃ expression tree, f.type = .formula expression ∧ Expr.parse expression = .ok tree ∧
    ∃ name ∈ tree.fieldNames, Field.withName? fields name = some p

theorem Field.mem_of_withName? {fields : List Field} {name : String} {f : Field}
    (h : withName? fields name = some f) : f ∈ fields := List.mem_of_find?_eq_some h

theorem Field.Reads.mem {fields : List Field} {f p : Field} (h : f.Reads fields p) :
    p ∈ fields := by
  obtain ⟨_, _, _, _, _, _, hname⟩ := h
  exact Field.mem_of_withName? hname

theorem Field.mem_of_withId? {fields : List Field} {id : String} {f : Field}
    (h : withId? fields id = some f) : f ∈ fields := List.mem_of_find?_eq_some h

theorem Field.id_of_withId? {fields : List Field} {id : String} {f : Field}
    (h : withId? fields id = some f) : f.id = id := by
  simpa using List.find?_some h

theorem Field.eq_of_id_eq {fields : List Field} (hids : (fields.map (·.id)).Nodup) {f p : Field}
    (hf : f ∈ fields) (hp : p ∈ fields) (h : f.id = p.id) : f = p :=
  List.inj_on_of_nodup_map hids hf hp h

theorem Field.withId?_of_mem {fields : List Field} (hids : (fields.map (·.id)).Nodup) {f : Field}
    (hf : f ∈ fields) : withId? fields f.id = some f :=
  find?_of_mem hids hf

theorem FieldType.expression?_eq_some {type : FieldType} {expression : String} :
    type.expression? = some expression ↔ type = .formula expression := by
  cases type <;> simp [expression?]

theorem Field.isFormula_iff {f : Field} :
    f.isFormula = true ↔ ∃ expression, f.type = .formula expression := by
  rw [isFormula, Option.isSome_iff_exists]
  simp only [FieldType.expression?_eq_some]

namespace DependencyGraph

theorem mem_referredFields {fields : List Field} {f p : Field} :
    p ∈ referredFields fields f ↔ f.Reads fields p := by
  unfold referredFields Formula.references
  constructor
  · intro h
    split at h
    · rename_i expression hexpression
      cases htree : Expr.parse expression with
      | error e =>
        rw [htree] at h
        cases h
      | ok tree =>
        rw [htree] at h
        obtain ⟨name, hname, hp⟩ := List.mem_filterMap.1 h
        exact ⟨expression, tree, FieldType.expression?_eq_some.1 hexpression, htree, name,
          List.mem_eraseDups.1 hname, hp⟩
    · cases h
  · rintro ⟨expression, tree, htype, htree, name, hname, hp⟩
    rw [FieldType.expression?_eq_some.2 htype]
    simp only [htree, Except.map]
    exact List.mem_filterMap.2 ⟨name, List.mem_eraseDups.2 hname, hp⟩

/-- **The edges of a table are its references.** -/
theorem mem_edges_ofFields {fields : List Field} {reader precedent : String} :
    (precedent, reader) ∈ (ofFields fields).edges
      ↔ ∃ f ∈ fields, ∃ p, f.id = reader ∧ p.id = precedent ∧ f.Reads fields p := by
  simp only [ofFields, List.mem_flatMap, List.mem_map, mem_referredFields, Prod.mk.injEq]
  constructor
  · rintro ⟨f, hf, p, hreads, hp, hid⟩
    exact ⟨f, hf, p, hid, hp, hreads⟩
  · rintro ⟨f, hf, p, hid, hp, hreads⟩
    exact ⟨f, hf, p, hreads, hp, hid⟩

end DependencyGraph

namespace Schedule

def formulaIds (fields : List Field) : List String := (fields.filter Field.isFormula).map (·.id)

def FormulaReads (fields : List Field) (reader formula : String) : Prop :=
  ∃ f ∈ fields, ∃ p ∈ fields, f.id = reader ∧ p.id = formula ∧ p.isFormula = true ∧
    f.Reads fields p

/-- **The longest chain of references** from one formula to the next, below the formula with the
id, has `n` of them. -/
def LongestChain (fields : List Field) (id : String) (n : Nat) : Prop :=
  IsGreatest {m | ∃ chain, List.IsChain (FormulaReads fields) (id :: chain) ∧ chain.length = m} n

def position (fields : List Field) (id : String) : Nat := (fields.map (·.id)).idxOf id

/-- **A schedule sorted by chains.** -/
structure Sorted (fields : List Field) (s : Schedule) : Prop where
  /-- Each formula is listed once, and nothing else. -/
  perm : (s.order ++ s.cyclic).Perm (formulaIds fields)
  nodup : (s.order ++ s.cyclic).Nodup
  /-- Those without a place in the order stand as their fields do. -/
  cyclic_sublist : s.cyclic.Sublist (formulaIds fields)
  /-- Those with a place in it have no endless chain below them. -/
  mem_order : ∀ id, id ∈ s.order ↔ id ∈ formulaIds fields ∧ ∃ n, LongestChain fields id n
  /-- Shorter chains come first, and of formulas with equal chains the one whose field does. -/
  sorted : s.order.Pairwise fun a b => ∃ m n, LongestChain fields a m ∧ LongestChain fields b n ∧
    (m < n ∨ m = n ∧ position fields a < position fields b)
  /-- What a formula reads stands strictly before it. -/
  before : ∀ front id back, s.order = front ++ id :: back →
    ∀ p, FormulaReads fields id p → p ∈ front
  /-- Only the set of references counts, in whatever order and however often they are met. -/
  edges : ∀ edges, (∀ e, e ∈ edges ↔ e ∈ s.graph.edges) →
    rounds ⟨edges⟩ (formulaIds fields) [] (formulaIds fields) = (s.order, s.cyclic)

variable {fields : List Field}

theorem formulaIds_sublist (fields : List Field) :
    (formulaIds fields).Sublist (fields.map (·.id)) := List.filter_sublist.map _

theorem mem_formulaIds {id : String} :
    id ∈ formulaIds fields ↔ ∃ f ∈ fields, f.isFormula = true ∧ f.id = id := by
  simp [formulaIds, and_assoc]

theorem mem_formulaIds_of_reads {f p : Field} (hf : f ∈ fields) (h : f.Reads fields p) :
    f.id ∈ formulaIds fields := by
  obtain ⟨expression, -, htype, -⟩ := h
  exact mem_formulaIds.2 ⟨f, hf, Field.isFormula_iff.2 ⟨expression, htype⟩, rfl⟩

theorem exists_formula_of_mem (hids : (fields.map (·.id)).Nodup) {f : Field} (hf : f ∈ fields)
    (h : f.id ∈ formulaIds fields) : ∃ expression, f.type = .formula expression := by
  obtain ⟨p, hp, hformula, hid⟩ := mem_formulaIds.1 h
  rw [← Field.eq_of_id_eq hids hp hf hid]
  exact Field.isFormula_iff.1 hformula

theorem readsFormula_eq (hids : (fields.map (·.id)).Nodup) :
    ReadsFormula (DependencyGraph.ofFields fields) (formulaIds fields) = FormulaReads fields := by
  funext reader formula
  refine propext ⟨?_, ?_⟩
  · rintro ⟨hformula, hedge⟩
    obtain ⟨q, hq, hqformula, hqid⟩ := mem_formulaIds.1 hformula
    obtain ⟨f, hf, p, hid, hpid, hreads⟩ := DependencyGraph.mem_edges_ofFields.1 hedge
    have hp : p ∈ fields := hreads.mem
    have hpq : p = q := Field.eq_of_id_eq hids hp hq (hpid.trans hqid.symm)
    exact ⟨f, hf, p, hp, hid, hpid, hpq ▸ hqformula, hreads⟩
  · rintro ⟨f, hf, p, hp, hid, hpid, hformula, hreads⟩
    exact ⟨mem_formulaIds.2 ⟨p, hp, hformula, hpid⟩,
      DependencyGraph.mem_edges_ofFields.2 ⟨f, hf, p, hid, hpid, hreads⟩⟩

theorem height_iff_longestChain (hids : (fields.map (·.id)).Nodup) {id : String} {n : Nat} :
    Height (DependencyGraph.ofFields fields) (formulaIds fields) id n
      ↔ LongestChain fields id n := by
  rw [height_iff_isGreatest, readsFormula_eq hids]
  rfl

theorem pairwise_idxOf {l : List String} (h : l.Nodup) :
    l.Pairwise fun a b => l.idxOf a < l.idxOf b := by
  refine List.pairwise_iff_getElem.2 fun i j hi hj hij => ?_
  rw [h.idxOf_getElem i hi, h.idxOf_getElem j hj]
  exact hij

theorem nodup_formulaIds (hids : (fields.map (·.id)).Nodup) : (formulaIds fields).Nodup :=
  (formulaIds_sublist fields).nodup hids

theorem cyclic_ofFields (hids : (fields.map (·.id)).Nodup) :
    (ofFields fields).cyclic
      = (formulaIds fields).filter fun id => !(ofFields fields).order.contains id :=
  rounds_snd (nodup_formulaIds hids)

theorem mem_order_ofFields (hids : (fields.map (·.id)).Nodup) {id : String} :
    id ∈ (ofFields fields).order ↔ id ∈ formulaIds fields ∧ ∃ n, LongestChain fields id n := by
  simp only [← height_iff_longestChain hids]
  exact mem_rounds_iff (nodup_formulaIds hids)

theorem nodup_all (hids : (fields.map (·.id)).Nodup) : (ofFields fields).all.Nodup := by
  rw [all, List.nodup_append, cyclic_ofFields hids]
  refine ⟨nodup_rounds (nodup_formulaIds hids), (nodup_formulaIds hids).filter _, ?_⟩
  rintro a ha b hb rfl
  simp [ha] at hb

/-! The schedule cut in two: what stands before the cut does not stand after it. -/

theorem notMem_back_of_mem_front (hids : (fields.map (·.id)).Nodup) {front back : List String}
    (hall : (ofFields fields).all = front ++ back) {id : String} (h : id ∈ front) : id ∉ back := by
  have hnodup := nodup_all hids
  rw [hall] at hnodup
  intro hback
  exact (List.nodup_append.1 hnodup).2.2 _ h _ hback rfl

theorem notMem_back (hids : (fields.map (·.id)).Nodup) {front back : List String} {id : String}
    (hall : (ofFields fields).all = front ++ id :: back) : id ∉ back := by
  rw [List.append_cons] at hall
  exact notMem_back_of_mem_front hids hall (List.mem_append_right _ (List.mem_singleton_self id))

theorem all_eq_of_order_eq {s : Schedule} {front back : List String} {id : String}
    (h : s.order = front ++ id :: back) : s.all = front ++ id :: (back ++ s.cyclic) := by
  rw [all, h, List.append_assoc, List.cons_append]

/-- **Every formula is scheduled**, and nothing else is. -/
theorem mem_all (hids : (fields.map (·.id)).Nodup) {id : String} :
    id ∈ (ofFields fields).all ↔ id ∈ formulaIds fields := by
  rw [all, List.mem_append, cyclic_ofFields hids]
  by_cases hid : id ∈ (ofFields fields).order
  · simp [hid, ((mem_order_ofFields hids).1 hid).1]
  · simp [hid]

/-- **What a formula reads is scheduled before it.** -/
theorem mem_front_of_reads (hids : (fields.map (·.id)).Nodup) {front back : List String}
    {id p : String} (hsplit : (ofFields fields).order = front ++ id :: back)
    (hreads : FormulaReads fields id p) : p ∈ front := by
  rw [← readsFormula_eq hids] at hreads
  exact mem_before_of_reads (nodup_formulaIds hids) hsplit hreads

/-- **The schedule of a table is sorted by chains.** -/
theorem sorted_ofFields (fields : List Field) (hids : (fields.map (·.id)).Nodup) :
    Sorted fields (ofFields fields) where
  perm := (List.perm_ext_iff_of_nodup (nodup_all hids) (nodup_formulaIds hids)).2
    fun _ => mem_all hids
  nodup := nodup_all hids
  cyclic_sublist := by
    rw [cyclic_ofFields hids]
    exact List.filter_sublist
  mem_order _ := mem_order_ofFields hids
  sorted := by
    have hearlier := (pairwise_idxOf hids).sublist (formulaIds_sublist fields)
    refine (sorted_rounds (nodup_formulaIds hids) hearlier).imp ?_
    rintro a b ⟨m, n, ha, hb, hmn⟩
    exact ⟨m, n, (height_iff_longestChain hids).1 ha, (height_iff_longestChain hids).1 hb, hmn⟩
  before _ _ _ hsplit _ hreads := mem_front_of_reads hids hsplit hreads
  edges _ hedges := rounds_congr hedges

/-- Of three formulas, one reads the one after it and the last reads itself. -/
theorem sorted_ofFields_chain_and_loop :
    let fields : List Field := [⟨"tax", "Tax", .formula "{Total} * 2"⟩,
      ⟨"total", "Total", .formula "{Price}"⟩, ⟨"price", "Price", .number⟩,
      ⟨"loop", "Loop", .formula "{Loop}"⟩]
    (fields.map (·.id)).Nodup ∧ Sorted fields (ofFields fields) :=
  ⟨by decide, sorted_ofFields _ (by decide)⟩

example : (ofFields [⟨"tax", "Tax", .formula "{Total} * 2"⟩, ⟨"total", "Total", .formula "{Price}"⟩,
    ⟨"price", "Price", .number⟩, ⟨"loop", "Loop", .formula "{Loop}"⟩]).order = ["total", "tax"] := by
  decide +kernel

end Schedule

end Fieldbook
