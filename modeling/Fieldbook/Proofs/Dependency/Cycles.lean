import Fieldbook.Proofs.Dependency.Order

/-!
# Cycles

The rounds know nothing of cycles: they stop when no formula is ready, and the formulas that still wait
are listed as cyclic.  `DependencyGraph.isCircular` knows nothing of rounds: it looks for a path from a
field back to itself.  `Schedule.cycles_ofFields` joins the two.

A formula has a height unless it leads to a cycle (`exists_height_iff`).  One way, heights fall along
references, and around a cycle they cannot.  The other way, a formula without a height has chains of
references below it of every length, and a chain longer than there are formulas meets one of them
twice (`exists_cycle_of_chain`).
-/

namespace Fieldbook.Schedule

section Graph

variable {g : DependencyGraph} {formulas : List String}

/-! ### Chains that come back -/

theorem mem_of_transGen {id q : String}
    (h : Relation.TransGen (ReadsFormula g formulas) id q) : q ∈ formulas := by
  obtain ⟨p, -, hread⟩ := Relation.TransGen.tail'_iff.1 h
  exact hread.1

/-- **A chain longer than there are formulas comes back** to one that it has met. -/
theorem exists_cycle_of_chain {id : String} {chain : List String}
    (hchain : List.IsChain (ReadsFormula g formulas) (id :: chain))
    (hlength : formulas.length < chain.length) :
    ∃ q, Relation.TransGen (ReadsFormula g formulas) id q ∧
      Relation.TransGen (ReadsFormula g formulas) q q := by
  have hpaths : (id :: chain).Pairwise (Relation.TransGen (ReadsFormula g formulas)) :=
    (hchain.imp fun _ _ h => Relation.TransGen.single h).pairwise
  obtain ⟨hfirst, hrest⟩ := List.pairwise_cons.1 hpaths
  have hsub : chain ⊆ formulas := fun q hq => mem_of_transGen (hfirst q hq)
  have htwice : ¬ chain.Nodup := by
    intro hnodup
    have := (List.subperm_of_subset hnodup hsub).length_le
    omega
  rw [List.nodup_iff_sublist] at htwice
  push Not at htwice
  obtain ⟨q, hq⟩ := htwice
  refine ⟨q, hfirst q (hq.subset List.mem_cons_self), ?_⟩
  exact (List.pairwise_pair.1 (hrest.sublist hq))

/-! ### Heights fall along references -/

theorem Height.exists_lt_of_transGen {id q : String} {m : Nat} (hid : Height g formulas id m)
    (h : Relation.TransGen (ReadsFormula g formulas) id q) :
    ∃ n, n < m ∧ Height g formulas q n := by
  have hstep : ∀ {a p : String} {i : Nat}, Height g formulas a i → ReadsFormula g formulas a p →
      ∃ j, j < i ∧ Height g formulas p j := by
    intro a p i ha hread
    obtain ⟨j, hj⟩ := exists_height_of_within (ha.1 p hread)
    exact ⟨j, ha.lt_of_reads hj hread, hj⟩
  induction h with
  | single hread => exact hstep hid hread
  | tail _ hread ih =>
    obtain ⟨i, him, hi⟩ := ih
    obtain ⟨j, hji, hj⟩ := hstep hi hread
    exact ⟨j, Nat.lt_trans hji him, hj⟩

/-- **A formula has a height unless it leads to a cycle.** -/
theorem exists_height_iff {id : String} :
    (∃ n, Height g formulas id n) ↔
      ∀ q, Relation.ReflTransGen (ReadsFormula g formulas) id q →
        ¬ Relation.TransGen (ReadsFormula g formulas) q q := by
  constructor
  · rintro ⟨m, hm⟩ q hpath hcycle
    have hq : ∃ n, Height g formulas q n := by
      rcases Relation.reflTransGen_iff_eq_or_transGen.1 hpath with rfl | hpath
      · exact ⟨m, hm⟩
      · obtain ⟨n, -, hn⟩ := hm.exists_lt_of_transGen hpath
        exact ⟨n, hn⟩
    obtain ⟨n, hn⟩ := hq
    obtain ⟨k, hkn, hk⟩ := hn.exists_lt_of_transGen hcycle
    exact absurd (hk.unique hn) (by omega)
  · intro hnone
    by_contra hheight
    have hwithin : ¬ Within g formulas (formulas.length + 1) id :=
      fun h => hheight (exists_height_of_within h)
    rw [within_iff_chain] at hwithin
    push Not at hwithin
    obtain ⟨chain, hchain, hlength⟩ := hwithin
    obtain ⟨q, hpath, hcycle⟩ := exists_cycle_of_chain hchain (by omega)
    exact hnone q hpath.to_reflTransGen hcycle

/-! ### Paths of edges and paths of references

Where only formulas read, a path of edges to a field passes through formulas alone. -/

variable (hreaders : ∀ p d, (p, d) ∈ g.edges → d ∈ formulas)

include hreaders

theorem mem_of_path {q d : String} (h : Relation.TransGen (fun a b => (a, b) ∈ g.edges) q d) :
    d ∈ formulas := by
  obtain ⟨p, -, hedge⟩ := Relation.TransGen.tail'_iff.1 h
  exact hreaders p d hedge

/-- **References lead down where edges lead up.** -/
theorem transGen_readsFormula_iff {id q : String} (hq : q ∈ formulas) :
    Relation.TransGen (ReadsFormula g formulas) id q
      ↔ Relation.TransGen (fun a b => (a, b) ∈ g.edges) q id := by
  constructor
  · intro h
    rw [← Relation.transGen_swap]
    exact Relation.TransGen.mono (fun _ _ hread => hread.2) _ _ h
  · intro h
    induction h with
    | single hedge => exact .single ⟨hq, hedge⟩
    | tail hpath hedge ih => exact .head ⟨mem_of_path hreaders hpath, hedge⟩ ih

theorem isCircular_iff_transGen {q : String} :
    g.isCircular q = true ↔ Relation.TransGen (ReadsFormula g formulas) q q := by
  rw [DependencyGraph.isCircular_iff]
  constructor
  · exact fun h => (transGen_readsFormula_iff hreaders (mem_of_path hreaders h)).2 h
  · exact fun h => (transGen_readsFormula_iff hreaders (mem_of_transGen h)).1 h

end Graph

/-! ### The schedule of a table -/

variable {fields : List Field}

/-- **The formulas without a place in the order are those that lead to a cycle.** -/
structure Cycles (fields : List Field) (s : Schedule) : Prop where
  /-- A formula is listed as cyclic if it is circular or reads, directly or through others, a formula
  that is. -/
  reads : ∀ id ∈ formulaIds fields, (id ∈ s.cyclic ↔ s.graph.isCircular id = true ∨
    ∃ q ∈ formulaIds fields, s.graph.isCircular q = true ∧
      Relation.TransGen (FormulaReads fields) id q)
  /-- The same, found from the cycles: it is circular or among all dependents of a field that is. -/
  dependents : ∀ id ∈ formulaIds fields, (id ∈ s.cyclic ↔ s.graph.isCircular id = true ∨
    ∃ q, s.graph.isCircular q = true ∧ (s.graph.allDependents q).contains id = true)
  /-- Nothing with a place in the order is circular. -/
  order : ∀ id ∈ s.order, s.graph.isCircular id = false

theorem mem_formulaIds_of_edge (p d : String)
    (h : (p, d) ∈ (DependencyGraph.ofFields fields).edges) : d ∈ formulaIds fields := by
  obtain ⟨f, hf, _, rfl, -, hreads⟩ := DependencyGraph.mem_edges_ofFields.1 h
  exact mem_formulaIds_of_reads hf hreads

theorem mem_formulaIds_of_isCircular {q : String}
    (h : (ofFields fields).graph.isCircular q = true) : q ∈ formulaIds fields :=
  mem_of_path mem_formulaIds_of_edge (DependencyGraph.isCircular_iff.1 h)

section

variable (hids : (fields.map (·.id)).Nodup)

include hids

theorem transGen_formulaReads_iff {id q : String} (hq : q ∈ formulaIds fields) :
    Relation.TransGen (FormulaReads fields) id q
      ↔ ((ofFields fields).graph.allDependents q).contains id = true := by
  rw [← readsFormula_eq hids, DependencyGraph.contains_allDependents]
  exact transGen_readsFormula_iff mem_formulaIds_of_edge hq

theorem isCircular_ofFields_iff {q : String} :
    (ofFields fields).graph.isCircular q = true ↔ Relation.TransGen (FormulaReads fields) q q := by
  rw [← readsFormula_eq hids]
  exact isCircular_iff_transGen mem_formulaIds_of_edge

theorem mem_order_iff_notMem_cyclic {id : String} (hid : id ∈ formulaIds fields) :
    id ∈ (ofFields fields).order ↔ id ∉ (ofFields fields).cyclic := by
  rw [cyclic_ofFields hids, List.mem_filter]
  simp [hid]

/-- **A formula is listed as cyclic if references lead from it to a cycle.** -/
theorem mem_cyclic_iff {id : String} (hid : id ∈ formulaIds fields) :
    id ∈ (ofFields fields).cyclic ↔
      ∃ q, Relation.ReflTransGen (FormulaReads fields) id q ∧
        (ofFields fields).graph.isCircular q = true := by
  have horder : id ∈ (ofFields fields).order ↔
      ∃ n, Height (DependencyGraph.ofFields fields) (formulaIds fields) id n :=
    (mem_rounds_iff (nodup_formulaIds hids)).trans (and_iff_right hid)
  rw [← not_iff_not, ← mem_order_iff_notMem_cyclic hids hid, horder, exists_height_iff,
    readsFormula_eq hids]
  simp only [isCircular_ofFields_iff hids, not_exists, not_and]

end

/-- **The schedule of a table lists the formulas that lead to a cycle.** -/
theorem cycles_ofFields (fields : List Field) (hids : (fields.map (·.id)).Nodup) :
    Cycles fields (ofFields fields) where
  reads id hid := by
    rw [mem_cyclic_iff hids hid]
    constructor
    · rintro ⟨q, hpath, hcircular⟩
      rcases Relation.reflTransGen_iff_eq_or_transGen.1 hpath with rfl | hpath
      · exact .inl hcircular
      · exact .inr ⟨q, mem_formulaIds_of_isCircular hcircular, hcircular, hpath⟩
    · rintro (hcircular | ⟨q, -, hcircular, hpath⟩)
      · exact ⟨id, .refl, hcircular⟩
      · exact ⟨q, hpath.to_reflTransGen, hcircular⟩
  dependents id hid := by
    rw [mem_cyclic_iff hids hid]
    constructor
    · rintro ⟨q, hpath, hcircular⟩
      have hq := mem_formulaIds_of_isCircular hcircular
      rcases Relation.reflTransGen_iff_eq_or_transGen.1 hpath with rfl | hpath
      · exact .inl hcircular
      · exact .inr ⟨q, hcircular, (transGen_formulaReads_iff hids hq).1 hpath⟩
    · rintro (hcircular | ⟨q, hcircular, hdependent⟩)
      · exact ⟨id, .refl, hcircular⟩
      · have hq := mem_formulaIds_of_isCircular hcircular
        exact ⟨q, ((transGen_formulaReads_iff hids hq).2 hdependent).to_reflTransGen, hcircular⟩
  order id horder := by
    have hid : id ∈ formulaIds fields := ((mem_order_ofFields hids).1 horder).1
    rw [← Bool.not_eq_true]
    intro hcircular
    refine (mem_order_iff_notMem_cyclic hids hid).1 horder ?_
    exact (mem_cyclic_iff hids hid).2 ⟨id, .refl, hcircular⟩

/-- A formula that reads itself, two that read each other, and two that read one of those; `tax` reads
none of them. -/
theorem cycles_ofFields_loop_pair_and_tails :
    let fields : List Field := [⟨"tail", "Tail", .formula "{Loop} + 1"⟩,
      ⟨"loop", "Loop", .formula "{Loop}"⟩, ⟨"ping", "Ping", .formula "{Pong} * {Price}"⟩,
      ⟨"pong", "Pong", .formula "{Ping}"⟩, ⟨"price", "Price", .number⟩,
      ⟨"echo", "Echo", .formula "CONCAT({Tail}, {Pong})"⟩, ⟨"tax", "Tax", .formula "{Price} * 2"⟩]
    (fields.map (·.id)).Nodup ∧ Cycles fields (ofFields fields) ∧
      (ofFields fields).cyclic = ["tail", "loop", "ping", "pong", "echo"] :=
  ⟨by decide, cycles_ofFields _ (by decide), by decide +kernel⟩

end Fieldbook.Schedule
