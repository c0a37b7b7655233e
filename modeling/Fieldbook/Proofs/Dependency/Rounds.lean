import Mathlib.Data.List.Perm.Subperm
import Mathlib.Order.Bounds.Defs
import Fieldbook.Proofs.Dependency.Edges

/-!
# Rounds

`Schedule.rounds` takes formulas in rounds.  `Within g formulas n id` says that a chain of references
from one formula to the next, starting below `id`, has fewer than `n` of them; it follows the rounds,
and `within_iff_chain` says it by chains.  `Progress` is what holds after `n` rounds: the formulas
taken are those within `n`, sorted by height, and the others wait in their order.
`progress_rounds` follows it to the end, where nothing that waits is within any number.
-/

namespace Fieldbook.Schedule

variable {g : DependencyGraph} {formulas : List String}

/-! ### Chains of references -/

def ReadsFormula (g : DependencyGraph) (formulas : List String) (reader formula : String) : Prop :=
  formula ∈ formulas ∧ (formula, reader) ∈ g.edges

/-- Every chain of references below the formula has fewer than `n`. -/
def Within (g : DependencyGraph) (formulas : List String) : Nat → String → Prop
  | 0, _ => False
  | n + 1, id => ∀ p, ReadsFormula g formulas id p → Within g formulas n p

theorem within_iff_chain {n : Nat} {id : String} :
    Within g formulas n id
      ↔ ∀ chain, List.IsChain (ReadsFormula g formulas) (id :: chain) → chain.length < n := by
  induction n generalizing id with
  | zero =>
    constructor
    · exact fun h => h.elim
    · intro h
      exact absurd (h [] (.singleton id)) (Nat.not_lt_zero _)
  | succ n ih =>
    constructor
    · intro h chain hchain
      cases chain with
      | nil => exact Nat.succ_pos n
      | cons p rest =>
        obtain ⟨hread, hrest⟩ := List.isChain_cons_cons.1 hchain
        exact Nat.succ_lt_succ (ih.1 (h p hread) rest hrest)
    · intro h p hread
      refine ih.2 fun rest hrest => ?_
      exact Nat.lt_of_succ_lt_succ (h (p :: rest) (List.isChain_cons_cons.2 ⟨hread, hrest⟩))

theorem Within.mono {m n : Nat} (hmn : m ≤ n) {id : String} (h : Within g formulas m id) :
    Within g formulas n id :=
  within_iff_chain.2 fun chain hchain => Nat.lt_of_lt_of_le (within_iff_chain.1 h chain hchain) hmn

/-- **The height of a formula**: the number of references in a longest chain below it. -/
def Height (g : DependencyGraph) (formulas : List String) (id : String) (n : Nat) : Prop :=
  Within g formulas (n + 1) id ∧ ¬ Within g formulas n id

theorem Height.unique {id : String} {m n : Nat} (hm : Height g formulas id m)
    (hn : Height g formulas id n) : m = n := by
  rcases Nat.lt_trichotomy m n with h | h | h
  · exact absurd (hm.1.mono h) hn.2
  · exact h
  · exact absurd (hn.1.mono h) hm.2

theorem exists_height_of_within {id : String} {n : Nat} (h : Within g formulas n id) :
    ∃ m, Height g formulas id m := by
  induction n with
  | zero => exact h.elim
  | succ n ih =>
    by_cases hn : Within g formulas n id
    · exact ih hn
    · exact ⟨n, h, hn⟩

theorem height_iff_isGreatest {id : String} {n : Nat} :
    Height g formulas id n ↔ IsGreatest
      {m | ∃ chain, List.IsChain (ReadsFormula g formulas) (id :: chain) ∧ chain.length = m} n := by
  unfold Height
  rw [within_iff_chain, within_iff_chain]
  constructor
  · rintro ⟨hle, hnot⟩
    push Not at hnot
    obtain ⟨chain, hchain, hge⟩ := hnot
    refine ⟨⟨chain, hchain, ?_⟩, ?_⟩
    · have := hle chain hchain
      omega
    · rintro m ⟨other, hother, rfl⟩
      exact Nat.le_of_lt_succ (hle other hother)
  · rintro ⟨⟨chain, hchain, hlength⟩, hbound⟩
    refine ⟨fun other hother => Nat.lt_succ_of_le (hbound ⟨other, hother, rfl⟩), fun h => ?_⟩
    exact absurd (h chain hchain) (by omega)

theorem Height.lt_of_reads {id p : String} {m n : Nat} (hid : Height g formulas id m)
    (hp : Height g formulas p n) (h : ReadsFormula g formulas id p) : n < m := by
  by_contra hle
  exact hp.2 ((hid.1 p h).mono (Nat.le_of_not_lt hle))

/-! ### One round -/

/-- A waiting formula is ready when everything that it reads has been taken.  The two counts compare
the formulas that it reads with those of them that have been taken. -/
theorem isReady_iff {order : List String} {id : String} (hnodup : order.Nodup)
    (hsub : order ⊆ formulas) (hid : id ∈ formulas) (hwait : id ∉ order) :
    isReady g formulas order id = true ↔ ∀ p, ReadsFormula g formulas id p → p ∈ order := by
  let read := (g.precedents id).keys.filter fun p => formulas.contains p && p != id
  let taken := order.filter fun p => (g.dependents p).contains id
  have hread : ∀ p, p ∈ read ↔ ReadsFormula g formulas id p ∧ p ≠ id := by
    intro p
    simp [read, ReadsFormula, Keyed.mem_keys_iff, and_comm, and_assoc]
  have htaken : ∀ p, p ∈ taken ↔ p ∈ order ∧ (p, id) ∈ g.edges := by
    intro p
    simp [taken]
  have hcounts : isReady g formulas order id = true
      ↔ (id, id) ∉ g.edges ∧ read.length ≤ taken.length := by
    simp [isReady, formulaPrecedents, settledPrecedents, read, taken,
      List.countP_eq_length_filter, ← DependencyGraph.contains_precedents]
  rw [hcounts]
  constructor
  · rintro ⟨hself, hlength⟩ p hp
    -- What was taken is part of what is read, and no fewer: the two are the same.
    have hsubset : taken ⊆ read := by
      intro q hq
      obtain ⟨hq, hedge⟩ := (htaken q).1 hq
      exact (hread q).2 ⟨⟨hsub hq, hedge⟩, fun h => hwait (h ▸ hq)⟩
    have hperm : taken.Perm read :=
      (List.subperm_of_subset (hnodup.filter _) hsubset).perm_of_length_le hlength
    have hne : p ≠ id := by
      rintro rfl
      exact hself hp.2
    exact ((htaken p).1 (hperm.mem_iff.2 ((hread p).2 ⟨hp, hne⟩))).1
  · intro h
    refine ⟨fun hself => hwait (h id ⟨hid, hself⟩), ?_⟩
    refine (List.subperm_of_subset ((Keyed.nodup_keys _).filter _) ?_).length_le
    intro p hp
    have hp := ((hread p).1 hp).1
    exact (htaken p).2 ⟨h p hp, hp.2⟩

/-- The order in which formulas are taken: the lower first, and those of one height by `earlier`. -/
def Sooner (g : DependencyGraph) (formulas : List String) (earlier : String → String → Prop)
    (a b : String) : Prop :=
  ∃ m n, Height g formulas a m ∧ Height g formulas b n ∧ (m < n ∨ m = n ∧ earlier a b)

/-- **What holds after `n` rounds.** -/
structure Progress (g : DependencyGraph) (formulas : List String)
    (earlier : String → String → Prop) (order waiting : List String) (n : Nat) : Prop where
  mem_order : ∀ id, id ∈ order ↔ id ∈ formulas ∧ Within g formulas n id
  nodup : order.Nodup
  waiting_eq : waiting = formulas.filter fun id => !order.contains id
  sorted : order.Pairwise (Sooner g formulas earlier)

variable {earlier : String → String → Prop} {order waiting : List String} {n : Nat}

theorem Progress.start : Progress g formulas earlier [] formulas 0 where
  mem_order id := by simp [Within]
  nodup := .nil
  waiting_eq := by simp
  sorted := .nil

theorem Progress.mem_waiting (h : Progress g formulas earlier order waiting n) {id : String} :
    id ∈ waiting ↔ id ∈ formulas ∧ id ∉ order := by
  rw [h.waiting_eq]
  simp

/-- Those taken next are those of height `n`. -/
theorem Progress.mem_ready (h : Progress g formulas earlier order waiting n) {id : String} :
    id ∈ ready g formulas order waiting ↔ id ∈ formulas ∧ Height g formulas id n := by
  have hsub : order ⊆ formulas := fun id hid => ((h.mem_order id).1 hid).1
  rw [ready, List.mem_filter, h.mem_waiting]
  constructor
  · rintro ⟨⟨hid, hwait⟩, hready⟩
    have hall := (isReady_iff h.nodup hsub hid hwait).1 hready
    refine ⟨hid, fun p hp => ((h.mem_order p).1 (hall p hp)).2, fun hn => ?_⟩
    exact hwait ((h.mem_order id).2 ⟨hid, hn⟩)
  · rintro ⟨hid, hwithin, hnot⟩
    have hwait : id ∉ order := fun hmem => hnot ((h.mem_order id).1 hmem).2
    refine ⟨⟨hid, hwait⟩, (isReady_iff h.nodup hsub hid hwait).2 fun p hp => ?_⟩
    exact (h.mem_order p).2 ⟨hp.1, hwithin p hp⟩

theorem Progress.round (hformulas : formulas.Nodup) (hearlier : formulas.Pairwise earlier)
    (h : Progress g formulas earlier order waiting n) :
    Progress g formulas earlier (order ++ ready g formulas order waiting)
      (notReady g formulas order waiting) (n + 1) := by
  have hheight : ∀ id ∈ order, ∃ m, m < n ∧ Height g formulas id m := by
    intro id hid
    obtain ⟨m, hm⟩ := exists_height_of_within ((h.mem_order id).1 hid).2
    refine ⟨m, ?_, hm⟩
    by_contra hle
    exact hm.2 (((h.mem_order id).1 hid).2.mono (Nat.le_of_not_lt hle))
  have hsublist : (ready g formulas order waiting).Sublist formulas := by
    rw [ready, h.waiting_eq]
    exact List.filter_sublist.trans List.filter_sublist
  refine ⟨fun id => ?_, ?_, ?_, ?_⟩
  · rw [List.mem_append, h.mem_order, h.mem_ready]
    constructor
    · rintro (⟨hid, hn⟩ | ⟨hid, hn⟩)
      · exact ⟨hid, hn.mono (Nat.le_succ n)⟩
      · exact ⟨hid, hn.1⟩
    · rintro ⟨hid, hn⟩
      by_cases hbefore : Within g formulas n id
      · exact .inl ⟨hid, hbefore⟩
      · exact .inr ⟨hid, hn, hbefore⟩
  · refine List.nodup_append.2 ⟨h.nodup, hsublist.nodup hformulas, fun a ha b hb hab => ?_⟩
    subst hab
    exact (h.mem_ready.1 hb).2.2 ((h.mem_order a).1 ha).2
  · rw [notReady, h.waiting_eq, List.filter_filter]
    refine List.filter_congr fun id hid => ?_
    by_cases hmem : id ∈ order
    · simp [hmem]
    · simp [hmem, hid, ready]
  · refine List.pairwise_append.2 ⟨h.sorted, ?_, fun a ha b hb => ?_⟩
    · refine (hearlier.sublist hsublist).imp_of_mem fun ha hb hab => ?_
      exact ⟨n, n, (h.mem_ready.1 ha).2, (h.mem_ready.1 hb).2, .inr ⟨rfl, hab⟩⟩
    · obtain ⟨m, hm, hheight⟩ := hheight a ha
      exact ⟨m, n, hheight, (h.mem_ready.1 hb).2, .inl hm⟩

/-- **Rounds to the end.**  What then waits would wait for ever. -/
theorem progress_rounds (hformulas : formulas.Nodup) (hearlier : formulas.Pairwise earlier)
    (h : Progress g formulas earlier order waiting n) :
    ∃ m, Progress g formulas earlier (rounds g formulas order waiting).1
        (rounds g formulas order waiting).2 m ∧
      ∀ id ∈ formulas, ∀ k, Within g formulas k id → Within g formulas m id := by
  fun_induction rounds g formulas order waiting generalizing n with
  | case1 order waiting hnone =>
    refine ⟨n, h, fun id hid k hk => ?_⟩
    -- A formula within `k` that waits would be ready, since what it reads is within `n` already.
    induction k generalizing id with
    | zero => exact hk.elim
    | succ k ih =>
      have hnext : Within g formulas (n + 1) id := fun p hp => ih p hp.1 (hk p hp)
      by_contra hn
      have hready : id ∈ ready g formulas order waiting := h.mem_ready.2 ⟨hid, hnext, hn⟩
      rw [hnone] at hready
      cases hready
  | case2 order waiting hsome ih => exact ih (h.round hformulas hearlier)

/-- What the rounds come to, with nothing asked of the order that the formulas are given in. -/
theorem exists_progress_rounds (g : DependencyGraph) (hformulas : formulas.Nodup) :
    ∃ m, Progress g formulas (fun _ _ => True) (rounds g formulas [] formulas).1
        (rounds g formulas [] formulas).2 m ∧
      ∀ id ∈ formulas, ∀ k, Within g formulas k id → Within g formulas m id :=
  progress_rounds hformulas (List.pairwise_of_forall fun _ _ => trivial) .start

/-- **The formulas taken are those that have a height**: no chain of references below them is
endless. -/
theorem mem_rounds_iff (hformulas : formulas.Nodup) {id : String} :
    id ∈ (rounds g formulas [] formulas).1 ↔ id ∈ formulas ∧ ∃ n, Height g formulas id n := by
  obtain ⟨m, h, hend⟩ := exists_progress_rounds g hformulas
  rw [h.mem_order]
  constructor
  · exact fun ⟨hid, hm⟩ => ⟨hid, exists_height_of_within hm⟩
  · exact fun ⟨hid, n, hn⟩ => ⟨hid, hend id hid _ hn.1⟩

theorem nodup_rounds (hformulas : formulas.Nodup) : (rounds g formulas [] formulas).1.Nodup := by
  obtain ⟨m, h, -⟩ := exists_progress_rounds g hformulas
  exact h.nodup

theorem rounds_snd (hformulas : formulas.Nodup) :
    (rounds g formulas [] formulas).2
      = formulas.filter fun id => !(rounds g formulas [] formulas).1.contains id := by
  obtain ⟨m, h, -⟩ := exists_progress_rounds g hformulas
  exact h.waiting_eq

/-- **The formulas taken are sorted** by height, and at one height as they were given. -/
theorem sorted_rounds (hformulas : formulas.Nodup) (hearlier : formulas.Pairwise earlier) :
    (rounds g formulas [] formulas).1.Pairwise (Sooner g formulas earlier) := by
  obtain ⟨m, h, -⟩ := progress_rounds (g := g) hformulas hearlier .start
  exact h.sorted

/-- **What a formula reads is taken before it.** -/
theorem mem_before_of_reads (hformulas : formulas.Nodup) {before after : List String}
    {id p : String} (horder : (rounds g formulas [] formulas).1 = before ++ id :: after)
    (hread : ReadsFormula g formulas id p) : p ∈ before := by
  have hid : id ∈ (rounds g formulas [] formulas).1 := by
    rw [horder]
    exact List.mem_append_right _ List.mem_cons_self
  obtain ⟨-, n, hn⟩ := (mem_rounds_iff hformulas).1 hid
  obtain ⟨k, hk⟩ := exists_height_of_within (hn.1 p hread)
  have hkn : k < n := hn.lt_of_reads hk hread
  have hp : p ∈ (rounds g formulas [] formulas).1 :=
    (mem_rounds_iff hformulas).2 ⟨hread.1, k, hk⟩
  obtain ⟨m, h, -⟩ := exists_progress_rounds g hformulas
  have hsorted := h.sorted
  rw [horder] at hp hsorted
  rcases List.mem_append.1 hp with hp | hp
  · exact hp
  · exfalso
    rcases List.mem_cons.1 hp with rfl | hp
    · exact absurd (hn.unique hk) (by omega)
    · have hafter := (List.pairwise_append.1 hsorted).2.1
      obtain ⟨i, j, hi, hj, hle⟩ := (List.pairwise_cons.1 hafter).1 p hp
      rw [hn.unique hi, hk.unique hj] at hkn
      omega

/-! ### Only the set of edges counts -/

theorem isReady_congr {g' : DependencyGraph} (h : ∀ e, e ∈ g.edges ↔ e ∈ g'.edges) :
    isReady g = isReady g' := by
  funext formulas order id
  have hread : formulaPrecedents g formulas id = formulaPrecedents g' formulas id := by
    rw [formulaPrecedents, formulaPrecedents, DependencyGraph.precedents_congr h]
  have hsettled : settledPrecedents g order id = settledPrecedents g' order id := by
    simp only [settledPrecedents, DependencyGraph.dependents_congr h]
  rw [isReady, isReady, hread, hsettled, DependencyGraph.precedents_congr h]

/-- **Rounds do not depend on the order or the repetition of edges.** -/
theorem rounds_congr {g' : DependencyGraph} (h : ∀ e, e ∈ g.edges ↔ e ∈ g'.edges) :
    rounds g formulas order waiting = rounds g' formulas order waiting := by
  have hready : ready g = ready g' := by
    funext formulas order waiting
    rw [ready, ready, isReady_congr h]
  have hnotReady : notReady g = notReady g' := by
    funext formulas order waiting
    simp only [notReady, isReady_congr h]
  fun_induction rounds g formulas order waiting with
  | case1 order waiting hnone =>
    rw [rounds, dif_pos (hready ▸ hnone)]
  | case2 order waiting hsome ih =>
    rw [rounds.eq_def g', dif_neg (hready ▸ hsome), ← hready, ← hnotReady]
    exact ih

end Fieldbook.Schedule
