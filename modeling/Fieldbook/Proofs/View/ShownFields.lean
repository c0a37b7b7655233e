import Fieldbook.View.Basic
import Fieldbook.Proofs.Keyed
import Fieldbook.Proofs.View.Partition

/-!
# The fields that are shown

A view goes through the fields that its order names and then through all fields of the table.
`Showing` follows it with the set of ids seen so far, which only fields that are not hidden enter, and
finds what `View.visibleFields` finds (`View.showEach_eq`).  What holds after some fields is
`Showing.After`; one more field keeps it (`Showing.After.meet`).  At the end the ids are those of the
order and of the table in order of first mention, less the hidden ones, and each stands for the first
field that has it.
-/

namespace Fieldbook

theorem eraseDups_filter (p : String → Bool) (names : List String) :
    (names.filter p).eraseDups = names.eraseDups.filter p := by
  induction names using List.reverseRecOn with
  | nil => rfl
  | append_singleton names name ih =>
    rw [List.filter_append, Group.eraseDups_concat]
    cases hp : p name with
    | true =>
      have hkept : name ∈ names.filter p ↔ name ∈ names := by simp [hp]
      rw [List.filter_singleton, hp, cond_true, Group.eraseDups_concat, ih]
      by_cases hmem : name ∈ names
      · rw [if_pos (hkept.2 hmem), if_pos hmem]
      · rw [if_neg (mt hkept.1 hmem), if_neg hmem]
        simp [hp]
    | false =>
      rw [List.filter_singleton, hp, cond_false, List.append_nil, ih]
      split
      · rfl
      · simp [hp]

structure Showing where
  seen : NameSet
  shown : List Field

namespace Showing

def start : Showing := ⟨.empty, []⟩

/-- **One more field**: it is shown unless it is hidden or its id was seen.  The id of a hidden field
does not count as seen. -/
def meet (hidden : NameSet) (s : Showing) (f : Field) : Showing :=
  if hidden.contains f.id || s.seen.contains f.id then s
  else ⟨s.seen.insert f.id (), s.shown ++ [f]⟩

variable {hidden : NameSet} {met : List Field} {s : Showing}

/-- **What is shown after some fields.** -/
structure After (hidden : NameSet) (met : List Field) (s : Showing) : Prop where
  ids : s.shown.map (·.id) = ((met.map (·.id)).filter fun id => !hidden.contains id).eraseDups
  seen : ∀ id, s.seen.contains id = true ↔ id ∈ s.shown.map (·.id)
  first : ∀ f ∈ s.shown, Field.withId? met f.id = some f

theorem after_start : After hidden [] start :=
  ⟨rfl, fun id => by simp [start, Keyed.contains], fun f hf => by cases hf⟩

namespace After

theorem mem_ids_iff (h : After hidden met s) {id : String} :
    id ∈ s.shown.map (·.id) ↔ id ∈ met.map (·.id) ∧ hidden.contains id = false := by
  rw [h.ids, List.mem_eraseDups, List.mem_filter, Bool.not_eq_true']

theorem first_concat (h : After hidden met s) (f : Field) :
    ∀ g ∈ s.shown, Field.withId? (met ++ [f]) g.id = some g := by
  intro g hg
  unfold Field.withId?
  rw [List.find?_append, show met.find? (·.id == g.id) = some g from h.first g hg]
  rfl

theorem pass (h : After hidden met s) {f : Field}
    (hleft : hidden.contains f.id = true ∨ s.seen.contains f.id = true) :
    After hidden (met ++ [f]) s := by
  refine ⟨?_, h.seen, h.first_concat f⟩
  rw [h.ids, List.map_append, List.filter_append, List.map_singleton, List.filter_singleton]
  rcases hleft with hhidden | hseen
  · rw [hhidden, Bool.not_true, cond_false, List.append_nil]
  · obtain ⟨hmet, hshown⟩ := h.mem_ids_iff.1 ((h.seen f.id).1 hseen)
    have hmem : f.id ∈ (met.map (·.id)).filter fun id => !hidden.contains id :=
      List.mem_filter.2 ⟨hmet, by rw [hshown]; rfl⟩
    rw [hshown, Bool.not_false, cond_true, Group.eraseDups_concat, if_pos hmem]

/-- A field that is not hidden and has a new id is the first that has it. -/
theorem push (h : After hidden met s) {f : Field} (hshown : hidden.contains f.id = false)
    (hunseen : s.seen.contains f.id = false) :
    After hidden (met ++ [f]) ⟨s.seen.insert f.id (), s.shown ++ [f]⟩ := by
  have hmet : f.id ∉ met.map (·.id) := by
    intro hmem
    have hseen := (h.seen f.id).2 (h.mem_ids_iff.2 ⟨hmem, hshown⟩)
    exact absurd (hunseen.symm.trans hseen) Bool.false_ne_true
  refine ⟨?_, fun id => ?_, ?_⟩
  · rw [List.map_append, List.map_append, List.filter_append, List.map_singleton,
      List.filter_singleton, hshown, Bool.not_false, cond_true, Group.eraseDups_concat,
      if_neg fun hmem => hmet (List.mem_filter.1 hmem).1, h.ids]
  · rw [NameSet.contains_insert_iff, h.seen, List.map_append, List.mem_append, or_comm,
      List.map_singleton, List.mem_singleton]
  · intro g hg
    rcases List.mem_append.1 hg with hg | hg
    · exact h.first_concat f g hg
    · obtain rfl := List.mem_singleton.1 hg
      have hnone : met.find? (·.id == g.id) = none :=
        List.find?_eq_none.2 fun e he heq => hmet (List.mem_map.2 ⟨e, he, by simpa using heq⟩)
      unfold Field.withId?
      rw [List.find?_append, hnone]
      simp

theorem meet (h : After hidden met s) (f : Field) :
    After hidden (met ++ [f]) (s.meet hidden f) := by
  unfold Showing.meet
  split
  · rename_i hleft
    exact h.pass (Bool.or_eq_true_iff.1 hleft)
  · rename_i hnew
    obtain ⟨hshown, hunseen⟩ := Bool.or_eq_false_iff.1 (Bool.not_eq_true _ ▸ hnew)
    exact h.push hshown hunseen

end After

theorem after_foldl (hidden : NameSet) (met : List Field) :
    After hidden met (met.foldl (meet hidden) start) := by
  induction met using List.reverseRecOn with
  | nil => exact after_start
  | append_singleton met f ih =>
    rw [List.foldl_append]
    exact ih.meet f

/-- From any point on, the fields shown are those left when the hidden, those seen and those with an
id that comes again are dropped. -/
theorem shown_foldl (hidden : NameSet) (fields : List Field) (s : Showing) :
    (fields.foldl (meet hidden) s).shown = s.shown ++
      (fields.filter fun f => !(hidden.contains f.id || s.seen.contains f.id)).eraseDupsBy
        fun a b => a.id == b.id := by
  induction fields generalizing s with
  | nil => simp
  | cons f rest ih =>
    rw [List.foldl_cons, ih]
    unfold meet
    cases hleft : hidden.contains f.id || s.seen.contains f.id with
    | true =>
      rw [List.filter_cons, hleft]
      rfl
    | false =>
      rw [List.filter_cons, hleft]
      simp only [Bool.false_eq_true, if_false, Bool.not_false, if_true, List.eraseDupsBy_cons,
        List.append_assoc, List.singleton_append, List.filter_filter]
      congr 4
      funext g
      rw [NameSet.contains_insert]
      cases g.id == f.id <;> simp

end Showing

namespace View

variable (v : View) (fields : List Field)

/-- The fields that a view goes through: those that its order names, and then all. -/
def metFields : List Field := v.fieldOrder.filterMap (Field.withId? fields) ++ fields

/-- **The fields that a view shows, one after another**, with the ids seen so far. -/
def showEach : List Field :=
  ((v.metFields fields).foldl (Showing.meet v.hiddenFields) .start).shown

theorem showEach_eq : v.showEach fields = v.visibleFields fields := by
  rw [showEach, Showing.shown_foldl]
  simp [Showing.start, Keyed.contains, visibleFields, metFields]

/-- The fields that the order names come first, but they are the first with their ids anyway. -/
theorem withId?_metFields (id : String) :
    Field.withId? (v.metFields fields) id = Field.withId? fields id := by
  unfold metFields
  rw [Field.withId?, List.find?_append]
  cases hnamed : (v.fieldOrder.filterMap (Field.withId? fields)).find? (·.id == id) with
  | none => rfl
  | some f =>
    obtain ⟨named, -, hf⟩ := List.mem_filterMap.1 (List.mem_of_find?_eq_some hnamed)
    have hid : f.id = id := by simpa using List.find?_some hnamed
    have hkey : f.id = named := by simpa using List.find?_some hf
    rw [Option.some_or, ← hid, hkey]
    exact hf.symm

def isKnown (id : String) : Bool := (Field.withId? fields id).isSome

theorem isKnown_of_mem {id : String} (h : id ∈ fields.map (·.id)) : isKnown fields id = true := by
  obtain ⟨f, hf, rfl⟩ := List.mem_map.1 h
  exact List.find?_isSome.2 ⟨f, hf, by simp⟩

theorem ids_metFields :
    (v.metFields fields).map (·.id) = (v.fieldOrder ++ fields.map (·.id)).filter (isKnown fields) := by
  have hid : ∀ id, (Field.withId? fields id).map (·.id) = Option.guard (isKnown fields) id := by
    intro id
    unfold isKnown
    cases h : Field.withId? fields id with
    | none => simp [Option.guard, h]
    | some f =>
      have hf : f.id = id := by simpa using List.find?_some h
      simp [Option.guard, h, hf]
  rw [metFields, List.map_append, List.filter_append, List.map_filterMap,
    List.filter_eq_self.2 fun id => isKnown_of_mem fields]
  congr 1
  simp only [hid]
  exact congrFun List.filterMap_eq_filter v.fieldOrder

theorem after_showEach : Showing.After v.hiddenFields (v.metFields fields)
    ((v.metFields fields).foldl (Showing.meet v.hiddenFields) .start) :=
  Showing.after_foldl _ _

/-- **The ids of the fields shown**, in order of first mention. -/
theorem ids_visibleFields : (v.visibleFields fields).map (·.id) =
    (((v.fieldOrder ++ fields.map (·.id)).eraseDups.filter
      fun id => !v.hiddenFields.contains id).filter (isKnown fields)) := by
  rw [← showEach_eq, showEach, (v.after_showEach fields).ids, ids_metFields, eraseDups_filter,
    eraseDups_filter, List.filter_comm]

/-- **Each of them stands for the first field with its id.** -/
theorem withId?_of_mem_visibleFields {f : Field} (hf : f ∈ v.visibleFields fields) :
    Field.withId? fields f.id = some f := by
  rw [← showEach_eq] at hf
  rw [← withId?_metFields v]
  exact (v.after_showEach fields).first f hf

theorem visibleFields_eq_filterMap : v.visibleFields fields =
    ((v.fieldOrder ++ fields.map (·.id)).eraseDups.filter
      fun id => !v.hiddenFields.contains id).filterMap (Field.withId? fields) := by
  have hfirst : ((v.visibleFields fields).map (·.id)).filterMap (Field.withId? fields) =
      v.visibleFields fields := by
    rw [List.filterMap_map]
    refine (List.filterMap_congr fun f hf => ?_).trans List.filterMap_some
    exact v.withId?_of_mem_visibleFields fields hf
  rw [← hfirst, ids_visibleFields, List.filterMap_filter]
  refine List.filterMap_congr fun id _ => ?_
  unfold isKnown
  cases Field.withId? fields id <;> rfl

theorem mem_visibleFields {f : Field} : f ∈ v.visibleFields fields ↔
    Field.withId? fields f.id = some f ∧ v.hiddenFields.contains f.id = false := by
  rw [visibleFields_eq_filterMap, List.mem_filterMap]
  constructor
  · rintro ⟨id, hid, hf⟩
    have hkey : f.id = id := by simpa using List.find?_some hf
    subst hkey
    exact ⟨hf, by simpa using (List.mem_filter.1 hid).2⟩
  · rintro ⟨hf, hshown⟩
    refine ⟨f.id, List.mem_filter.2 ⟨List.mem_eraseDups.2 ?_, by rw [hshown]; rfl⟩, hf⟩
    exact List.mem_append_right _ (List.mem_map_of_mem (List.mem_of_find?_eq_some hf))

/-! ### The order of the fields shown -/

/-- **Which of two fields comes first**: one that the order names before any that it does not; of two
named ones the one named first; of two others the one whose id comes first in the table. -/
def ShownBefore (f g : Field) : Prop :=
  if f.id ∈ v.fieldOrder then
    g.id ∈ v.fieldOrder → v.fieldOrder.idxOf f.id < v.fieldOrder.idxOf g.id
  else
    g.id ∉ v.fieldOrder ∧ (fields.map (·.id)).idxOf f.id < (fields.map (·.id)).idxOf g.id

theorem pairwise_ids_visibleFields : ((v.visibleFields fields).map (·.id)).Pairwise fun i j =>
    (v.fieldOrder ++ fields.map (·.id)).idxOf i < (v.fieldOrder ++ fields.map (·.id)).idxOf j := by
  rw [ids_visibleFields]
  exact ((Group.pairwise_eraseDups _).filter _).filter _

theorem pairwise_visibleFields : (v.visibleFields fields).Pairwise (v.ShownBefore fields) := by
  refine (List.pairwise_map.1 (v.pairwise_ids_visibleFields fields)).imp ?_
  intro f g hlt
  rw [List.idxOf_append, List.idxOf_append] at hlt
  unfold ShownBefore
  split
  · rename_i hf
    intro hg
    rwa [if_pos hf, if_pos hg] at hlt
  · rename_i hf
    rw [if_neg hf] at hlt
    have hg : g.id ∉ v.fieldOrder := by
      intro hg
      rw [if_pos hg] at hlt
      have := List.idxOf_lt_length_iff.2 hg
      omega
    rw [if_neg hg] at hlt
    exact ⟨hg, by omega⟩

/-- **The fields that a view shows.**  Going through its order and then through the table with a set of
the ids seen, it shows the first field of each id that is not hidden, each once and nothing else: the
ids of the order first, as they are first mentioned, and then the others in the order of the table. -/
theorem visibleFields_each_once :
    let shown := v.visibleFields fields
    let ids := fields.map (·.id)
    v.showEach fields = shown
    ∧ shown = ((v.fieldOrder ++ ids).eraseDups.filter
        fun id => !v.hiddenFields.contains id).filterMap (Field.withId? fields)
    ∧ (∀ f, f ∈ shown ↔ Field.withId? fields f.id = some f ∧ v.hiddenFields.contains f.id = false)
    ∧ (shown.map (·.id)).Nodup
    ∧ shown.Pairwise (v.ShownBefore fields) := by
  intro shown ids
  refine ⟨v.showEach_eq fields, v.visibleFields_eq_filterMap fields,
    fun f => v.mem_visibleFields fields, ?_, v.pairwise_visibleFields fields⟩
  refine (v.pairwise_ids_visibleFields fields).imp ?_
  rintro i _ hlt rfl
  exact Nat.lt_irrefl _ hlt

end View

end Fieldbook
