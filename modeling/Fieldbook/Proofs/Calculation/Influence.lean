import Fieldbook.Proofs.Calculation.Finished

/-!
# Influence

Two rows that agree but for one cell are calculated.  Where a formula comes to something else, a
chain of reads leads to it from the cell that was changed, and `Influence` says which chains there
are.  Most follow references, and `Schedule.affectedBy` lists their ends.  Two kinds of step are
not references: a lookup or a rollup follows links without naming the field that holds them, and a
formula that cannot be read still names fields up to the place where it fails.
-/

namespace Fieldbook

namespace Field

/-- **A formula that cannot be read** is not blank and has no tree. -/
def Unreadable (f : Field) : Prop :=
  ∃ expression p, f.type = .formula expression ∧ Expr.parse expression = .error p ∧
    Text.isBlankText expression.toList = false

theorem unreadable_of_not_isReadable {f : Field} {expression : String}
    (htype : f.type = .formula expression) (h : ¬ Formula.IsReadable expression) : f.Unreadable := by
  rw [Formula.IsReadable, not_or, Bool.not_eq_true] at h
  obtain ⟨hblank, htree⟩ := h
  cases hparse : Expr.parse expression with
  | ok tree => exact absurd ⟨tree, hparse⟩ htree
  | error p => exact ⟨expression, p, htype, hparse, hblank⟩

/-- **A formula mentions a field** if one of its tokens is a name, and the field is the first that
has it. -/
def Mentions (fields : List Field) (f p : Field) : Prop :=
  ∃ expression tokens, f.type = .formula expression ∧ Token.scan expression = .ok tokens ∧
    ∃ name, .field name ∈ tokens ∧ withName? fields name = some p

theorem Mentions.mem {fields : List Field} {f p : Field} (h : f.Mentions fields p) : p ∈ fields := by
  obtain ⟨-, -, -, -, name, -, hp⟩ := h
  exact mem_of_withName? hp

/-- A formula that comes to two values in two rows is told apart by a field that it reads, or, where
it cannot be read, by one that it mentions. -/
theorem exists_of_value_ne {fields : List Field} {now : Instant} {r r' : Row} {f : Field}
    {expression : String} (htype : f.type = .formula expression)
    (h : Formula.value expression ⟨r, fields, now⟩ ≠ Formula.value expression ⟨r', fields, now⟩) :
    ∃ p, r.cell p.id ≠ r'.cell p.id ∧
      (f.Reads fields p ∨ f.Unreadable ∧ f.Mentions fields p) := by
  by_contra hnone
  push Not at hnone
  by_cases hreadable : Formula.IsReadable expression
  · refine h (Formula.value_congr_of_reads htype hreadable fun p hreads => ?_)
    by_contra hne
    exact (hnone p hne).1 hreads
  · refine h (Formula.value_congr rfl fun tokens htokens name hname => ?_)
    refine Scope.fieldValue_congr fun p hp => ?_
    by_contra hne
    exact (hnone p hne).2 (unreadable_of_not_isReadable htype hreadable)
      ⟨expression, tokens, htype, htokens, name, hname, hp⟩

end Field

/-! ### What a change affects -/

namespace Schedule

variable {fields : List Field}

/-- **Affected are the formulas at the end of a path of references.** -/
theorem mem_affectedBy (hids : (fields.map (·.id)).Nodup) {id d : String} :
    d ∈ (ofFields fields).affectedBy id ↔ d ∈ formulaIds fields ∧
      Relation.TransGen (fun a b => (a, b) ∈ (DependencyGraph.ofFields fields).edges) id d := by
  rw [affectedBy, List.mem_filter, mem_all hids, DependencyGraph.contains_allDependents]
  rfl

theorem mem_all_of_isFormula (hids : (fields.map (·.id)).Nodup) {f : Field} (hf : f ∈ fields)
    (hformula : f.isFormula = true) : f.id ∈ (ofFields fields).all :=
  (mem_all hids).2 (mem_formulaIds.2 ⟨f, hf, hformula, rfl⟩)

theorem mem_affectedBy_of_reads (hids : (fields.map (·.id)).Nodup) {f p : Field} (hf : f ∈ fields)
    (h : f.Reads fields p) : f.id ∈ (ofFields fields).affectedBy p.id :=
  (mem_affectedBy hids).2 ⟨mem_formulaIds_of_reads hf h,
    .single (DependencyGraph.mem_edges_ofFields.2 ⟨f, hf, p, rfl, rfl, h⟩)⟩

theorem mem_affectedBy_trans (hids : (fields.map (·.id)).Nodup) {id : String} {f p : Field}
    (hp : p.id ∈ (ofFields fields).affectedBy id) (hf : f ∈ fields) (h : f.Reads fields p) :
    f.id ∈ (ofFields fields).affectedBy id :=
  (mem_affectedBy hids).2 ⟨mem_formulaIds_of_reads hf h,
    ((mem_affectedBy hids).1 hp).2.tail
      (DependencyGraph.mem_edges_ofFields.2 ⟨f, hf, p, rfl, rfl, h⟩)⟩

end Schedule

/-! ### Rows that agree in part -/

namespace Row

/-- **Two rows agree on the cells under some keys.** -/
structure AgreeOn (keep : String → Prop) (r r' : Row) : Prop where
  created_eq : r.created = r'.created
  updated_eq : r.updated = r'.updated
  cell_eq : ∀ key, keep key → r.cell key = r'.cell key

variable {keep : String → Prop} {r r' : Row} {fields : List Field} {registry : Registry}

theorem AgreeOn.resolve_eq (h : AgreeOn keep r r') {f : Field}
    (hvia : ∀ via, f.type.via? = some via → (Field.linkSpec? fields via).isSome → keep via)
    (hkeep : f.type.via? = none → keep f.id) :
    f.resolve r registry fields = f.resolve r' registry fields := by
  refine Field.resolve_congr (fun via hspec hlink => ?_) (fun spec htype => ?_) fun hlinked => ?_
  · rw [h.cell_eq via (hvia via hspec hlink)]
  · rw [h.cell_eq f.id (hkeep (by rw [htype]; rfl))]
  · exact h.cell_eq f.id (hkeep (FieldType.via?_of_isLinked hlinked))

theorem AgreeOn.timestampCell?_eq (h : AgreeOn keep r r') (f : Field) :
    r.timestampCell? f = r'.timestampCell? f :=
  timestampCell?_congr h.created_eq h.updated_eq f

theorem cell_prepared_other (hids : (fields.map (·.id)).Nodup) (r : Row) {f : Field} (hf : f ∈ fields)
    (hlinked : f.type.isLinked = false) (hcell : r.timestampCell? f = none) :
    (r.prepared fields registry).cell f.id = r.cell f.id := by
  refine cell_congr (get?_prepared_other r fun p hp hid => ?_)
  obtain rfl : p = f := Field.eq_of_id_eq hids hp hf hid
  exact ⟨hlinked, hcell⟩

/-- **Before the formulas begin** two such rows agree on a field that needs no other cell. -/
theorem AgreeOn.cell_prepared_eq (h : AgreeOn keep r r') (hids : (fields.map (·.id)).Nodup)
    {f : Field} (hf : f ∈ fields)
    (hvia : ∀ via, f.type.via? = some via → (Field.linkSpec? fields via).isSome → keep via)
    (hkeep : f.type.via? = none → r.timestampCell? f = none → keep f.id) :
    (r.prepared fields registry).cell f.id = (r'.prepared fields registry).cell f.id := by
  cases hlinked : f.type.isLinked with
  | true =>
    refine cell_congr ?_
    rw [get?_prepared_linked hids r hf hlinked, get?_prepared_linked hids r' hf hlinked,
      h.resolve_eq hvia fun hnone => hkeep hnone (timestampCell?_of_isLinked hlinked r)]
  | false =>
    cases hcell : r.timestampCell? f with
    | some cell =>
      refine cell_congr ?_
      rw [get?_prepared_timestamp hids r hf hcell,
        get?_prepared_timestamp hids r' hf ((h.timestampCell?_eq f).symm.trans hcell)]
    | none =>
      have hnone : f.type.via? = none := FieldType.via?_of_isLinked hlinked
      rw [cell_prepared_other hids r hf hlinked hcell,
        cell_prepared_other hids r' hf hlinked ((h.timestampCell?_eq f).symm.trans hcell)]
      exact h.cell_eq f.id (hkeep hnone hcell)

/-- **Two rows agree but for the cell under an id.** -/
structure AgreeBut (x : String) (r r' : Row) : Prop where
  created_eq : r.created = r'.created
  updated_eq : r.updated = r'.updated
  cell_eq : ∀ key, key ≠ x → r.cell key = r'.cell key

theorem AgreeBut.agreeOn {x : String} (h : AgreeBut x r r') : AgreeOn (· ≠ x) r r' where
  created_eq := h.created_eq
  updated_eq := h.updated_eq
  cell_eq := h.cell_eq

/-- Before the formulas begin two such rows agree but for the changed cell and what lies behind its links. -/
theorem AgreeBut.cell_prepared_eq {x : String} (h : AgreeBut x r r')
    (hids : (fields.map (·.id)).Nodup) {f : Field} (hf : f ∈ fields) (hx : f.id ≠ x)
    (hvia : f.type.via? = some x → Field.linkSpec? fields x = none) :
    (r.prepared fields registry).cell f.id = (r'.prepared fields registry).cell f.id := by
  refine h.agreeOn.cell_prepared_eq hids hf ?_ fun _ _ => hx
  rintro via hspec hsome rfl
  rw [hvia hspec] at hsome
  cases hsome

end Row

/-! ### Two calculations -/

/-- **How a changed cell reaches a formula**, given the two rows that were calculated. -/
inductive Influence (fields : List Field) (x : String) (out out' : Row) (f : Field) : Prop
  /-- Along references from the changed field. -/
  | affected (h : f.id ∈ (Schedule.ofFields fields).affectedBy x)
  /-- Along references from a lookup or a rollup that follows the changed links. -/
  | linked {l : Field} (hl : l ∈ fields) (hvia : l.type.via? = some x)
      (hlink : (Field.linkSpec? fields x).isSome) (hdiffers : out.cell l.id ≠ out'.cell l.id)
      (h : f.id ∈ (Schedule.ofFields fields).affectedBy l.id)
  /-- In or along references from a formula that cannot be read. -/
  | unreadable {u p : Field} (hu : u ∈ fields) (hunread : u.Unreadable)
      (hmentions : u.Mentions fields p) (hp : p.id = x ∨ out.cell p.id ≠ out'.cell p.id)
      (hdiffers : out.cell u.id ≠ out'.cell u.id)
      (h : f = u ∨ f.id ∈ (Schedule.ofFields fields).affectedBy u.id)

/-- **Influence is passed on by reading.** -/
theorem Influence.of_reads {fields : List Field} (hids : (fields.map (·.id)).Nodup) {x : String}
    {out out' : Row} {f p : Field} (h : Influence fields x out out' p) (hf : f ∈ fields)
    (hreads : f.Reads fields p) : Influence fields x out out' f := by
  cases h with
  | affected h => exact .affected (Schedule.mem_affectedBy_trans hids h hf hreads)
  | linked hl hvia hlink hdiffers h =>
    exact .linked hl hvia hlink hdiffers (Schedule.mem_affectedBy_trans hids h hf hreads)
  | unreadable hu hunread hmentions hp hdiffers h =>
    refine .unreadable hu hunread hmentions hp hdiffers (.inr ?_)
    rcases h with rfl | h
    · exact Schedule.mem_affectedBy_of_reads hids hf hreads
    · exact Schedule.mem_affectedBy_trans hids h hf hreads

namespace Table

variable {t : Table} {registry : Registry} {now : Instant} {x : String} {r r' : Row}

theorem cell_computeRow_of_mem (hids : (t.fields.map (·.id)).Nodup) {front back : List String}
    (hall : (Schedule.ofFields t.fields).all = front ++ back) {key : String} (h : key ∈ front)
    (row : Row) : (t.computeRow row registry (.full now)).cell key
      = (t.midway row registry now front).cell key := by
  rw [computeRow_eq_midway, hall]
  exact Row.cell_congr
    (get?_midway_append (Schedule.notMem_back_of_mem_front hids hall h) row)

/-- **Where two calculations differ halfway.**  A cell that is not computed yet differs because it is
the changed one or lies behind its links; one that is computed stays as it is. -/
theorem differs_of_midway (hids : (t.fields.map (·.id)).Nodup) (h : Row.AgreeBut x r r')
    {front back : List String} (hall : (Schedule.ofFields t.fields).all = front ++ back) {p : Field}
    (hp : p ∈ t.fields)
    (hne : (t.midway r registry now front).cell p.id ≠ (t.midway r' registry now front).cell p.id) :
    p.id = x ∨
      ((t.computeRow r registry (.full now)).cell p.id
          ≠ (t.computeRow r' registry (.full now)).cell p.id ∧
        (p.id ∈ front ∨ p.type.via? = some x ∧ (Field.linkSpec? t.fields x).isSome)) := by
  by_cases hfront : p.id ∈ front
  · refine .inr ⟨?_, .inl hfront⟩
    rw [cell_computeRow_of_mem hids hall hfront, cell_computeRow_of_mem hids hall hfront]
    exact hne
  · have hmidway : ∀ row, (t.midway row registry now front).cell p.id
        = (row.prepared t.fields registry).cell p.id :=
      fun row => Row.cell_congr (get?_midway_of_notMem hfront row)
    rw [hmidway, hmidway] at hne
    by_cases hx : p.id = x
    · exact .inl hx
    · have hvia : p.type.via? = some x ∧ (Field.linkSpec? t.fields x).isSome := by
        by_contra hnone
        rw [not_and, Option.not_isSome_iff_eq_none] at hnone
        exact hne (h.cell_prepared_eq hids hp hx hnone)
      have hother : ∀ expression, p.type ≠ .formula expression := by
        intro expression htype
        rw [htype] at hvia
        cases hvia.1
      have hout : ∀ row, (t.computeRow row registry (.full now)).cell p.id
          = (row.prepared t.fields registry).cell p.id :=
        fun row => Row.cell_congr
          (get?_computeRow_of_notMem hids (notMem_formulaIds hids hp hother) row)
      refine .inr ⟨?_, .inr hvia⟩
      rw [hout, hout]
      exact hne

theorem cell_computeRow_formula (hids : (t.fields.map (·.id)).Nodup) {front back : List String}
    {f : Field} {expression : String} (hf : f ∈ t.fields) (htype : f.type = .formula expression)
    (hall : (Schedule.ofFields t.fields).all = front ++ f.id :: back) (row : Row) :
    (t.computeRow row registry (.full now)).cell f.id
      = Formula.cell expression ⟨t.midway row registry now front, t.fields, now⟩ := by
  rw [computeRow_eq_midway, hall, Row.cell,
    get?_midway_formula hids hf htype (Schedule.notMem_back hids hall)]
  rfl

theorem value_ne_of_differs (hids : (t.fields.map (·.id)).Nodup) {front back : List String}
    {f : Field} {expression : String} (hf : f ∈ t.fields) (htype : f.type = .formula expression)
    (hall : (Schedule.ofFields t.fields).all = front ++ f.id :: back)
    (hne : (t.computeRow r registry (.full now)).cell f.id
      ≠ (t.computeRow r' registry (.full now)).cell f.id) :
    Formula.value expression ⟨t.midway r registry now front, t.fields, now⟩
      ≠ Formula.value expression ⟨t.midway r' registry now front, t.fields, now⟩ := by
  intro hvalue
  apply hne
  rw [cell_computeRow_formula hids hf htype hall, cell_computeRow_formula hids hf htype hall,
    Formula.cell, Formula.cell, hvalue]

/-- **A formula that differs was reached.**  The induction is on how many formulas are computed before
it: a formula that it reads and that differs halfway is one of those. -/
theorem influence_of_differs (hids : (t.fields.map (·.id)).Nodup) (h : Row.AgreeBut x r r')
    {front back : List String} {f : Field} (hf : f ∈ t.fields)
    (hall : (Schedule.ofFields t.fields).all = front ++ f.id :: back)
    (hne : (t.computeRow r registry (.full now)).cell f.id
      ≠ (t.computeRow r' registry (.full now)).cell f.id) :
    Influence t.fields x (t.computeRow r registry (.full now))
      (t.computeRow r' registry (.full now)) f := by
  induction hn : front.length using Nat.strongRecOn generalizing front back f with
  | ind n ih =>
    have hmem : f.id ∈ (Schedule.ofFields t.fields).all := by
      rw [hall]
      exact List.mem_append_right _ List.mem_cons_self
    obtain ⟨expression, htype⟩ :=
      Schedule.exists_formula_of_mem hids hf ((Schedule.mem_all hids).1 hmem)
    obtain ⟨p, hpne, hreads | ⟨hunread, hmentions⟩⟩ :=
      Field.exists_of_value_ne htype (value_ne_of_differs hids hf htype hall hne)
    · have hp := hreads.mem
      rcases differs_of_midway hids h hall hp hpne with rfl | ⟨hout, hfront | ⟨hvia, hlink⟩⟩
      · exact .affected (Schedule.mem_affectedBy_of_reads hids hf hreads)
      · -- `p` has been computed and differs, so it was reached before `f`.
        obtain ⟨before, between, rfl⟩ := List.append_of_mem hfront
        rw [List.append_assoc, List.cons_append] at hall
        refine (ih before.length ?_ hp hall hout rfl).of_reads hids hf hreads
        rw [← hn, List.length_append, List.length_cons]
        omega
      · exact .linked hp hvia hlink hout (Schedule.mem_affectedBy_of_reads hids hf hreads)
    · have hp : p.id = x ∨ (t.computeRow r registry (.full now)).cell p.id
          ≠ (t.computeRow r' registry (.full now)).cell p.id :=
        (differs_of_midway hids h hall hmentions.mem hpne).imp_right (·.1)
      exact .unreadable hf hunread hmentions hp hne (.inl rfl)

/-- Where no links are followed through the changed cell and every formula can be read, references
are the only way. -/
theorem mem_affectedBy_of_differs (hids : (t.fields.map (·.id)).Nodup) (h : Row.AgreeBut x r r')
    (hlinks : ∀ l ∈ t.fields, l.type.via? ≠ some x) (hreadable : ∀ u ∈ t.fields, ¬ u.Unreadable)
    {f : Field} (hf : f ∈ t.fields) (hformula : f.isFormula = true)
    (hne : (t.computeRow r registry (.full now)).cell f.id
      ≠ (t.computeRow r' registry (.full now)).cell f.id) :
    f.id ∈ (Schedule.ofFields t.fields).affectedBy x := by
  obtain ⟨front, back, hall⟩ := List.append_of_mem (Schedule.mem_all_of_isFormula hids hf hformula)
  cases influence_of_differs hids h hf hall hne with
  | affected h => exact h
  | linked hl hvia => exact absurd hvia (hlinks _ hl)
  | unreadable hu hunread => exact absurd hunread (hreadable _ hu)

/-- **What a changed cell may change.**  Of two rows that agree but for one cell, a formula that comes
to something else was reached from that cell. -/
theorem influence_computeRow (t : Table) (hids : (t.fields.map (·.id)).Nodup) (registry : Registry)
    (now : Instant) (x : String) (r r' : Row) (h : Row.AgreeBut x r r') (f : Field)
    (hf : f ∈ t.fields) (hformula : f.isFormula = true)
    (hne : (t.computeRow r registry (.full now)).cell f.id
      ≠ (t.computeRow r' registry (.full now)).cell f.id) :
    Influence t.fields x (t.computeRow r registry (.full now))
      (t.computeRow r' registry (.full now)) f := by
  obtain ⟨front, back, hall⟩ := List.append_of_mem (Schedule.mem_all_of_isFormula hids hf hformula)
  exact influence_of_differs hids h hf hall hne

/-! A table with both kinds of step that are not references: a lookup through a relation with a formula
that reads the lookup, and a formula that divides by the relation and then goes wrong. -/

def labelAndQuotient : Table :=
  ⟨"tasks", "Tasks", [⟨"link", "Link", .relation ⟨"people", none, true⟩⟩,
    ⟨"owner", "Owner", .lookup ⟨"link", "name"⟩⟩, ⟨"label", "Label", .formula "{Owner}"⟩,
    ⟨"quotient", "Quotient", .formula "1/{Link})"⟩], [], []⟩

def linkedPeople : Registry :=
  .ofTables [⟨"people", "People", [⟨"name", "Name", .text⟩],
    [⟨"0", .ofList [("name", .text "Ada")], .ofSeconds 0, .ofSeconds 0⟩], []⟩]

def linkedTo (id : String) : Row :=
  (Row.mk "t1" .empty (.ofSeconds 60) (.ofSeconds 120)).setCell "link" (.list [id])

theorem agreeBut_linkedTo (id id' : String) : Row.AgreeBut "link" (linkedTo id) (linkedTo id') where
  created_eq := rfl
  updated_eq := rfl
  cell_eq key hkey := by
    rw [linkedTo, linkedTo, Row.cell_setCell, Row.cell_setCell, if_neg hkey, if_neg hkey]

theorem influence_computeRow_label :
    let label : Field := ⟨"label", "Label", .formula "{Owner}"⟩
    let out := labelAndQuotient.computeRow (linkedTo "0") linkedPeople (.full (.ofSeconds 0))
    let out' := labelAndQuotient.computeRow (linkedTo "1") linkedPeople (.full (.ofSeconds 0))
    (labelAndQuotient.fields.map (·.id)).Nodup ∧
      Row.AgreeBut "link" (linkedTo "0") (linkedTo "1") ∧
      label ∈ labelAndQuotient.fields ∧ label.isFormula = true ∧
      out.cell label.id ≠ out'.cell label.id ∧
      Influence labelAndQuotient.fields "link" out out' label := by
  intro label out out'
  have hids : (labelAndQuotient.fields.map (·.id)).Nodup := by decide
  have hlabel : label ∈ labelAndQuotient.fields := by decide
  have hne : out.cell label.id ≠ out'.cell label.id := by decide +kernel
  exact ⟨hids, agreeBut_linkedTo "0" "1", hlabel, rfl, hne,
    influence_computeRow labelAndQuotient hids linkedPeople (.ofSeconds 0) "link" (linkedTo "0")
      (linkedTo "1") (agreeBut_linkedTo "0" "1") label hlabel rfl hne⟩

/-- Both formulas change with the relation, and references lead from it to neither. -/
theorem affectedBy_misses_label_and_quotient :
    (labelAndQuotient.fields.map (·.id)).Nodup ∧ "link" ∈ labelAndQuotient.fields.map (·.id) ∧
      (linkedTo "0").id = (linkedTo "1").id ∧
      Row.AgreeBut "link" (linkedTo "0") (linkedTo "1") ∧
      ∀ id ∈ ["label", "quotient"], id ∈ Schedule.formulaIds labelAndQuotient.fields ∧
        (labelAndQuotient.computeRow (linkedTo "0") linkedPeople (.full (.ofSeconds 0))).cell id
          ≠ (labelAndQuotient.computeRow (linkedTo "1") linkedPeople (.full (.ofSeconds 0))).cell id ∧
        id ∉ (Schedule.ofFields labelAndQuotient.fields).affectedBy "link" :=
  ⟨by decide, by decide, rfl, agreeBut_linkedTo "0" "1", by decide +kernel⟩

end Table

end Fieldbook
