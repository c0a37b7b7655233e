import Fieldbook.Proofs.Calculation.Influence

/-!
# Values left over

A row may come with cells that an earlier calculation filled in.  They are filled in again, and as
long as every formula can be read, nothing hangs on what was there before: what a formula reads is
scheduled before it.  A formula that cannot be read has no references, so that the schedule does not
put before it what its tokens name.  It may see a value left over, and fail in another way.
-/

namespace Fieldbook

/-! ### Rows that agree on what is stored -/

namespace Field

variable {fields : List Field}

theorem isComputed_of_linkSpec? (hids : (fields.map (·.id)).Nodup) {id : String}
    (h : (linkSpec? fields id).isSome) {p : Field} (hp : p ∈ fields) (hid : p.id = id) :
    p.type.isComputed = false := by
  obtain ⟨q, hq, hqid, spec, htype⟩ := exists_relation_of_linkSpec? h
  obtain rfl : p = q := eq_of_id_eq hids hp hq (hid.trans hqid.symm)
  rw [htype]
  rfl

end Field

namespace Row

/-- **Two rows agree on what is stored**: they differ at most in cells that are computed. -/
def AgreeStored (fields : List Field) : Row → Row → Prop :=
  AgreeOn fun key => ∀ f ∈ fields, f.id = key → f.type.isComputed = false

variable {fields : List Field} {registry : Registry} {r r' : Row}

/-- **Before the formulas begin** such rows agree on everything else. -/
theorem AgreeStored.cell_prepared_eq (h : AgreeStored fields r r') (hids : (fields.map (·.id)).Nodup)
    {f : Field} (hf : f ∈ fields) (hother : ∀ expression, f.type ≠ .formula expression) :
    (r.prepared fields registry).cell f.id = (r'.prepared fields registry).cell f.id := by
  refine AgreeOn.cell_prepared_eq h hids hf ?_ ?_
  · intro via _ hlink p hp hid
    exact Field.isComputed_of_linkSpec? hids hlink hp hid
  · intro hvia hcell p hp hid
    obtain rfl : p = f := Field.eq_of_id_eq hids hp hf hid
    unfold timestampCell? at hcell
    cases htype : p.type <;> simp [htype, FieldType.via?, FieldType.isComputed] at hvia hcell ⊢
    exact absurd htype (hother _)

end Row

/-! ### Two calculations -/

/-- **How a value left over reaches a formula**, given the rows as they came and as they were
calculated. -/
inductive Leftover (fields : List Field) (r r' out out' : Row) : Field → Prop
  /-- A formula that cannot be read mentions one that is not computed before it, if only itself. -/
  | seen {u p : Field} (hunread : u.Unreadable) (hmentions : u.Mentions fields p)
      (hlater : ∃ front back, (Schedule.ofFields fields).order = front ++ u.id :: back ∧
        p.id ∈ u.id :: back)
      (hstored : r.cell p.id ≠ r'.cell p.id) (hdiffers : out.cell u.id ≠ out'.cell u.id) :
      Leftover fields r r' out out' u
  /-- A formula that cannot be read mentions one that was reached. -/
  | mentioned {u p : Field} (hunread : u.Unreadable) (hmentions : u.Mentions fields p)
      (hp : Leftover fields r r' out out' p) (hdiffers : out.cell u.id ≠ out'.cell u.id) :
      Leftover fields r r' out out' u
  /-- A formula reads one that was reached. -/
  | read {f p : Field} (hreads : f.Reads fields p) (hp : Leftover fields r r' out out' p)
      (hdiffers : out.cell f.id ≠ out'.cell f.id) : Leftover fields r r' out out' f

theorem Leftover.exists_unreadable {fields : List Field} {r r' out out' : Row} {f : Field}
    (h : Leftover fields r r' out out' f) (hf : f ∈ fields) : ∃ u ∈ fields, u.Unreadable := by
  induction h with
  | seen hunread => exact ⟨_, hf, hunread⟩
  | mentioned hunread => exact ⟨_, hf, hunread⟩
  | read hreads hp hdiffers ih => exact ih hreads.mem

namespace Formula

theorem isError_errorCell (e : FormulaError) : (errorCell e).isError = true := by
  rw [errorCell, Cell.isError, String.toList_append, List.isPrefixOf_iff_prefix]
  exact List.prefix_append _ _

end Formula

namespace Table

variable {t : Table} {registry : Registry} {now : Instant} {r r' : Row}

/-- **A formula that cannot be read shows an error**, whatever the row. -/
theorem isError_of_unreadable (hids : (t.fields.map (·.id)).Nodup) {u : Field} (hu : u ∈ t.fields)
    (hunread : u.Unreadable) (row : Row) :
    ((t.computeRow row registry (.full now)).cell u.id).isError = true := by
  obtain ⟨expression, p, htype, htree, hblank⟩ := hunread
  have hformula : u.isFormula = true := Field.isFormula_iff.2 ⟨expression, htype⟩
  obtain ⟨front, back, hall⟩ := List.append_of_mem (Schedule.mem_all_of_isFormula hids hu hformula)
  obtain ⟨e, hvalue, -⟩ := Formula.value_of_parse_error
    ⟨t.midway row registry now front, t.fields, now⟩ htree hblank
  rw [cell_computeRow_formula hids hu htype hall, Formula.cell, hvalue]
  exact Formula.isError_errorCell e

/-- **Where two calculations differ halfway** in a cell that is not computed yet, it is a formula's,
and it was there before. -/
theorem stored_ne_of_midway (hids : (t.fields.map (·.id)).Nodup) (h : Row.AgreeStored t.fields r r')
    {front : List String} {p : Field} (hp : p ∈ t.fields) (hfront : p.id ∉ front)
    (hne : (t.midway r registry now front).cell p.id ≠ (t.midway r' registry now front).cell p.id) :
    p.isFormula = true ∧ r.cell p.id ≠ r'.cell p.id := by
  have hmidway : ∀ row, (t.midway row registry now front).cell p.id
      = (row.prepared t.fields registry).cell p.id :=
    fun row => Row.cell_congr (get?_midway_of_notMem hfront row)
  rw [hmidway, hmidway] at hne
  have hformula : ∃ expression, p.type = .formula expression := by
    by_contra hnone
    exact hne (h.cell_prepared_eq hids hp fun expression htype => hnone ⟨expression, htype⟩)
  obtain ⟨expression, htype⟩ := hformula
  have hstored : ∀ row : Row, (row.prepared t.fields registry).cell p.id = row.cell p.id := by
    intro row
    refine Row.cell_prepared_other hids row hp (by rw [htype]; rfl) ?_
    rw [Row.timestampCell?, htype]
  rw [hstored, hstored] at hne
  exact ⟨Field.isFormula_iff.2 ⟨expression, htype⟩, hne⟩

/-- **A formula that differs was reached.**  The induction is on how many formulas are computed before
it: a formula that it sees differ is one of those, or has not been computed. -/
theorem leftover_of_differs (hids : (t.fields.map (·.id)).Nodup)
    (hcyclic : (Schedule.ofFields t.fields).cyclic = []) (h : Row.AgreeStored t.fields r r')
    {front back : List String} {f : Field} (hf : f ∈ t.fields)
    (horder : (Schedule.ofFields t.fields).order = front ++ f.id :: back)
    (hne : (t.computeRow r registry (.full now)).cell f.id
      ≠ (t.computeRow r' registry (.full now)).cell f.id) :
    Leftover t.fields r r' (t.computeRow r registry (.full now))
      (t.computeRow r' registry (.full now)) f := by
  induction hn : front.length using Nat.strongRecOn generalizing front back f with
  | ind n ih =>
    have hall : (Schedule.ofFields t.fields).all = front ++ f.id :: back := by
      rw [Schedule.all, hcyclic, List.append_nil, horder]
    have hmem : f.id ∈ Schedule.formulaIds t.fields := by
      rw [← Schedule.mem_all hids, hall]
      exact List.mem_append_right _ List.mem_cons_self
    obtain ⟨expression, htype⟩ := Schedule.exists_formula_of_mem hids hf hmem
    obtain ⟨p, hpne, hsees⟩ :=
      Field.exists_of_value_ne htype (value_ne_of_differs hids hf htype hall hne)
    have hp : p ∈ t.fields := hsees.elim (·.mem) (·.2.mem)
    by_cases hfront : p.id ∈ front
    · -- `p` has been computed and differs, so it was reached before `f`.
      have hout : (t.computeRow r registry (.full now)).cell p.id
          ≠ (t.computeRow r' registry (.full now)).cell p.id := by
        rw [cell_computeRow_of_mem hids hall hfront, cell_computeRow_of_mem hids hall hfront]
        exact hpne
      obtain ⟨before, between, rfl⟩ := List.append_of_mem hfront
      have hshorter : before.length < n := by
        rw [← hn, List.length_append, List.length_cons]
        omega
      rw [List.append_assoc, List.cons_append] at horder
      have hreached := ih before.length hshorter hp horder hout rfl
      rcases hsees with hreads | ⟨hunread, hmentions⟩
      · exact .read hreads hreached hne
      · exact .mentioned hunread hmentions hreached hne
    · obtain ⟨hformula, hstored⟩ := stored_ne_of_midway hids h hp hfront hpne
      rcases hsees with hreads | ⟨hunread, hmentions⟩
      · exact absurd (Schedule.mem_front_of_reads hids horder
          ⟨f, hf, p, hp, rfl, rfl, hformula, hreads⟩) hfront
      · have hlater : p.id ∈ f.id :: back := by
          have hscheduled := Schedule.mem_all_of_isFormula hids hp hformula
          rw [hall, List.mem_append] at hscheduled
          exact hscheduled.resolve_left hfront
        exact .seen hunread hmentions ⟨front, back, horder, hlater⟩ hstored hne

/-- **What values left over may change.**  Of two rows that agree on what is stored, in a table without
cyclic formulas, a field that comes to something else is a formula that a value left over reached.
Formulas that cannot be read show an error in either case, and where there are none of those, both
rows come to the same. -/
theorem leftover_computeRow (t : Table) (hids : (t.fields.map (·.id)).Nodup)
    (hcyclic : (Schedule.ofFields t.fields).cyclic = []) (registry : Registry) (now : Instant)
    (r r' : Row) (h : Row.AgreeStored t.fields r r') :
    (∀ f ∈ t.fields, (t.computeRow r registry (.full now)).cell f.id
        ≠ (t.computeRow r' registry (.full now)).cell f.id →
      f.isFormula = true ∧ Leftover t.fields r r' (t.computeRow r registry (.full now))
        (t.computeRow r' registry (.full now)) f) ∧
    (∀ u ∈ t.fields, u.Unreadable →
      ((t.computeRow r registry (.full now)).cell u.id).isError = true ∧
        ((t.computeRow r' registry (.full now)).cell u.id).isError = true) ∧
    ((∀ u ∈ t.fields, ¬ u.Unreadable) → ∀ f ∈ t.fields,
      (t.computeRow r registry (.full now)).cell f.id
        = (t.computeRow r' registry (.full now)).cell f.id) := by
  have hreached : ∀ f ∈ t.fields, (t.computeRow r registry (.full now)).cell f.id
      ≠ (t.computeRow r' registry (.full now)).cell f.id →
      f.isFormula = true ∧ Leftover t.fields r r' (t.computeRow r registry (.full now))
        (t.computeRow r' registry (.full now)) f := by
    intro f hf hne
    have hformula : f.isFormula = true := by
      by_contra hnone
      have hother : ∀ expression, f.type ≠ .formula expression :=
        fun expression htype => hnone (Field.isFormula_iff.2 ⟨expression, htype⟩)
      have hout : ∀ row, (t.computeRow row registry (.full now)).cell f.id
          = (row.prepared t.fields registry).cell f.id :=
        fun row => Row.cell_congr
          (get?_computeRow_of_notMem hids (notMem_formulaIds hids hf hother) row)
      rw [hout, hout] at hne
      exact hne (h.cell_prepared_eq hids hf hother)
    have hmem := Schedule.mem_all_of_isFormula hids hf hformula
    rw [Schedule.all, hcyclic, List.append_nil] at hmem
    obtain ⟨front, back, horder⟩ := List.append_of_mem hmem
    exact ⟨hformula, leftover_of_differs hids hcyclic h hf horder hne⟩
  refine ⟨hreached, ?_, ?_⟩
  · intro u hu hunread
    exact ⟨isError_of_unreadable hids hu hunread r, isError_of_unreadable hids hu hunread r'⟩
  · intro hreadable f hf
    by_contra hne
    obtain ⟨u, hu, hunread⟩ := (hreached f hf hne).2.exists_unreadable hf
    exact hreadable u hu hunread

/-! A formula that divides by one computed after it and then goes wrong, and a formula that shows what
came of it. -/

def quotientBeforeRate : Table :=
  ⟨"jobs", "Jobs", [⟨"bad", "Bad", .formula "1/{Rate})"⟩, ⟨"rate", "Rate", .formula "4"⟩,
    ⟨"label", "Label", .formula "{Bad}"⟩], [], []⟩

def freshJob : Row := ⟨"j1", .empty, .ofSeconds 60, .ofSeconds 120⟩

/-- The row with the rate of an earlier calculation. -/
def ratedJob : Row := freshJob.setCell "rate" (.number 4)

theorem agreeStored_job : Row.AgreeStored quotientBeforeRate.fields freshJob ratedJob where
  created_eq := rfl
  updated_eq := rfl
  cell_eq key hkey := by
    have hrate : key ≠ "rate" := by
      rintro rfl
      have hcomputed := hkey ⟨"rate", "Rate", .formula "4"⟩ (by decide) rfl
      cases hcomputed
    rw [ratedJob, Row.cell_setCell, if_neg hrate]

theorem leftover_computeRow_label :
    let label : Field := ⟨"label", "Label", .formula "{Bad}"⟩
    let out := quotientBeforeRate.computeRow freshJob (fun _ => none) (.full (.ofSeconds 0))
    let out' := quotientBeforeRate.computeRow ratedJob (fun _ => none) (.full (.ofSeconds 0))
    (quotientBeforeRate.fields.map (·.id)).Nodup ∧
      (Schedule.ofFields quotientBeforeRate.fields).cyclic = [] ∧
      Row.AgreeStored quotientBeforeRate.fields freshJob ratedJob ∧
      out.cell label.id ≠ out'.cell label.id ∧
      Leftover quotientBeforeRate.fields freshJob ratedJob out out' label := by
  intro label out out'
  have hids : (quotientBeforeRate.fields.map (·.id)).Nodup := by decide
  have hcyclic : (Schedule.ofFields quotientBeforeRate.fields).cyclic = [] := by decide +kernel
  have hne : out.cell label.id ≠ out'.cell label.id := by decide +kernel
  exact ⟨hids, hcyclic, agreeStored_job, hne,
    ((leftover_computeRow quotientBeforeRate hids hcyclic (fun _ => none) (.ofSeconds 0) freshJob
      ratedJob agreeStored_job).1 label (by decide) hne).2⟩

/-- The rate left over is seen: without it the quotient divides by nothing, with it the formula fails
only behind the quotient. -/
theorem error_of_leftover_rate :
    (quotientBeforeRate.fields.map (·.id)).Nodup ∧
      (Schedule.ofFields quotientBeforeRate.fields).cyclic = [] ∧
      "bad" ∈ quotientBeforeRate.fields.map (·.id) ∧ freshJob.id = ratedJob.id ∧
      Row.AgreeStored quotientBeforeRate.fields freshJob ratedJob ∧
      (quotientBeforeRate.computeRow freshJob (fun _ => none) (.full (.ofSeconds 0))).cell "bad"
        = .text "#ERROR: Division by zero" ∧
      (quotientBeforeRate.computeRow ratedJob (fun _ => none) (.full (.ofSeconds 0))).cell "bad"
        = .text "#ERROR: Unexpected token: )" :=
  ⟨by decide, by decide +kernel, by decide, rfl, agreeStored_job, by decide +kernel,
    by decide +kernel⟩

end Table

end Fieldbook
