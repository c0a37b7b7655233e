import Fieldbook.Calculation
import Fieldbook.Proofs.Dependency.Order

/-!
# The phases of a calculation

Each phase stores cells in a row, one field after another.  `Row.store` is that, said once: a cell is
found under the last entry for its key, and what has no entry stays.  Links and timestamps are
stores whose cells are known beforehand (`Row.fillLinks_eq`, `Row.fillTimestamps_eq`), whichever of
the two are asked for (`Table.computeRow_eq_filled`).  A formula's cell hangs on those before it, so
formulas are followed step by step, and `CalculationPlan.stepsOf` ties their steps to the ids of a
schedule.
-/

namespace Fieldbook

/-! ### Following links -/

def FieldType.via? : FieldType → Option String
  | lookup spec => some spec.via
  | rollup spec => some spec.source.via
  | _ => none

theorem FieldType.via?_of_isLinked {type : FieldType} (h : type.isLinked = false) :
    type.via? = none := by
  cases type <;> first | rfl | cases h

section Links

variable {fields : List Field} {registry : Registry} {r r' : Row}

theorem Field.exists_relation_of_linkSpec? {id : String} (h : (linkSpec? fields id).isSome) :
    ∃ p ∈ fields, p.id = id ∧ ∃ spec, p.type = .relation spec := by
  unfold linkSpec? at h
  split at h
  · rename_i pid name spec hfield
    exact ⟨_, mem_of_withId? hfield, id_of_withId? hfield, spec, rfl⟩
  · cases h

/-- A lookup reads nothing of its row but the links of its relation. -/
theorem LookupSpec.cells?_congr {spec : LookupSpec}
    (h : (Field.linkSpec? fields spec.via).isSome →
      (r.cell spec.via).links = (r'.cell spec.via).links) :
    spec.cells? r registry fields = spec.cells? r' registry fields := by
  unfold cells?
  cases hspec : Field.linkSpec? fields spec.via with
  | none => rfl
  | some link => rw [h (by rw [hspec]; rfl)]

/-- **What a cell that follows links reads of its row**: the links that it follows, those that it holds
itself, and the whole cell if it does neither. -/
theorem Field.resolve_congr {f : Field}
    (hvia : ∀ via, f.type.via? = some via → (linkSpec? fields via).isSome →
      (r.cell via).links = (r'.cell via).links)
    (hown : ∀ spec, f.type = .relation spec → (r.cell f.id).links = (r'.cell f.id).links)
    (hother : f.type.isLinked = false → r.cell f.id = r'.cell f.id) :
    f.resolve r registry fields = f.resolve r' registry fields := by
  unfold resolve
  cases htype : f.type with
  | relation spec => simp only [hown spec htype]
  | lookup spec =>
    simp only [LookupSpec.cells?_congr (hvia spec.via (by rw [htype]; rfl))]
  | rollup spec =>
    simp only [LookupSpec.cells?_congr (hvia spec.source.via (by rw [htype]; rfl))]
  | _ => exact hother (by rw [htype]; rfl)

end Links

namespace Row

theorem get?_setCell (r : Row) (field : String) (value : Cell) (key : String) :
    (r.setCell field value).cells.get? key
      = if key = field then some value else r.cells.get? key :=
  Keyed.get?_insert r.cells field value key

/-! ### Storing cells -/

def store (r : Row) (entries : List (String × Cell)) : Row :=
  entries.foldl (fun out e => out.setCell e.1 e.2) r

/-- **What has no entry stays.** -/
theorem get?_store_of_notMem {entries : List (String × Cell)} {key : String}
    (h : key ∉ entries.map (·.1)) (r : Row) : (r.store entries).cells.get? key = r.cells.get? key := by
  induction entries generalizing r with
  | nil => rfl
  | cons e rest ih =>
    rw [List.map_cons, List.mem_cons, not_or] at h
    change ((r.setCell e.1 e.2).store rest).cells.get? key = _
    rw [ih h.2, get?_setCell, if_neg h.1]

/-- **What has one entry is found.** -/
theorem get?_store_of_mem {entries : List (String × Cell)} {key : String} {value : Cell}
    (hkeys : (entries.map (·.1)).Nodup) (h : (key, value) ∈ entries) (r : Row) :
    (r.store entries).cells.get? key = some value := by
  induction entries generalizing r with
  | nil => cases h
  | cons e rest ih =>
    rw [List.map_cons, List.nodup_cons] at hkeys
    change ((r.setCell e.1 e.2).store rest).cells.get? key = _
    rcases List.mem_cons.1 h with rfl | h
    · rw [get?_store_of_notMem hkeys.1, get?_setCell, if_pos rfl]
    · exact ih hkeys.2 h _

theorem header_store (entries : List (String × Cell)) (r : Row) :
    (r.store entries).id = r.id ∧ (r.store entries).created = r.created ∧
      (r.store entries).updated = r.updated := by
  induction entries generalizing r with
  | nil => exact ⟨rfl, rfl, rfl⟩
  | cons e rest ih => exact ih (r.setCell e.1 e.2)

theorem eq_of_get?_eq {r r' : Row} (hid : r.id = r'.id) (hcreated : r.created = r'.created)
    (hupdated : r.updated = r'.updated)
    (hcells : ∀ key, r.cells.get? key = r'.cells.get? key) : r = r' := by
  obtain ⟨id, cells, created, updated⟩ := r
  obtain ⟨id', cells', created', updated'⟩ := r'
  obtain rfl : cells = cells' := Keyed.ext hcells
  obtain rfl : id = id' := hid
  obtain rfl : created = created' := hcreated
  obtain rfl : updated = updated' := hupdated
  rfl

/-- **The order of entries does not matter** if each key has one. -/
theorem store_perm {entries entries' : List (String × Cell)} (h : entries.Perm entries')
    (hkeys : (entries.map (·.1)).Nodup) (r : Row) : r.store entries = r.store entries' := by
  have hkeys' : (entries'.map (·.1)).Nodup := (h.map (·.1)).nodup_iff.1 hkeys
  obtain ⟨hid, hcreated, hupdated⟩ := header_store entries r
  obtain ⟨hid', hcreated', hupdated'⟩ := header_store entries' r
  refine eq_of_get?_eq (hid.trans hid'.symm) (hcreated.trans hcreated'.symm)
    (hupdated.trans hupdated'.symm) fun key => ?_
  by_cases hkey : key ∈ entries.map (·.1)
  · obtain ⟨⟨k, value⟩, hmem, rfl⟩ := List.mem_map.1 hkey
    rw [get?_store_of_mem hkeys hmem, get?_store_of_mem hkeys' (h.mem_iff.1 hmem)]
  · have hkey' : key ∉ entries'.map (·.1) := fun hmem => hkey ((h.map (·.1)).mem_iff.2 hmem)
    rw [get?_store_of_notMem hkey, get?_store_of_notMem hkey']

/-- **Storing what is there changes nothing.** -/
theorem store_eq_self {entries : List (String × Cell)} {r : Row}
    (h : ∀ e ∈ entries, r.cells.get? e.1 = some e.2) : r.store entries = r := by
  induction entries with
  | nil => rfl
  | cons e rest ih =>
    have hfirst : r.setCell e.1 e.2 = r := by
      refine eq_of_get?_eq rfl rfl rfl fun key => ?_
      rw [get?_setCell]
      by_cases hkey : key = e.1
      · rw [if_pos hkey, hkey, h e List.mem_cons_self]
      · rw [if_neg hkey]
    show (r.setCell e.1 e.2).store rest = r
    rw [hfirst]
    exact ih fun e' he' => h e' (List.mem_cons_of_mem _ he')

/-! ### Links and timestamps -/

/-- What the first phase stores. -/
def linkEntries (fields : List Field) (registry : Registry) (source : Row) :
    List (String × Cell) :=
  (fields.filter (·.type.isLinked)).map fun f => (f.id, f.resolve source registry fields)

theorem fillLinks_eq (fields : List Field) (registry : Registry) (source : Row) :
    source.fillLinks fields registry = source.store (linkEntries fields registry source) := by
  rw [fillLinks, store, linkEntries, List.foldl_map]

/-- What the second phase stores. -/
def timestampEntries (fields : List Field) (r : Row) : List (String × Cell) :=
  fields.filterMap fun f => (r.timestampCell? f).map fun cell => (f.id, cell)

theorem fillTimestamps_eq (fields : List Field) (r : Row) :
    r.fillTimestamps fields = r.store (timestampEntries fields r) := by
  rw [fillTimestamps, store, timestampEntries, List.foldl_filterMap]
  congr 1
  funext out f
  cases r.timestampCell? f <;> rfl

theorem mem_linkEntries {fields : List Field} {registry : Registry} {r : Row}
    {e : String × Cell} : e ∈ linkEntries fields registry r ↔
      ∃ f ∈ fields, f.type.isLinked = true ∧ (f.id, f.resolve r registry fields) = e := by
  simp only [linkEntries, List.mem_map, List.mem_filter, and_assoc]

theorem mem_timestampEntries {fields : List Field} {r : Row} {e : String × Cell} :
    e ∈ timestampEntries fields r ↔
      ∃ f ∈ fields, ∃ cell, r.timestampCell? f = some cell ∧ (f.id, cell) = e := by
  simp only [timestampEntries, List.mem_filterMap, Option.map_eq_some_iff]

theorem timestampCell?_congr {r r' : Row} (hcreated : r.created = r'.created)
    (hupdated : r.updated = r'.updated) (f : Field) : r.timestampCell? f = r'.timestampCell? f := by
  unfold timestampCell?
  rw [hcreated, hupdated]

theorem timestampEntries_congr (fields : List Field) {r r' : Row} (hcreated : r.created = r'.created)
    (hupdated : r.updated = r'.updated) :
    timestampEntries fields r = timestampEntries fields r' := by
  unfold timestampEntries
  simp only [timestampCell?_congr hcreated hupdated]

theorem timestampCell?_of_isLinked {f : Field} (h : f.type.isLinked = true) (r : Row) :
    r.timestampCell? f = none := by
  unfold timestampCell?
  cases htype : f.type <;> simp [htype, FieldType.isLinked] at h ⊢

theorem keys_linkEntries (fields : List Field) (registry : Registry) (source : Row) :
    (linkEntries fields registry source).map (·.1)
      = (fields.filter (·.type.isLinked)).map (·.id) := by
  rw [linkEntries, List.map_map]
  rfl

theorem keys_timestampEntries_sublist (fields : List Field) (r : Row) :
    ((timestampEntries fields r).map (·.1)).Sublist (fields.map (·.id)) := by
  induction fields with
  | nil => exact .slnil
  | cons f rest ih =>
    rw [timestampEntries, List.filterMap_cons]
    cases h : r.timestampCell? f with
    | none => exact ih.cons f.id
    | some cell => exact ih.cons_cons f.id

def prepared (r : Row) (fields : List Field) (registry : Registry) : Row :=
  (r.fillLinks fields registry).fillTimestamps fields

section Prepared

variable {fields : List Field} {registry : Registry}

theorem timestampEntries_fillLinks (r : Row) :
    timestampEntries fields (r.fillLinks fields registry) = timestampEntries fields r := by
  obtain ⟨-, hcreated, hupdated⟩ := header_store (linkEntries fields registry r) r
  rw [fillLinks_eq]
  exact timestampEntries_congr fields hcreated hupdated

theorem prepared_eq (r : Row) :
    r.prepared fields registry
      = (r.store (linkEntries fields registry r)).store (timestampEntries fields r) := by
  rw [prepared, fillTimestamps_eq, timestampEntries_fillLinks, fillLinks_eq]

theorem nodup_keys_linkEntries (hids : (fields.map (·.id)).Nodup) (r : Row) :
    ((linkEntries fields registry r).map (·.1)).Nodup := by
  rw [keys_linkEntries]
  exact (List.filter_sublist.map _).nodup hids

theorem nodup_keys_timestampEntries (hids : (fields.map (·.id)).Nodup) (r : Row) :
    ((timestampEntries fields r).map (·.1)).Nodup :=
  (keys_timestampEntries_sublist fields r).nodup hids

theorem notMem_keys_timestampEntries (hids : (fields.map (·.id)).Nodup) (r : Row) {f : Field}
    (hf : f ∈ fields) (hlinked : f.type.isLinked = true) :
    f.id ∉ (timestampEntries fields r).map (·.1) := by
  intro hmem
  obtain ⟨e, he, hid⟩ := List.mem_map.1 hmem
  obtain ⟨p, hp, cell, hcell, rfl⟩ := mem_timestampEntries.1 he
  obtain rfl : p = f := Field.eq_of_id_eq hids hp hf hid
  rw [timestampCell?_of_isLinked hlinked] at hcell
  cases hcell

theorem get?_prepared_linked (hids : (fields.map (·.id)).Nodup) (r : Row) {f : Field}
    (hf : f ∈ fields) (hlinked : f.type.isLinked = true) :
    (r.prepared fields registry).cells.get? f.id = some (f.resolve r registry fields) := by
  rw [prepared_eq, get?_store_of_notMem (notMem_keys_timestampEntries hids r hf hlinked)]
  exact get?_store_of_mem (nodup_keys_linkEntries hids r)
    (mem_linkEntries.2 ⟨f, hf, hlinked, rfl⟩) r

theorem get?_prepared_timestamp (hids : (fields.map (·.id)).Nodup) (r : Row) {f : Field}
    {cell : Cell} (hf : f ∈ fields) (hcell : r.timestampCell? f = some cell) :
    (r.prepared fields registry).cells.get? f.id = some cell := by
  rw [prepared_eq]
  exact get?_store_of_mem (nodup_keys_timestampEntries hids r)
    (mem_timestampEntries.2 ⟨f, hf, cell, hcell, rfl⟩) _

theorem get?_prepared_other (r : Row) {key : String}
    (h : ∀ f ∈ fields, f.id = key → f.type.isLinked = false ∧ r.timestampCell? f = none) :
    (r.prepared fields registry).cells.get? key = r.cells.get? key := by
  rw [prepared_eq, get?_store_of_notMem, get?_store_of_notMem]
  · intro hmem
    obtain ⟨e, he, hid⟩ := List.mem_map.1 hmem
    obtain ⟨f, hf, hlinked, rfl⟩ := mem_linkEntries.1 he
    rw [(h f hf hid).1] at hlinked
    cases hlinked
  · intro hmem
    obtain ⟨e, he, hid⟩ := List.mem_map.1 hmem
    obtain ⟨f, hf, cell, hcell, rfl⟩ := mem_timestampEntries.1 he
    rw [(h f hf hid).2] at hcell
    cases hcell

end Prepared

/-! ### Formulas -/

section Formulas

variable {fields : List Field} {now : Instant}

theorem fillFormulas_append (first second : List FormulaStep) (r : Row) :
    (r.fillFormulas fields now (first ++ second)).1
      = ((r.fillFormulas fields now first).1.fillFormulas fields now second).1 := by
  induction first generalizing r with
  | nil => rfl
  | cons step rest ih => exact ih _

theorem get?_fillFormulas_of_notMem {steps : List FormulaStep} {key : String}
    (h : key ∉ steps.map (·.field)) (r : Row) :
    (r.fillFormulas fields now steps).1.cells.get? key = r.cells.get? key := by
  induction steps generalizing r with
  | nil => rfl
  | cons step rest ih =>
    rw [List.map_cons, List.mem_cons, not_or] at h
    exact (ih h.2 _).trans (by rw [get?_setCell, if_neg h.1])

theorem header_fillFormulas (fields : List Field) (now : Instant) (steps : List FormulaStep)
    (r : Row) :
    (r.fillFormulas fields now steps).1.id = r.id ∧
      (r.fillFormulas fields now steps).1.created = r.created ∧
      (r.fillFormulas fields now steps).1.updated = r.updated := by
  induction steps generalizing r with
  | nil => exact ⟨rfl, rfl, rfl⟩
  | cons step rest ih => exact ih _

end Formulas

end Row

namespace CalculationPlan

def stepsOf (fields : List Field) (ids : List String) : List FormulaStep :=
  (ids.filterMap (Field.withId? fields)).filterMap step?

theorem stepsOf_append (fields : List Field) (first second : List String) :
    stepsOf fields (first ++ second) = stepsOf fields first ++ stepsOf fields second := by
  rw [stepsOf, List.filterMap_append, List.filterMap_append]
  rfl

theorem field_of_step? {f : Field} {step : FormulaStep} (h : step? f = some step) :
    step.field = f.id := by
  obtain ⟨expression, -, rfl⟩ := Option.map_eq_some_iff.1 h
  rfl

theorem keys_stepsOf_sublist (fields : List Field) (ids : List String) :
    ((stepsOf fields ids).map (·.field)).Sublist ids := by
  induction ids with
  | nil => exact .slnil
  | cons id rest ih =>
    rw [stepsOf, List.filterMap_cons]
    cases hfield : Field.withId? fields id with
    | none => exact ih.cons id
    | some f =>
      have hid : f.id = id := Field.id_of_withId? hfield
      change (((f :: rest.filterMap (Field.withId? fields)).filterMap step?).map (·.field)).Sublist _
      rw [List.filterMap_cons]
      cases hstep : step? f with
      | none => exact ih.cons id
      | some step =>
        have hstepId : step.field = id := (field_of_step? hstep).trans hid
        rw [← hstepId]
        exact ih.cons_cons step.field

theorem stepsOf_cons {fields : List Field} (hids : (fields.map (·.id)).Nodup) {f : Field}
    {expression : String} (hf : f ∈ fields) (htype : f.type = .formula expression)
    (rest : List String) :
    ∃ isVolatile, stepsOf fields (f.id :: rest)
      = ⟨f.id, expression, isVolatile⟩ :: stepsOf fields rest := by
  have hstep : ∃ isVolatile, step? f = some ⟨f.id, expression, isVolatile⟩ := by
    unfold step?
    rw [htype]
    exact ⟨_, rfl⟩
  obtain ⟨isVolatile, hstep⟩ := hstep
  refine ⟨isVolatile, ?_⟩
  rw [stepsOf, List.filterMap_cons, Field.withId?_of_mem hids hf]
  change (f :: rest.filterMap (Field.withId? fields)).filterMap step? = _
  rw [List.filterMap_cons, hstep]
  rfl

end CalculationPlan

/-! ### Formulas by their ids -/

namespace Row

variable {fields : List Field} {now : Instant}

def computed (r : Row) (fields : List Field) (now : Instant) (ids : List String) : Row :=
  (r.fillFormulas fields now (CalculationPlan.stepsOf fields ids)).1

theorem header_computed (r : Row) (ids : List String) :
    (r.computed fields now ids).id = r.id ∧ (r.computed fields now ids).created = r.created ∧
      (r.computed fields now ids).updated = r.updated :=
  header_fillFormulas fields now _ r

theorem computed_append (first second : List String) (r : Row) :
    r.computed fields now (first ++ second)
      = (r.computed fields now first).computed fields now second := by
  rw [computed, CalculationPlan.stepsOf_append, fillFormulas_append]
  rfl

theorem get?_computed_of_notMem {ids : List String} {key : String} (h : key ∉ ids) (r : Row) :
    (r.computed fields now ids).cells.get? key = r.cells.get? key :=
  get?_fillFormulas_of_notMem
    (fun hmem => h ((CalculationPlan.keys_stepsOf_sublist fields ids).subset hmem)) r

/-- Formulas that are computed later change only their own cells. -/
theorem get?_computed_append {first second : List String} {key : String} (h : key ∉ second)
    (r : Row) :
    (r.computed fields now (first ++ second)).cells.get? key
      = (r.computed fields now first).cells.get? key := by
  rw [computed_append]
  exact get?_computed_of_notMem h _

/-- **The cell of a formula** is computed from the row as it is when its turn comes. -/
theorem get?_computed_formula (hids : (fields.map (·.id)).Nodup) {f : Field} {expression : String}
    (hf : f ∈ fields) (htype : f.type = .formula expression) {front back : List String}
    (hback : f.id ∉ back) (r : Row) :
    (r.computed fields now (front ++ f.id :: back)).cells.get? f.id
      = some (Formula.cell expression ⟨r.computed fields now front, fields, now⟩) := by
  obtain ⟨isVolatile, hstep⟩ := CalculationPlan.stepsOf_cons hids hf htype back
  rw [computed_append, computed, hstep]
  refine (get?_fillFormulas_of_notMem
    (fun hmem => hback ((CalculationPlan.keys_stepsOf_sublist fields back).subset hmem)) _).trans ?_
  rw [get?_setCell, if_pos rfl]

end Row

/-! ### A calculated row -/

namespace Table

variable {t : Table} {registry : Registry} {now : Instant}

/-- The row in the middle of the formulas, with those of some ids computed. -/
def midway (t : Table) (row : Row) (registry : Registry) (now : Instant) (ids : List String) : Row :=
  ((row.prepared t.fields registry).fillFormulas t.fields now
    (CalculationPlan.stepsOf t.fields ids)).1

theorem computeRow_eq_midway (row : Row) :
    t.computeRow row registry (.full now)
      = t.midway row registry now (Schedule.ofFields t.fields).all := rfl

theorem get?_midway_of_notMem {ids : List String} {key : String} (h : key ∉ ids) (row : Row) :
    (t.midway row registry now ids).cells.get? key
      = (row.prepared t.fields registry).cells.get? key :=
  Row.get?_computed_of_notMem h _

theorem get?_midway_append {first second : List String} {key : String} (h : key ∉ second)
    (row : Row) :
    (t.midway row registry now (first ++ second)).cells.get? key
      = (t.midway row registry now first).cells.get? key :=
  Row.get?_computed_append h _

theorem get?_midway_formula (hids : (t.fields.map (·.id)).Nodup) {f : Field} {expression : String}
    (hf : f ∈ t.fields) (htype : f.type = .formula expression) {front back : List String}
    (hback : f.id ∉ back) (row : Row) :
    (t.midway row registry now (front ++ f.id :: back)).cells.get? f.id
      = some (Formula.cell expression ⟨t.midway row registry now front, t.fields, now⟩) :=
  Row.get?_computed_formula hids hf htype hback _

end Table

/-! ### Some of the phases -/

namespace Row

variable {fields : List Field} {registry : Registry} {options : CalculationOptions}

/-- What is stored before the formulas are computed, by the phases that are asked for. -/
def filledEntries (fields : List Field) (registry : Registry) (options : CalculationOptions)
    (r : Row) : List (String × Cell) :=
  (if options.resolveLinks then linkEntries fields registry r else []) ++
    if options.fillTimestamps then timestampEntries fields r else []

theorem store_append (first second : List (String × Cell)) (r : Row) :
    r.store (first ++ second) = (r.store first).store second := List.foldl_append

theorem filledEntries_sublist (r : Row) : (filledEntries fields registry options r).Sublist
    (linkEntries fields registry r ++ timestampEntries fields r) := by
  refine List.Sublist.append ?_ ?_
  · cases options.resolveLinks
    · exact List.nil_sublist _
    · exact .refl _
  · cases options.fillTimestamps
    · exact List.nil_sublist _
    · exact .refl _

theorem nodup_keys_filledEntries (hids : (fields.map (·.id)).Nodup) (r : Row) :
    ((filledEntries fields registry options r).map (·.1)).Nodup := by
  refine List.Nodup.sublist ((filledEntries_sublist r).map _) ?_
  rw [List.map_append, List.nodup_append]
  refine ⟨nodup_keys_linkEntries hids r, nodup_keys_timestampEntries hids r, ?_⟩
  rintro key hlink _ htime rfl
  obtain ⟨e, he, rfl⟩ := List.mem_map.1 hlink
  obtain ⟨f, hf, hlinked, rfl⟩ := mem_linkEntries.1 he
  exact notMem_keys_timestampEntries hids r hf hlinked htime

theorem exists_field_of_mem_filledEntries {r : Row} {e : String × Cell}
    (h : e ∈ filledEntries fields registry options r) :
    ∃ f ∈ fields, f.id = e.1 ∧ ∀ expression, f.type ≠ .formula expression := by
  rcases List.mem_append.1 ((filledEntries_sublist r).subset h) with h | h
  · obtain ⟨f, hf, hlinked, rfl⟩ := mem_linkEntries.1 h
    refine ⟨f, hf, rfl, fun expression htype => ?_⟩
    rw [htype] at hlinked
    cases hlinked
  · obtain ⟨f, hf, cell, hcell, rfl⟩ := mem_timestampEntries.1 h
    refine ⟨f, hf, rfl, fun expression htype => ?_⟩
    rw [timestampCell?, htype] at hcell
    cases hcell

end Row

namespace Table

/-- **A row calculated by the phases that are asked for.** -/
theorem computeRow_eq_filled (t : Table) (row : Row) (registry : Registry)
    (options : CalculationOptions) :
    t.computeRow row registry options =
      if options.evaluateFormulas then
        (row.store (row.filledEntries t.fields registry options)).computed t.fields options.now
          (Schedule.ofFields t.fields).all
      else row.store (row.filledEntries t.fields registry options) := by
  have hfilled : row.store (row.filledEntries t.fields registry options) =
      let linked := if options.resolveLinks then row.fillLinks t.fields registry else row
      if options.fillTimestamps then linked.fillTimestamps t.fields else linked := by
    have hinstants : Row.timestampEntries t.fields (row.fillLinks t.fields registry)
        = Row.timestampEntries t.fields row := Row.timestampEntries_fillLinks row
    rw [Row.filledEntries, Row.store_append]
    cases options.resolveLinks with
    | true =>
      rw [if_pos rfl, ← Row.fillLinks_eq, ← hinstants]
      cases options.fillTimestamps with
      | true => exact (Row.fillTimestamps_eq _ _).symm
      | false => rfl
    | false =>
      cases options.fillTimestamps with
      | true => exact (Row.fillTimestamps_eq _ _).symm
      | false => rfl
  rw [hfilled]
  show (CalculationPlan.run _ registry options row).1 = _
  unfold CalculationPlan.run
  cases options.evaluateFormulas with
  | true => rfl
  | false => rfl

end Table

end Fieldbook
