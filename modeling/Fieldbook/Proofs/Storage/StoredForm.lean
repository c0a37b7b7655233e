import Mathlib.Data.List.Forall2
import Fieldbook.Json.Model
import Fieldbook.Proofs.Keyed
import Fieldbook.Proofs.Time.StoredText

/-!
# The stored form read back

Whatever the model writes is read back as it was, if its numbers are finite and its instants lie in the
years 0 to 9999 (`Database.IsPlain` and its like).  Only a timestamp in a leap second that does not end a
minute is read back as it is shown, as the next second (`Row.asShown` and its like).  Cells and hidden
fields have no order of their own, so `Written` allows them in any.  Each type has its own law of
reading, made of those of its parts; a list is read back item by item (`mapM_of_forall₂`).
-/

namespace Fieldbook

/-! ### Lists and optional texts -/

/-- What is written item by item is read back item by item. -/
theorem mapM_of_forall₂ {α β : Type} {written : α → β → Prop} {read : β → Option α} (back : α → α)
    {items : List α} {forms : List β} (h : List.Forall₂ written items forms)
    (hread : ∀ a ∈ items, ∀ b, written a b → read b = some (back a)) :
    forms.mapM read = some (items.map back) := by
  induction h with
  | nil => rfl
  | cons hwritten _ ih =>
    rw [List.mapM_cons, hread _ List.mem_cons_self _ hwritten,
      ih fun a ha => hread a (List.mem_cons_of_mem _ ha)]
    rfl

theorem mapM_of_forall₂_self {α β : Type} {written : α → β → Prop} {read : β → Option α}
    {items : List α} {forms : List β} (h : List.Forall₂ written items forms)
    (hread : ∀ a ∈ items, ∀ b, written a b → read b = some a) : forms.mapM read = some items := by
  rw [mapM_of_forall₂ id h hread, List.map_id]

theorem forall₂_map {α β : Type} {written : α → β → Prop} {write : α → β} (items : List α)
    (h : ∀ a, written a (write a)) : List.Forall₂ written items (items.map write) := by
  rw [List.forall₂_map_right_iff, List.forall₂_same]
  exact fun a _ => h a

theorem mapM_map {α β : Type} {read : β → Option α} {write : α → β} {items : List α}
    (h : ∀ a ∈ items, read (write a) = some a) : (items.map write).mapM read = some items := by
  refine mapM_of_forall₂_self (forall₂_map items fun a => (rfl : write a = write a)) ?_
  rintro a ha b rfl
  exact h a ha

theorem map_eq_self_iff {α : Type} {f : α → α} {items : List α} :
    items.map f = items ↔ ∀ a ∈ items, f a = a := by
  have h := List.map_inj_left (l := items) (f := f) (g := id)
  rwa [List.map_id] at h

namespace Json

theorem array?_ofStrings (items : List String) : array? string? (ofStrings items) = some items :=
  mapM_map fun _ _ => rfl

theorem optional?_ofOption (text : Option String) :
    optional? string? (some (ofOption text)) = some text := by
  cases text <;> rfl

end Json

/-! ### Cells and instants -/

namespace Cell

theorem ofJson?_toJson {c : Cell} (h : c.isFinite = true) : ofJson? c.toJson = some c := by
  cases c with
  | number n =>
    have hn : n.isFinite = true := h
    simp [toJson, ofJson?, hn]
  | list items =>
    show (Json.array? Json.string? (.ofStrings items)).map list = some (list items)
    rw [Json.array?_ofStrings]
    rfl
  | null | bool | text => rfl

theorem object?_toJson {cells : List (String × Cell)} (h : ∀ e ∈ cells, e.2.isFinite = true) :
    Json.object? ofJson? (.object (cells.map fun e => (e.1, e.2.toJson))) = some cells := by
  refine mapM_map fun e he => ?_
  show (ofJson? e.2.toJson).map (e.1, ·) = some e
  rw [ofJson?_toJson (h e he)]
  rfl

end Cell

namespace Instant

/-- The years that are written with four digits and no sign. -/
def IsPlain (i : Instant) : Prop := 0 ≤ i.date.year ∧ i.date.year ≤ 9999

instance (i : Instant) : Decidable i.IsPlain := inferInstanceAs (Decidable (_ ∧ _))

theorem ofJson?_toJson {i : Instant} (h : i.IsPlain) : ofJson? i.toJson = some i.asShown := by
  unfold toJson ofJson? Json.string?
  rw [Option.bind_some, String.toList_ofList, readStored?_exactText h]

end Instant

/-! ### Fields -/

namespace Aggregation

theorem ofJson?_toJson (a : Aggregation) : ofJson? a.toJson = some a := by
  cases a <;> rfl

end Aggregation

namespace FieldType

theorem ofJson?_toJson (t : FieldType) : ofJson? t.toJson = some t := by
  cases t with
  | relation spec =>
    obtain ⟨target, display, multiple⟩ := spec
    cases display <;> rfl
  | rollup spec =>
    obtain ⟨source, aggregation⟩ := spec
    cases aggregation <;> rfl
  | _ => rfl

end FieldType

theorem Field.ofJson?_toJson (f : Field) : ofJson? f.toJson = some f := by
  obtain ⟨id, name, type⟩ := f
  show (FieldType.ofJson? type.toJson).bind (fun type => some (Field.mk id name type)) = _
  rw [FieldType.ofJson?_toJson]
  rfl

/-! ### Views -/

theorem FilterOperator.ofName_name (operator : FilterOperator) :
    ofName operator.name = operator := by
  cases operator <;> rfl

theorem Filter.ofJson?_toJson (f : Filter) : ofJson? f.toJson = some f := by
  obtain ⟨field, operator, value⟩ := f
  show some (Filter.mk field (.ofName operator.name) value) = _
  rw [FilterOperator.ofName_name]

theorem SortKey.ofJson?_toJson (k : SortKey) : ofJson? k.toJson = some k := by
  obtain ⟨field, direction⟩ := k
  cases direction <;> rfl

namespace View

/-- **The JSON of a view**, its hidden fields in any order. -/
def Written (v : View) (json : Json) : Prop :=
  ∃ hidden, hidden.Perm v.hiddenFields.keys ∧ json = v.toJsonWith hidden

theorem written_toJson (v : View) : v.Written v.toJson := ⟨_, .refl _, rfl⟩

theorem ofJson?_members (id name : String) (filters sorts : List Json)
    (groupBy hidden fieldOrder : Json) :
    ofJson? (.object [("id", .string id), ("name", .string name), ("filters", .array filters),
      ("sorts", .array sorts), ("group_by", groupBy), ("hidden_fields", hidden),
      ("field_order", fieldOrder)])
      = (filters.mapM Filter.ofJson?).bind fun filters =>
        (sorts.mapM SortKey.ofJson?).bind fun sorts =>
        (Json.optional? Json.string? (some groupBy)).bind fun groupBy =>
        (Json.array? Json.string? hidden).bind fun hidden =>
        (Json.array? Json.string? fieldOrder).bind fun fieldOrder =>
        some ⟨id, name, filters, sorts, groupBy, .ofNames hidden, fieldOrder⟩ :=
  rfl

theorem ofJson?_of_written {v : View} {json : Json} (h : v.Written json) :
    ofJson? json = some v := by
  obtain ⟨hidden, hperm, rfl⟩ := h
  have hnames : NameSet.ofNames hidden = v.hiddenFields := by
    rw [NameSet.ofNames_congr fun k => hperm.mem_iff, NameSet.ofNames_keys]
  unfold toJsonWith
  rw [ofJson?_members, mapM_map fun f _ => f.ofJson?_toJson, Option.bind_some,
    mapM_map fun k _ => k.ofJson?_toJson, Option.bind_some, Json.optional?_ofOption,
    Option.bind_some, Json.array?_ofStrings, Option.bind_some, Json.array?_ofStrings,
    Option.bind_some, hnames]

end View

/-! ### Rows, tables and databases -/

namespace Row

/-- Only finite numbers, and instants in years of four digits. -/
structure IsPlain (r : Row) : Prop where
  cells : ∀ e ∈ r.cells.entries, e.2.isFinite = true
  created : r.created.IsPlain
  updated : r.updated.IsPlain

instance (r : Row) : Decidable r.IsPlain :=
  decidable_of_iff ((∀ e ∈ r.cells.entries, e.2.isFinite = true) ∧ r.created.IsPlain ∧
      r.updated.IsPlain)
    ⟨fun ⟨cells, created, updated⟩ => ⟨cells, created, updated⟩,
      fun ⟨cells, created, updated⟩ => ⟨cells, created, updated⟩⟩

/-- No leap second but at the end of a minute. -/
def OnClock (r : Row) : Prop := r.created.OnClock ∧ r.updated.OnClock

instance (r : Row) : Decidable r.OnClock := inferInstanceAs (Decidable (_ ∧ _))

/-- The row with its timestamps as they are shown. -/
def asShown (r : Row) : Row := { r with created := r.created.asShown, updated := r.updated.asShown }

theorem asShown_eq_self_iff {r : Row} : r.asShown = r ↔ r.OnClock := by
  obtain ⟨id, cells, created, updated⟩ := r
  rw [asShown, OnClock, Row.mk.injEq, Instant.asShown_eq_self_iff, Instant.asShown_eq_self_iff]
  simp only [true_and]

/-- **The JSON of a row**, its cells in any order. -/
def Written (r : Row) (json : Json) : Prop :=
  ∃ cells, cells.Perm r.cells.entries ∧ json = r.toJsonWith cells

theorem written_toJson (r : Row) : r.Written r.toJson := ⟨_, .refl _, rfl⟩

theorem ofJson?_members (id : String) (cells created updated : Json) :
    ofJson? (.object [("id", .string id), ("cells", cells), ("created_at", created),
      ("updated_at", updated)])
      = (Json.object? Cell.ofJson? cells).bind fun cells =>
        (Instant.ofJson? created).bind fun created =>
        (Instant.ofJson? updated).bind fun updated => some ⟨id, .ofList cells, created, updated⟩ :=
  rfl

theorem ofJson?_of_written {r : Row} (h : r.IsPlain) {json : Json} (hjson : r.Written json) :
    ofJson? json = some r.asShown := by
  obtain ⟨cells, hperm, rfl⟩ := hjson
  obtain ⟨hcells, hcreated, hupdated⟩ := h
  have hread := Cell.object?_toJson fun e he => hcells e (hperm.mem_iff.1 he)
  unfold toJsonWith
  rw [ofJson?_members, hread, Option.bind_some, Instant.ofJson?_toJson hcreated, Option.bind_some,
    Instant.ofJson?_toJson hupdated, Option.bind_some, Keyed.ofList_perm hperm]
  rfl

end Row

namespace Table

def IsPlain (t : Table) : Prop := ∀ r ∈ t.rows, r.IsPlain

instance (t : Table) : Decidable t.IsPlain := inferInstanceAs (Decidable (∀ r ∈ t.rows, r.IsPlain))

def OnClock (t : Table) : Prop := ∀ r ∈ t.rows, r.OnClock

instance (t : Table) : Decidable t.OnClock := inferInstanceAs (Decidable (∀ r ∈ t.rows, r.OnClock))

def asShown (t : Table) : Table := { t with rows := t.rows.map Row.asShown }

theorem asShown_eq_self_iff {t : Table} : t.asShown = t ↔ t.OnClock := by
  obtain ⟨id, name, fields, rows, views⟩ := t
  rw [asShown, OnClock, Table.mk.injEq]
  simp only [true_and, and_true, map_eq_self_iff, Row.asShown_eq_self_iff]

/-- **The JSON of a table**, with the JSON of its rows and views. -/
def Written (t : Table) (json : Json) : Prop :=
  ∃ rows views, List.Forall₂ Row.Written t.rows rows ∧ List.Forall₂ View.Written t.views views ∧
    json = t.toJsonWith rows views

theorem written_toJson (t : Table) : t.Written t.toJson :=
  ⟨_, _, forall₂_map _ Row.written_toJson, forall₂_map _ View.written_toJson, rfl⟩

theorem ofJson?_members (id name : String) (fields rows views : List Json) :
    ofJson? (.object [("id", .string id), ("name", .string name), ("fields", .array fields),
      ("rows", .array rows), ("views", .array views)])
      = (fields.mapM Field.ofJson?).bind fun fields =>
        (rows.mapM Row.ofJson?).bind fun rows =>
        (views.mapM View.ofJson?).bind fun views => some ⟨id, name, fields, rows, views⟩ :=
  rfl

theorem ofJson?_of_written {t : Table} (h : t.IsPlain) {json : Json} (hjson : t.Written json) :
    ofJson? json = some t.asShown := by
  obtain ⟨rows, views, hrows, hviews, rfl⟩ := hjson
  unfold toJsonWith
  rw [ofJson?_members, mapM_map fun f _ => f.ofJson?_toJson, Option.bind_some,
    mapM_of_forall₂ Row.asShown hrows fun r hr _ => Row.ofJson?_of_written (h r hr), Option.bind_some,
    mapM_of_forall₂_self hviews fun _ _ _ => View.ofJson?_of_written, Option.bind_some]
  rfl

end Table

namespace Database

def IsPlain (db : Database) : Prop := ∀ t ∈ db.tables, t.IsPlain

instance (db : Database) : Decidable db.IsPlain :=
  inferInstanceAs (Decidable (∀ t ∈ db.tables, t.IsPlain))

def OnClock (db : Database) : Prop := ∀ t ∈ db.tables, t.OnClock

instance (db : Database) : Decidable db.OnClock :=
  inferInstanceAs (Decidable (∀ t ∈ db.tables, t.OnClock))

def asShown (db : Database) : Database := ⟨db.tables.map Table.asShown⟩

theorem asShown_eq_self_iff {db : Database} : db.asShown = db ↔ db.OnClock := by
  obtain ⟨tables⟩ := db
  rw [asShown, OnClock, Database.mk.injEq]
  simp only [map_eq_self_iff, Table.asShown_eq_self_iff]

/-- **The JSON of a database**, with the JSON of its tables. -/
def Written (db : Database) (json : Json) : Prop :=
  ∃ tables, List.Forall₂ Table.Written db.tables tables ∧ json = .object [("tables", .array tables)]

theorem written_toJson (db : Database) : db.Written db.toJson :=
  ⟨_, forall₂_map _ Table.written_toJson, rfl⟩

theorem ofJson?_of_written {db : Database} (h : db.IsPlain) {json : Json} (hjson : db.Written json) :
    ofJson? json = some db.asShown := by
  obtain ⟨tables, htables, rfl⟩ := hjson
  show (tables.mapM Table.ofJson?).map Database.mk = _
  rw [mapM_of_forall₂ Table.asShown htables fun t ht _ => Table.ofJson?_of_written (h t ht)]
  rfl

/-- **Whatever is written is read back as it was**, timestamps as they are shown: exactly, unless one is
in a leap second that does not end a minute. -/
theorem reads_back :
    (∀ c : Cell, c.isFinite = true → Cell.ofJson? c.toJson = some c)
    ∧ (∀ f : Field, Field.ofJson? f.toJson = some f)
    ∧ (∀ f : Filter, Filter.ofJson? f.toJson = some f)
    ∧ (∀ k : SortKey, SortKey.ofJson? k.toJson = some k)
    ∧ (∀ v : View, v.Written v.toJson ∧ ∀ json, v.Written json → View.ofJson? json = some v)
    ∧ (∀ r : Row, r.Written r.toJson
        ∧ (r.IsPlain → ∀ json, r.Written json → Row.ofJson? json = some r.asShown)
        ∧ (r.asShown = r ↔ r.OnClock))
    ∧ (∀ t : Table, t.Written t.toJson
        ∧ (t.IsPlain → ∀ json, t.Written json → Table.ofJson? json = some t.asShown)
        ∧ (t.asShown = t ↔ t.OnClock))
    ∧ (∀ db : Database, db.Written db.toJson
        ∧ (db.IsPlain → ∀ json, db.Written json → Database.ofJson? json = some db.asShown)
        ∧ (db.asShown = db ↔ db.OnClock)) :=
  ⟨fun _ => Cell.ofJson?_toJson, Field.ofJson?_toJson, Filter.ofJson?_toJson,
    SortKey.ofJson?_toJson, fun v => ⟨v.written_toJson, fun _ => View.ofJson?_of_written⟩,
    fun r => ⟨r.written_toJson, fun h _ => Row.ofJson?_of_written h, Row.asShown_eq_self_iff⟩,
    fun t => ⟨t.written_toJson, fun h _ => Table.ofJson?_of_written h, Table.asShown_eq_self_iff⟩,
    fun db => ⟨db.written_toJson, fun h _ => ofJson?_of_written h, asShown_eq_self_iff⟩⟩

/-- Every kind of cell, half a second into a leap second, a filter of an unknown kind. -/
def ledger : Database where
  tables := [
    { id := "ledger", name := "Ledger"
      fields := [⟨"link", "Link", .relation ⟨"people", none, true⟩⟩,
        ⟨"count", "Count", .rollup ⟨⟨"link", "name"⟩, .percentFilled⟩⟩,
        ⟨"twice", "Twice", .formula "{Count} * 2"⟩]
      rows := [
        { id := "l1"
          cells := .ofList [("paid", .bool true), ("note", .text "null"), ("sum", .number (-3 / 8)),
            ("link", .list ["p1", "p2"]), ("empty", .null)]
          created := ⟨1483228799, 1500000000, by decide⟩
          updated := ⟨-62167219200, 1, by decide⟩ }]
      views := [
        { id := "open", name := "Open", filters := [⟨"paid", .unknown, "?"⟩]
          sorts := [⟨"sum", .descending⟩], groupBy := some "note"
          hiddenFields := .ofNames ["twice", "link"], fieldOrder := ["sum", "paid"] }] }]

theorem reads_back_ledger :
    ledger.IsPlain ∧ Database.ofJson? ledger.toJson = some ledger := by
  have hplain : ledger.IsPlain := by decide +kernel
  obtain ⟨-, -, -, -, -, -, -, hread⟩ := reads_back
  obtain ⟨hwritten, hback, hexact⟩ := hread ledger
  have hsame : ledger.asShown = ledger := hexact.2 (by decide +kernel)
  have hledger := hback hplain _ hwritten
  rw [hsame] at hledger
  exact ⟨hplain, hledger⟩

/-- A row made half a second into a leap second after the first second of 1970 is read back as made in
the second after it. -/
theorem not_reads_back_in_minute :
    let leap : Row := ⟨"r1", .ofList [], ⟨0, 1500000000, by decide⟩, default⟩
    let next : Row := ⟨"r1", .ofList [], ⟨1, 500000000, by decide⟩, default⟩
    leap.IsPlain ∧ Row.ofJson? leap.toJson = some next ∧ next ≠ leap := by
  decide +kernel

end Database

end Fieldbook
