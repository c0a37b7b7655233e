import Fieldbook.Proofs.Calculation.Phases
import Fieldbook.Proofs.View.EmptyKeys

/-!
# Links that are followed

A lookup or a rollup reads its cells in three searches, each for the first with an id: the field that
holds the links, the table they lead to, and a row for each link.  Here that is said by relations, one
rule for each thing that can happen: what a cell stores as links (`Cell.Stores`), the rows that they
lead to (`Table.Follows`), the cells that are read (`LookupSpec.Gathers`) and what becomes of them
(`FieldType.Reduces`).  The functions compute these relations, and `Field.resolve_through_links` puts
them together.  Only links with a row count (`LookupSpec.cells?_eq_of_matched`), so that links without
one may come and go.
-/

namespace Fieldbook

/-! ### The first with a key -/

def IsFirst {α : Type} (key : α → String) (items : List α) (k : String) (a : α) : Prop :=
  key a = k ∧ ∃ before after, items = before ++ a :: after ∧ ∀ b ∈ before, key b ≠ k

theorem isFirst_iff {α : Type} {key : α → String} {items : List α} {k : String} {a : α} :
    IsFirst key items k a ↔ items.find? (key · == k) = some a := by
  rw [List.find?_eq_some_iff_append, beq_iff_eq]
  simp [IsFirst]

/-! ### Links and their rows -/

/-- **What a cell stores as links.** -/
inductive Cell.Stores : Cell → List String → Prop
  | null : Stores null []
  | emptyText : Stores (text "") []
  | list (ids : List String) : Stores (list ids) ids
  /-- Any other cell links to one row, by its text. -/
  | one {c : Cell} (hlist : c.list? = none) (htext : c.display ≠ "") : Stores c [c.display]

theorem Cell.stores_iff {c : Cell} {ids : List String} : c.Stores ids ↔ c.links = ids := by
  constructor
  · rintro (_ | _ | _ | ⟨hlist, htext⟩)
    · rfl
    · rfl
    · rfl
    · cases c with
      | list items => cases hlist
      | null => exact absurd rfl htext
      | _ => exact if_neg htext
  · rintro rfl
    cases c with
    | null => exact .null
    | list items => exact .list items
    | bool b =>
      have htext : (bool b).display ≠ "" := boolText_ne_empty b
      rw [show (bool b).links = [(bool b).display] from if_neg htext]
      exact .one rfl htext
    | number n =>
      have htext : (number n).display ≠ "" := n.text_ne_empty
      rw [show (number n).links = [(number n).display] from if_neg htext]
      exact .one rfl htext
    | text s =>
      by_cases htext : s = ""
      · subst htext
        exact .emptyText
      · rw [show (text s).links = [(text s).display] from if_neg htext]
        exact .one rfl htext

/-- **The rows that links lead to**, in the order of the links. -/
inductive Table.Follows (t : Table) : List String → List Row → Prop
  | done : t.Follows [] []
  | found {id : String} {ids : List String} {r : Row} {rows : List Row}
      (hrow : IsFirst Row.id t.rows id r) (hrest : t.Follows ids rows) :
      t.Follows (id :: ids) (r :: rows)
  /-- A link without a row is passed over. -/
  | dangling {id : String} {ids : List String} {rows : List Row} (hrow : ∀ r ∈ t.rows, r.id ≠ id)
      (hrest : t.Follows ids rows) : t.Follows (id :: ids) rows

theorem Table.row?_eq_none_iff {t : Table} {id : String} :
    t.row? id = none ↔ ∀ r ∈ t.rows, r.id ≠ id := by
  unfold row?
  rw [List.find?_eq_none]
  simp

theorem Table.follows_iff {t : Table} {ids : List String} {rows : List Row} :
    t.Follows ids rows ↔ ids.filterMap t.row? = rows := by
  constructor
  · intro h
    induction h with
    | done => rfl
    | @found id _ r _ hrow _ ih =>
      have hfound : t.row? id = some r := isFirst_iff.1 hrow
      rw [List.filterMap_cons_some hfound, ih]
    | dangling hrow _ ih => rw [List.filterMap_cons_none (row?_eq_none_iff.2 hrow), ih]
  · rintro rfl
    induction ids with
    | nil => exact .done
    | cons id ids ih =>
      cases hrow : t.row? id with
      | none =>
        rw [List.filterMap_cons_none hrow]
        exact .dangling (row?_eq_none_iff.1 hrow) ih
      | some r =>
        rw [List.filterMap_cons_some hrow]
        exact .found (isFirst_iff.2 hrow) ih

def Registry.hasRow (registry : Registry) (table id : String) : Bool :=
  (registry table).any fun t => t.rows.any (·.id == id)

theorem Registry.related_filter_hasRow (registry : Registry) (table : String) (ids : List String) :
    registry.related table (ids.filter (registry.hasRow table)) = registry.related table ids := by
  unfold related hasRow
  cases registry table with
  | none => rfl
  | some t =>
    show (ids.filter fun id => t.rows.any (·.id == id)).filterMap t.row? = ids.filterMap t.row?
    rw [List.filterMap_filter]
    refine List.filterMap_congr fun id _ => ?_
    split
    · rfl
    · rename_i hnone
      refine (Table.row?_eq_none_iff.2 fun r hr heq => hnone ?_).symm
      exact List.any_eq_true.2 ⟨r, hr, by simpa using heq⟩

/-! ### The cells that are read -/

theorem Field.linkSpec?_eq_some_iff {fields : List Field} {id : String} {link : LinkSpec} :
    linkSpec? fields id = some link ↔
      ∃ via, IsFirst Field.id fields id via ∧ via.type = .relation link := by
  simp only [isFirst_iff]
  unfold linkSpec?
  show _ ↔ ∃ via, withId? fields id = some via ∧ _
  split
  · rename_i via name spec hvia
    rw [hvia]
    constructor
    · intro h
      exact ⟨_, rfl, by rw [Option.some.inj h]⟩
    · rintro ⟨_, hfirst, htype⟩
      cases hfirst
      exact congrArg some (FieldType.relation.inj htype)
  · rename_i hnone
    constructor
    · intro h
      cases h
    · rintro ⟨⟨via, name, type⟩, hvia, rfl⟩
      exact absurd hvia (hnone via name link)

namespace LookupSpec

variable {spec : LookupSpec} {fields : List Field} {registry : Registry} {row row' : Row}
  {cells : List Cell} {link : LinkSpec}

/-- **The cells that are read through links.** -/
inductive Gathers (registry : Registry) (fields : List Field) (row : Row) (spec : LookupSpec) :
    List Cell → Prop
  | known {via : Field} {link : LinkSpec} {t : Table} {ids : List String} {rows : List Row}
      (hvia : IsFirst Field.id fields spec.via via) (htype : via.type = .relation link)
      (htable : registry link.targetTable = some t) (hlinks : (row.cell spec.via).Stores ids)
      (hrows : t.Follows ids rows) : Gathers registry fields row spec (rows.map (·.cell spec.target))
  /-- An unknown table has no rows. -/
  | unknown {via : Field} {link : LinkSpec} (hvia : IsFirst Field.id fields spec.via via)
      (htype : via.type = .relation link) (htable : registry link.targetTable = none) :
      Gathers registry fields row spec []

theorem gathers_iff :
    spec.Gathers registry fields row cells ↔ spec.cells? row registry fields = some cells := by
  unfold cells? Registry.related
  constructor
  · rintro (⟨hvia, htype, htable, hlinks, hrows⟩ | ⟨hvia, htype, htable⟩)
    · rw [Field.linkSpec?_eq_some_iff.2 ⟨_, hvia, htype⟩, Option.map_some, htable,
        Cell.stores_iff.1 hlinks, ← Table.follows_iff.1 hrows]
    · rw [Field.linkSpec?_eq_some_iff.2 ⟨_, hvia, htype⟩, Option.map_some, htable]
      rfl
  · intro h
    obtain ⟨link, hlink, rfl⟩ := Option.map_eq_some_iff.1 h
    obtain ⟨via, hvia, htype⟩ := Field.linkSpec?_eq_some_iff.1 hlink
    cases htable : registry link.targetTable with
    | none => exact .unknown hvia htype htable
    | some t => exact .known hvia htype htable (Cell.stores_iff.2 rfl) (Table.follows_iff.2 rfl)

/-- **Only links that lead to a row count.** -/
theorem cells?_eq_of_matched (hlink : Field.linkSpec? fields spec.via = some link)
    (h : (row.cell spec.via).links.filter (registry.hasRow link.targetTable)
      = (row'.cell spec.via).links.filter (registry.hasRow link.targetTable)) :
    spec.cells? row registry fields = spec.cells? row' registry fields := by
  unfold cells?
  rw [hlink, Option.map_some, Option.map_some, ← registry.related_filter_hasRow, h,
    registry.related_filter_hasRow]

end LookupSpec

/-! ### What becomes of them -/

def FieldType.source? : FieldType → Option LookupSpec
  | lookup spec => some spec
  | rollup spec => some spec.source
  | _ => none

/-- **What a field shows of the cells that it reads.** -/
inductive FieldType.Reduces : FieldType → List Cell → Cell → Prop
  | none (spec : LookupSpec) : Reduces (.lookup spec) [] .null
  | one (spec : LookupSpec) (c : Cell) : Reduces (.lookup spec) [c] c
  | several (spec : LookupSpec) {cells : List Cell} (h : 2 ≤ cells.length) :
      Reduces (.lookup spec) cells (.text (", ".intercalate (cells.map Cell.display)))
  | rollup (spec : RollupSpec) (cells : List Cell) :
      Reduces (.rollup spec) cells (spec.aggregation.apply cells)

theorem FieldType.reduces_join (spec : LookupSpec) (cells : List Cell) :
    Reduces (.lookup spec) cells (.join cells) := by
  match cells with
  | [] => exact .none spec
  | [c] => exact .one spec c
  | _ :: _ :: _ => exact .several spec (by simp)

namespace Field

variable {f : Field} {spec : LookupSpec} {fields : List Field} {registry : Registry} {row row' : Row}

theorem resolve_of_cells?_eq_none (hsource : f.type.source? = some spec)
    (h : spec.cells? row registry fields = none) : f.resolve row registry fields = .null := by
  unfold resolve
  cases htype : f.type <;> rw [htype] at hsource <;> cases hsource <;> simp only [h]

theorem reduces_resolve {cells : List Cell} (hsource : f.type.source? = some spec)
    (h : spec.cells? row registry fields = some cells) :
    f.type.Reduces cells (f.resolve row registry fields) := by
  unfold resolve
  cases htype : f.type <;> rw [htype] at hsource <;> cases hsource <;> simp only [h]
  · exact FieldType.reduces_join _ cells
  · exact .rollup _ cells

theorem resolve_eq_of_cells?_eq (hsource : f.type.source? = some spec)
    (h : spec.cells? row registry fields = spec.cells? row' registry fields) :
    f.resolve row registry fields = f.resolve row' registry fields := by
  unfold resolve
  cases htype : f.type <;> rw [htype] at hsource <;> cases hsource <;> simp only [h]

/-- **What a lookup or a rollup shows.**  If the first field with its relation id holds no links it is
empty.  Otherwise it shows what becomes of the one list of cells that the links lead to.  Two rows
whose links with a row are the same show the same, and so do a cell that is not a list and the list of
its text. -/
theorem resolve_through_links (f : Field) (spec : LookupSpec) (hsource : f.type.source? = some spec)
    (registry : Registry) (fields : List Field) (row : Row) :
    ((¬ ∃ via link, IsFirst Field.id fields spec.via via ∧ via.type = .relation link) →
      f.resolve row registry fields = .null)
    ∧ ∀ via link, IsFirst Field.id fields spec.via via → via.type = .relation link →
      (∃ cells, (∀ other, spec.Gathers registry fields row other ↔ other = cells) ∧
        f.type.Reduces cells (f.resolve row registry fields))
      ∧ (∀ row' ids ids', (row.cell spec.via).Stores ids → (row'.cell spec.via).Stores ids' →
          ids.filter (registry.hasRow link.targetTable)
            = ids'.filter (registry.hasRow link.targetTable) →
          f.resolve row registry fields = f.resolve row' registry fields)
      ∧ ∀ c : Cell, c.list? = none → c.display ≠ "" →
          f.resolve (row.setCell spec.via c) registry fields
            = f.resolve (row.setCell spec.via (.list [c.display])) registry fields := by
  refine ⟨fun hnone => ?_, fun via link hvia htype => ?_⟩
  · refine resolve_of_cells?_eq_none hsource (Option.map_eq_none_iff.2 ?_)
    rw [Option.eq_none_iff_forall_ne_some]
    intro link hlink
    obtain ⟨via, hvia, htype⟩ := linkSpec?_eq_some_iff.1 hlink
    exact hnone ⟨via, link, hvia, htype⟩
  · have hlink : linkSpec? fields spec.via = some link := linkSpec?_eq_some_iff.2 ⟨via, hvia, htype⟩
    refine ⟨?_, fun row' ids ids' hids hids' hmatched => ?_, fun c hlist htext => ?_⟩
    · obtain ⟨cells, hcells⟩ : ∃ cells, spec.cells? row registry fields = some cells :=
        ⟨_, by rw [LookupSpec.cells?, hlink]; rfl⟩
      refine ⟨cells, fun other => ?_, reduces_resolve hsource hcells⟩
      rw [LookupSpec.gathers_iff, hcells, Option.some.injEq, eq_comm]
    · refine resolve_eq_of_cells?_eq hsource (LookupSpec.cells?_eq_of_matched hlink ?_)
      rw [Cell.stores_iff.1 hids, Cell.stores_iff.1 hids', hmatched]
    · refine resolve_eq_of_cells?_eq hsource (LookupSpec.cells?_congr fun _ => ?_)
      rw [Row.cell_setCell, Row.cell_setCell, if_pos rfl, if_pos rfl,
        Cell.stores_iff.1 (.one hlist htext)]
      rfl

/-- Two links with a row and one without; the row of the first link is the first of two with its id. -/
theorem resolve_through_links_two_owners :
    let fields : List Field := [⟨"link", "Link", .relation ⟨"people", none, true⟩⟩]
    let spec : LookupSpec := ⟨"link", "name"⟩
    let owners : Field := ⟨"owners", "Owners", .lookup spec⟩
    let person : String → String → Row := fun id name =>
      ⟨id, .ofList [("name", .text name)], .ofSeconds 0, .ofSeconds 0⟩
    let registry : Registry := .ofTables [⟨"people", "People", [],
      [person "p1" "Ada", person "p2" "Ben", person "p1" "Cleo"], []⟩]
    let linked : List String → Row := fun ids =>
      ⟨"t1", .ofList [("link", .list ids)], .ofSeconds 0, .ofSeconds 0⟩
    owners.type.source? = some spec
    ∧ owners.resolve (linked ["p1", "gone", "p2"]) registry fields = .text "Ada, Ben"
    ∧ spec.Gathers registry fields (linked ["p1", "gone", "p2"]) [.text "Ada", .text "Ben"]
    ∧ owners.resolve (linked ["p1", "gone", "p2"]) registry fields
        = owners.resolve (linked ["p1", "p2", "p3"]) registry fields := by
  intro fields spec owners person registry linked
  have hvia : IsFirst Field.id fields spec.via ⟨"link", "Link", .relation ⟨"people", none, true⟩⟩ :=
    isFirst_iff.2 rfl
  have hlinks : ∀ ids, ((linked ids).cell spec.via).Stores ids := fun ids => .list ids
  obtain ⟨-, hlinked⟩ := resolve_through_links owners spec rfl registry fields
    (linked ["p1", "gone", "p2"])
  obtain ⟨-, hmatched, -⟩ := hlinked _ _ hvia rfl
  refine ⟨rfl, by decide +kernel, LookupSpec.gathers_iff.2 (by decide +kernel), ?_⟩
  exact hmatched (linked ["p1", "p2", "p3"]) _ _ (hlinks _) (hlinks _) (by decide +kernel)

end Field

end Fieldbook
