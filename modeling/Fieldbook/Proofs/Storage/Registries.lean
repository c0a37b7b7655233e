import Mathlib.Data.List.Induction
import Fieldbook.Calculation
import Fieldbook.Proofs.Keyed

/-!
# The tables of a database

A database starts empty and is offered one table after another.  `Offered` says what holds at any time:
the ids of its tables are different, and what it finds under an id is the first table offered with it.
One offer keeps both (`Offered.offer`), so they hold for all offers (`Database.offered`).  With
different ids it no longer matters whether a table is looked up in the database, in the list of its
tables or in a map: `Database.registries_agree`.
-/

namespace Fieldbook

namespace Database

def ids (db : Database) : List String := db.tables.map (·.id)

/-- A table offered to a database: the database afterwards, and the error if the table is refused. -/
def offer (db : Database) (t : Table) : Database × Option ModelError :=
  match db.addTable t with
  | .ok grown => (grown, none)
  | .error e => (db, some e)

def ofOffers (offers : List Table) : Database := offers.foldl (fun db t => (db.offer t).1) empty

theorem any_id_iff {db : Database} {id : String} :
    db.tables.any (·.id == id) = true ↔ id ∈ db.ids := by
  simp [ids]

theorem offer_of_mem {db : Database} {t : Table} (h : t.id ∈ db.ids) :
    db.offer t = (db, some (.duplicateTable t.id)) := by
  unfold offer addTable
  rw [if_pos (any_id_iff.2 h)]

theorem offer_of_notMem {db : Database} {t : Table} (h : t.id ∉ db.ids) :
    db.offer t = (⟨db.tables ++ [t]⟩, none) := by
  unfold offer addTable
  rw [if_neg (mt any_id_iff.1 h)]

theorem ofOffers_concat (offers : List Table) (t : Table) :
    ofOffers (offers ++ [t]) = ((ofOffers offers).offer t).1 := by
  unfold ofOffers
  rw [List.foldl_append]
  rfl

/-- **What a database holds that was offered some tables.** -/
structure Offered (offers : List Table) (db : Database) : Prop where
  nodup : db.ids.Nodup
  find : ∀ id, db.registry id = offers.find? (·.id == id)

namespace Offered

variable {offers : List Table} {db : Database} (h : Offered offers db)

include h

theorem mem_ids_iff {id : String} : id ∈ db.ids ↔ id ∈ offers.map (·.id) := by
  have hheld : id ∈ db.ids ↔ (db.registry id).isSome := by
    simp [ids, registry, Registry.ofTables]
  rw [hheld, h.find]
  simp

theorem offer (t : Table) : Offered (offers ++ [t]) (db.offer t).1 := by
  by_cases hmem : t.id ∈ db.ids
  · rw [offer_of_mem hmem]
    refine ⟨h.nodup, fun id => ?_⟩
    rw [h.find, List.find?_append]
    -- The table that is refused comes too late: its id is found before it.
    cases hfound : offers.find? (·.id == id) with
    | some held => rfl
    | none =>
      have hne : t.id ≠ id := by
        rintro rfl
        obtain ⟨held, hheld, hid⟩ := List.mem_map.1 (h.mem_ids_iff.1 hmem)
        exact List.find?_eq_none.1 hfound held hheld (by simpa using hid)
      simp [hne]
  · rw [offer_of_notMem hmem]
    refine ⟨?_, fun id => ?_⟩
    · show ((db.tables ++ [t]).map (·.id)).Nodup
      rw [List.map_append, List.nodup_append]
      refine ⟨h.nodup, List.nodup_singleton _, ?_⟩
      intro a ha b hb
      rw [List.mem_singleton.1 hb]
      rintro rfl
      exact hmem ha
    · show (db.tables ++ [t]).find? (·.id == id) = _
      have hfind : db.tables.find? (·.id == id) = offers.find? (·.id == id) := h.find id
      rw [List.find?_append, List.find?_append, hfind]

end Offered

theorem offered (offers : List Table) : Offered offers (ofOffers offers) := by
  induction offers using List.reverseRecOn with
  | nil => exact ⟨List.nodup_nil, fun _ => rfl⟩
  | append_singleton offers t ih =>
    rw [ofOffers_concat]
    exact ih.offer t

theorem offer_ofOffers_eq_none_iff {offers : List Table} {t : Table} :
    ((ofOffers offers).offer t).2 = none ↔ ∀ earlier ∈ offers, earlier.id ≠ t.id := by
  have hids : t.id ∈ (ofOffers offers).ids ↔ t.id ∈ offers.map (·.id) :=
    (offered offers).mem_ids_iff
  rw [List.mem_map] at hids
  by_cases hmem : t.id ∈ (ofOffers offers).ids
  · rw [offer_of_mem hmem]
    obtain ⟨earlier, hearlier, hid⟩ := hids.1 hmem
    constructor
    · intro h
      cases h
    · intro h
      exact absurd hid (h earlier hearlier)
  · rw [offer_of_notMem hmem]
    constructor
    · intro _ earlier hearlier hid
      exact hmem (hids.2 ⟨earlier, hearlier, hid⟩)
    · intro _
      rfl

/-! ### What is found -/

theorem get_eq_ok_iff {db : Database} {id : String} {t : Table} :
    db.get id = .ok t ↔ db.registry id = some t := by
  unfold get
  cases db.registry id with
  | none => simp
  | some held => simp

theorem get_eq_error_iff {db : Database} {id : String} {e : ModelError} :
    db.get id = .error e ↔ e = .tableNotFound id ∧ db.registry id = none := by
  unfold get
  cases db.registry id with
  | none => simp [eq_comm]
  | some held => simp

theorem get_ofOffers_eq_ok_iff {offers : List Table} {id : String} {t : Table} :
    (ofOffers offers).get id = .ok t ↔ t.id = id ∧ ∃ before after, offers = before ++ t :: after ∧
      ((ofOffers before).offer t).2 = none := by
  rw [get_eq_ok_iff, (offered offers).find, List.find?_eq_some_iff_append, beq_iff_eq]
  refine and_congr_right fun hid => ?_
  subst hid
  simp only [offer_ofOffers_eq_none_iff]
  simp

theorem get_ofOffers_eq_error_iff {offers : List Table} {id : String} {e : ModelError} :
    (ofOffers offers).get id = .error e ↔ e = .tableNotFound id ∧ id ∉ offers.map (·.id) := by
  rw [get_eq_error_iff, (offered offers).find, List.find?_eq_none]
  simp

/-- A map from ids, made of the tables in any order, finds what the database finds. -/
theorem ofKeyed_ofTables {db : Database} (h : db.ids.Nodup) {order : List Table}
    (horder : order.Perm db.tables) : Registry.ofKeyed (.ofTables order) = db.registry := by
  funext id
  have hids : (order.map Table.id).Nodup := (horder.map Table.id).nodup_iff.2 h
  have hkeys : ((order.map fun t => (t.id, t)).map (·.1)).Nodup := by
    rw [List.map_map]
    exact hids
  show (Keyed.ofTables order).get? id = db.tables.find? (·.id == id)
  unfold Keyed.ofTables
  rw [Keyed.get?_ofList_of_nodup hkeys, Keyed.lookup_map_key, find?_perm horder h]

/-- **A database that was offered tables.**  Its ids are different.  One more table is refused exactly if
its id is there, and then nothing changes.  Under an id stands the table that was accepted with it.
The database, the list of its tables and a map that was made of them in any order find the same, so
that links and calculations come out the same over each of them. -/
theorem registries_agree (offers : List Table) :
    let db := ofOffers offers
    db.ids.Nodup
    ∧ (∀ t, db.offer t = if t.id ∈ db.ids then (db, some (.duplicateTable t.id))
        else (⟨db.tables ++ [t]⟩, none))
    ∧ (∀ id t, db.get id = .ok t ↔ t.id = id ∧ ∃ before after, offers = before ++ t :: after ∧
        ((ofOffers before).offer t).2 = none)
    ∧ (∀ id e, db.get id = .error e ↔ e = .tableNotFound id ∧ id ∉ offers.map (·.id))
    ∧ ∀ order, order.Perm db.tables →
        ∀ registry ∈ [db.registry, .ofTables db.tables, .ofKeyed (.ofTables order)],
          (∀ id, registry id = db.tables.find? (·.id == id))
          ∧ (∀ target ids, registry.related target ids = db.registry.related target ids)
          ∧ (∀ (f : Field) row fields,
              f.resolve row registry fields = f.resolve row db.registry fields)
          ∧ ∀ (t : Table) row options,
              t.computeRow row registry options = t.computeRow row db.registry options := by
  intro db
  have hdb : Offered offers db := offered offers
  refine ⟨hdb.nodup, fun t => ?_, fun _ _ => get_ofOffers_eq_ok_iff,
    fun _ _ => get_ofOffers_eq_error_iff, fun order horder registry hregistry => ?_⟩
  · split
    · rename_i hmem
      exact offer_of_mem hmem
    · rename_i hmem
      exact offer_of_notMem hmem
  · have hsame : registry = db.registry := by
      simp only [List.mem_cons, List.not_mem_nil, or_false] at hregistry
      rcases hregistry with rfl | rfl | rfl
      · rfl
      · rfl
      · exact ofKeyed_ofTables hdb.nodup horder
    rw [hsame]
    exact ⟨fun _ => rfl, fun _ _ => rfl, fun _ _ _ => rfl, fun _ _ _ => rfl⟩

/-! Three tables are offered, the last with the id of the first, and a map is made from the back. -/

def people : Table := ⟨"people", "People", [], [], []⟩
def jobs : Table := ⟨"jobs", "Jobs", [], [], []⟩
def strangers : Table := { people with name := "Strangers" }

theorem registries_agree_people :
    let db := ofOffers [people, jobs, strangers]
    db.tables = [people, jobs]
    ∧ (ofOffers [people, jobs]).offer strangers = (db, some (.duplicateTable "people"))
    ∧ [jobs, people].Perm db.tables
    ∧ Registry.ofKeyed (.ofTables [jobs, people]) "people" = some people := by
  have hperm : [jobs, people].Perm (ofOffers [people, jobs, strangers]).tables := by decide +kernel
  obtain ⟨-, -, -, -, hfind⟩ := registries_agree [people, jobs, strangers]
  obtain ⟨hsame, -⟩ := hfind _ hperm (.ofKeyed (.ofTables [jobs, people])) (by simp)
  refine ⟨by decide +kernel, ?_, hperm, ?_⟩
  · exact offer_of_mem (by decide +kernel)
  · rw [hsame]
    decide +kernel

end Database

end Fieldbook
