import Mathlib.Data.List.Nodup
import TypedSeries.Store.Handle
import TypedSeries.Proofs.NumberText

/-!
# The row a store keeps of a record

1. Laying out a record places each column once: what only one field changes, the fold over all
   fields changes as that field does (`Point.foldl_placeField_at`).
2. So the stored row holds a measurement as text in the store's own column, a tag as text unless
   it is empty, and a value as it is (`get?_storedRow`, `get?_storedRow_measurement`).
3. Reading the row back collects the columns one by one, and what was collected is the record
   (`collectRow_of_forall`).

**Main.** `Handle.readRow_storedRow`: a handle reads a record's stored row as the record.
-/

namespace TypedSeries

namespace NameMap

universe u

variable {α : Type u}

theorem find?_eq_none {key : String} :
    ∀ {l : List (String × α)}, key ∉ l.map Prod.fst → find? key l = none
  | [], _ => rfl
  | (k, a) :: l, h => by
    rw [List.map_cons, List.mem_cons, not_or] at h
    rw [find?, if_neg fun e => h.1 e.symm, find?_eq_none h.2]

theorem find?_of_mem_of_nodup {key : String} {a : α} :
    ∀ {l : List (String × α)}, (l.map Prod.fst).Nodup → (key, a) ∈ l → find? key l = some a
  | (k, b) :: l, hn, h => by
    rw [List.map_cons, List.nodup_cons] at hn
    rcases List.mem_cons.1 h with h | h
    · cases h; exact if_pos rfl
    · have hk : k ≠ key := fun e => hn.1 (List.mem_map.2 ⟨(key, a), h, e.symm⟩)
      rw [find?, if_neg hk, find?_of_mem_of_nodup hn.2 h]

theorem get?_insertAll {l : List (String × α)} (h : (l.map Prod.fst).Nodup) (m : NameMap α)
    (key : String) : (m.insertAll l).get? key = (find? key l).or (m.get? key) := by
  induction l generalizing m with
  | nil => rfl
  | cons e l ih =>
    rw [List.map_cons, List.nodup_cons] at h
    show ((m.insert e.1 e.2).insertAll l).get? key = _
    rw [ih h.2, get?_insert, find?]
    by_cases he : e.1 = key
    · rw [if_pos he, if_pos he, find?_eq_none (he ▸ h.1)]
      rfl
    · rw [if_neg he, if_neg he]

/-- A map made from entries of distinct names holds each of them. -/
theorem get?_ofList {l : List (String × α)} (hn : (l.map Prod.fst).Nodup) {key : String} {a : α}
    (h : (key, a) ∈ l) : (ofList l).get? key = some a := by
  show ((empty : NameMap α).insertAll l).get? key = _
  rw [get?_insertAll hn, find?_of_mem_of_nodup hn h]
  rfl

theorem nodup_names (m : NameMap α) : m.names.Nodup := by
  refine (List.pairwise_map.2 m.increasing).imp fun {a b} hlt he => ?_
  exact String.lt_irrefl _ (he ▸ hlt)

theorem ofList_entries (m : NameMap α) : ofList m.entries = m := by
  refine ext_get? fun k => ?_
  show ((empty : NameMap α).insertAll m.entries).get? k = m.get? k
  rw [get?_insertAll m.nodup_names, get?_empty, Option.or_none]
  rfl

end NameMap

/-! ## Records -/

/-- A record of a declaration: a row that holds each declared column, with the declared kind, and
no other column. -/
structure Declaration.IsRecord (d : Declaration) (row : Row) : Prop where
  holds : ∀ f ∈ d.fields, ∃ v, row.get? f.name = some v ∧ v.kind = f.kind
  only : ∀ name, (∀ f ∈ d.fields, f.name ≠ name) → row.get? name = none

theorem RecordType.fields_of_recordType {d : Declaration} {t : RecordType}
    (h : d.recordType = .ok t) : t.name = d.name ∧ t.fields = d.fields := by
  unfold Declaration.recordType declare at h
  split at h
  next => cases h
  next => cases h; exact ⟨rfl, rfl⟩

theorem RecordType.declare_self (t : RecordType) : declare t.name t.fields = .ok t := by
  unfold declare
  split
  next e he => rw [fault_eq_none_iff.2 t.wellFormed] at he; cases he
  next => rfl

/-- The handle of a record type, declared as it is. -/
def RecordType.handle (t : RecordType) : Handle := ⟨⟨t.name, t.fields⟩, t, t.declare_self⟩

namespace RecordType

variable {t : RecordType} {f g : Field}

/-- Two columns of one name are one column. -/
theorem field_ext (hf : f ∈ t.fields) (hg : g ∈ t.fields) (h : g.name = f.name) :
    g = f :=
  List.inj_on_of_nodup_map t.wellFormed.distinct hg hf h

/-- A record type has one measurement column at most. -/
theorem measurement_unique (hf : f ∈ t.fields) (hg : g ∈ t.fields)
    (hfm : f.role = .measurement) (hgm : g.role = .measurement) : g = f := by
  have hmem : ∀ a ∈ t.fields, a.role = .measurement →
      a ∈ t.fields.filter (·.role = .measurement) := fun a ha hm =>
    List.mem_filter.2 ⟨ha, by simpa using hm⟩
  have h1 := t.wellFormed.oneMeasurement
  have hf := hmem f hf hfm
  have hg := hmem g hg hgm
  generalize t.fields.filter (·.role = .measurement) = l at h1 hf hg
  match l, h1 with
  | [], _ => cases hf
  | [a], _ => rw [List.mem_singleton.1 hf, List.mem_singleton.1 hg]

theorem name_ne_of_reserved {name : String} (hf : f ∈ t.fields) (h : reservedName name = true) :
    f.name ≠ name := by
  intro he
  have := t.wellFormed.unreserved f hf
  rw [he, h] at this
  exact nomatch this

end RecordType

/-! ## Laying out a record -/

namespace Point

variable {row : Row} {f g : Field} {p : Point}

/-- What placing one column can do to a point. -/
theorem placeField_cases (row : Row) (p : Point) (f : Field) : placeField row p f = p ∨
    (f.role = .measurement ∧ ∃ s, placeField row p f = { p with measurement := s }) ∨
    (∃ s, placeField row p f = { p with tags := p.tags.insert f.name s }) ∨
    ∃ v, placeField row p f = { p with fields := p.fields.insert f.name v } := by
  unfold placeField
  cases row.get? f.name with
  | none => exact .inl rfl
  | some v =>
    cases hr : f.role with
    | measurement => exact .inr (.inl ⟨rfl, _, rfl⟩)
    | tag =>
      dsimp only
      split
      · exact .inl rfl
      · exact .inr (.inr (.inl ⟨_, rfl⟩))
    | field => exact .inr (.inr (.inr ⟨_, rfl⟩))

theorem placeField_timestamp : (placeField row p f).timestamp = p.timestamp := by
  rcases placeField_cases row p f with h | ⟨-, s, h⟩ | ⟨s, h⟩ | ⟨v, h⟩ <;> rw [h]

theorem placeField_tags_of_ne {name : String} (hne : f.name ≠ name) :
    (placeField row p f).tags.get? name = p.tags.get? name := by
  rcases placeField_cases row p f with h | ⟨-, s, h⟩ | ⟨s, h⟩ | ⟨v, h⟩
  · rw [h]
  · rw [h]
  · rw [h, NameMap.get?_insert, if_neg hne]
  · rw [h]

theorem placeField_fields_of_ne {name : String} (hne : f.name ≠ name) :
    (placeField row p f).fields.get? name = p.fields.get? name := by
  rcases placeField_cases row p f with h | ⟨-, s, h⟩ | ⟨s, h⟩ | ⟨v, h⟩
  · rw [h]
  · rw [h]
  · rw [h]
  · rw [h, NameMap.get?_insert, if_neg hne]

theorem placeField_measurement_of_ne (hne : f.role ≠ .measurement) :
    (placeField row p f).measurement = p.measurement := by
  rcases placeField_cases row p f with h | ⟨hm, s, h⟩ | ⟨s, h⟩ | ⟨v, h⟩
  · rw [h]
  · exact absurd hm hne
  · rw [h]
  · rw [h]

/-- What no field of a list changes, laying out the whole list does not change. -/
theorem foldl_placeField_of_frame {β : Type} (read : Point → β) {fs : List Field}
    (h : ∀ p, ∀ g ∈ fs, read (placeField row p g) = read p) (p : Point) :
    read (fs.foldl (placeField row) p) = read p := by
  induction fs generalizing p with
  | nil => rfl
  | cons g fs ih =>
    rw [List.foldl_cons, ih (fun p g hg => h p g (List.mem_cons_of_mem _ hg)),
      h p g List.mem_cons_self]

/-- What one field of a list alone changes, laying out the whole list changes as that field
does. -/
theorem foldl_placeField_at {β : Type} (read : Point → β) (change : β → β) {fs : List Field}
    (hn : fs.Nodup) (hf : f ∈ fs) (hown : ∀ p, read (placeField row p f) = change (read p))
    (hother : ∀ p, ∀ g ∈ fs, g ≠ f → read (placeField row p g) = read p) (p : Point) :
    read (fs.foldl (placeField row) p) = change (read p) := by
  induction fs generalizing p with
  | nil => cases hf
  | cons g fs ih =>
    obtain ⟨hg, hn⟩ := List.nodup_cons.1 hn
    rw [List.foldl_cons]
    rcases List.mem_cons.1 hf with rfl | hf
    · rw [foldl_placeField_of_frame read (fun p a ha => hother p a (List.mem_cons_of_mem _ ha)
        fun e => hg (e ▸ ha)), hown]
    · rw [ih hn hf (fun p a ha => hother p a (List.mem_cons_of_mem _ ha)),
        hother p g List.mem_cons_self fun e => hg (e ▸ hf)]

section Layout

variable {t : RecordType} {ts : Option Int64} {v : Value}

theorem ofRow_timestamp : (ofRow t row ts).timestamp = ts :=
  foldl_placeField_of_frame timestamp (fun _ _ _ => placeField_timestamp) _

theorem tags_ofRow (hf : f ∈ t.fields) (hv : row.get? f.name = some v) :
    (ofRow t row ts).tags.get? f.name =
      if f.role = .tag ∧ v.toText ≠ "" then some v.toText else none := by
  refine foldl_placeField_at (fun p => p.tags.get? f.name)
    (fun x => if f.role = .tag ∧ v.toText ≠ "" then some v.toText else x)
    t.wellFormed.distinct.of_map hf (fun p => ?_)
    (fun p g hg hne => placeField_tags_of_ne fun h => hne (RecordType.field_ext hf hg h)) _
  simp only [placeField, hv]
  cases f.role with
  | measurement => simp
  | tag => by_cases ht : v.toText = "" <;> simp [ht]
  | field => simp

theorem fields_ofRow (hf : f ∈ t.fields) (hv : row.get? f.name = some v) :
    (ofRow t row ts).fields.get? f.name = if f.role = .field then some v else none := by
  refine foldl_placeField_at (fun p => p.fields.get? f.name)
    (fun x => if f.role = .field then some v else x)
    t.wellFormed.distinct.of_map hf (fun p => ?_)
    (fun p g hg hne => placeField_fields_of_ne fun h => hne (RecordType.field_ext hf hg h)) _
  simp only [placeField, hv]
  cases f.role with
  | measurement => simp
  | tag => by_cases ht : v.toText = "" <;> simp [ht]
  | field => simp

theorem measurement_ofRow (hf : f ∈ t.fields) (hv : row.get? f.name = some v)
    (hm : f.role = .measurement) : (ofRow t row ts).measurement = v.toText := by
  refine foldl_placeField_at measurement (fun _ => v.toText)
    t.wellFormed.distinct.of_map hf (fun p => ?_)
    (fun p g hg hne => placeField_measurement_of_ne fun h =>
      hne (RecordType.measurement_unique hf hg hm h)) _
  simp only [placeField, hv, hm]

theorem tags_ofRow_of_not_mem {name : String} (h : ∀ f ∈ t.fields, f.name ≠ name) :
    (ofRow t row ts).tags.get? name = none :=
  foldl_placeField_of_frame (fun p => p.tags.get? name)
    (fun _ g hg => placeField_tags_of_ne (h g hg)) _

theorem fields_ofRow_of_not_mem {name : String} (h : ∀ f ∈ t.fields, f.name ≠ name) :
    (ofRow t row ts).fields.get? name = none :=
  foldl_placeField_of_frame (fun p => p.fields.get? name)
    (fun _ g hg => placeField_fields_of_ne (h g hg)) _

end Layout

theorem get?_toRow (p : Point) (now : Int64) (name : String) :
    (p.toRow now).get? name = (p.fields.get? name).or (((p.tags.get? name).map .text).or
      (if timeColumn = name then some (.integer (p.timestamp.getD now))
       else if measurementColumn = name then some (.text p.measurement) else none)) := by
  have htags : ((p.tags.entries.map fun e => (e.1, Value.text e.2)).map Prod.fst).Nodup := by
    rw [List.map_map]
    exact p.tags.nodup_names
  unfold toRow
  dsimp only
  rw [NameMap.get?_insertAll p.fields.nodup_names, NameMap.get?_insertAll htags,
    NameMap.find?_map, NameMap.get?_insert, NameMap.get?_insert, NameMap.get?_empty]
  rfl

end Point

/-! ## The stored row -/

/-- The row a store keeps of a record written at a given time. -/
def storedRow (t : RecordType) (time : Int64) (row : Row) : Row :=
  (Point.ofRow t row (some time)).toRow time

/-- A point that has its time is stored with it, whenever it is written. -/
theorem toRow_ofRow (t : RecordType) (row : Row) (time now : Int64) :
    (Point.ofRow t row (some time)).toRow now = storedRow t time row := by
  unfold storedRow Point.toRow
  rw [Point.ofRow_timestamp]
  rfl

section StoredRow

variable {t : RecordType} {row : Row} {f : Field} {v : Value} (time : Int64)

theorem reservedName_timeColumn : reservedName timeColumn = true := by decide +kernel

theorem reservedName_measurementColumn : reservedName measurementColumn = true := by
  decide +kernel

/-- A declared column in a stored row: a measurement is not kept under its own name, an empty tag
is not kept at all. -/
theorem get?_storedRow (hf : f ∈ t.fields) (hv : row.get? f.name = some v) :
    (storedRow t time row).get? f.name = match f.role with
      | .measurement => none
      | .tag => if v.toText = "" then none else some (.text v.toText)
      | .field => some v := by
  have htime : ¬ timeColumn = f.name :=
    (RecordType.name_ne_of_reserved hf reservedName_timeColumn).symm
  have hname : ¬ measurementColumn = f.name :=
    (RecordType.name_ne_of_reserved hf reservedName_measurementColumn).symm
  rw [storedRow, Point.get?_toRow, Point.fields_ofRow hf hv, Point.tags_ofRow hf hv, if_neg htime,
    if_neg hname]
  cases f.role with
  | measurement => rfl
  | tag => by_cases ht : v.toText = "" <;> simp [ht]
  | field => rfl

theorem get?_storedRow_time : (storedRow t time row).get? timeColumn = some (.integer time) := by
  have h : ∀ f ∈ t.fields, f.name ≠ timeColumn := fun f hf =>
    RecordType.name_ne_of_reserved hf reservedName_timeColumn
  rw [storedRow, Point.get?_toRow, Point.fields_ofRow_of_not_mem h, Point.tags_ofRow_of_not_mem h,
    if_pos rfl, Point.ofRow_timestamp]
  rfl

theorem get?_storedRow_measurement (hf : f ∈ t.fields) (hv : row.get? f.name = some v)
    (hm : f.role = .measurement) :
    (storedRow t time row).get? measurementColumn = some (.text v.toText) := by
  have h : ∀ f ∈ t.fields, f.name ≠ measurementColumn := fun f hf =>
    RecordType.name_ne_of_reserved hf reservedName_measurementColumn
  have htime : ¬ timeColumn = measurementColumn := by decide +kernel
  rw [storedRow, Point.get?_toRow, Point.fields_ofRow_of_not_mem h, Point.tags_ofRow_of_not_mem h,
    if_neg htime, if_pos rfl, Point.measurement_ofRow hf hv hm]
  rfl

end StoredRow

/-! ## Reading it back -/

section Collect

variable {value : Field → Except SchemaError Value} {fs : List Field} {row acc out : Row}

/-- A row collected from the columns of a record is the record. -/
theorem collectRow_of_forall
    (h : ∀ f ∈ fs, ∃ v, row.get? f.name = some v ∧ value f = .ok v)
    (hacc : ∀ name, (∀ f ∈ fs, f.name ≠ name) → acc.get? name = row.get? name) :
    collectRow value fs acc = .ok row := by
  induction fs generalizing acc with
  | nil => exact congrArg _ (NameMap.ext_get? fun name => hacc name (by simp))
  | cons f fs ih =>
    obtain ⟨v, hv, hok⟩ := h f List.mem_cons_self
    rw [collectRow, hok]
    refine ih (fun g hg => h g (List.mem_cons_of_mem _ hg)) fun name hname => ?_
    rw [NameMap.get?_insert]
    by_cases hf : f.name = name
    · rw [if_pos hf, ← hf, hv]
    · rw [if_neg hf]
      refine hacc name fun g hg => ?_
      rcases List.mem_cons.1 hg with rfl | hg
      · exact hf
      · exact hname g hg

/-- A collected row holds each column's value and otherwise what it began with. -/
theorem get?_collectRow (h : collectRow value fs acc = .ok out)
    (hn : (fs.map Field.name).Nodup) :
    (∀ f ∈ fs, ∃ v, out.get? f.name = some v ∧ value f = .ok v) ∧
      ∀ name, (∀ f ∈ fs, f.name ≠ name) → out.get? name = acc.get? name := by
  induction fs generalizing acc with
  | nil =>
    cases h
    exact ⟨by simp, fun _ _ => rfl⟩
  | cons f fs ih =>
    rw [List.map_cons, List.nodup_cons] at hn
    rw [collectRow] at h
    split at h
    next v hv =>
      obtain ⟨hin, hout⟩ := ih h hn.2
      have hf : out.get? f.name = some v := by
        rw [hout f.name fun g hg he => hn.1 (he ▸ List.mem_map_of_mem hg), NameMap.get?_insert,
          if_pos rfl]
      refine ⟨fun g hg => ?_, fun name hname => ?_⟩
      · rcases List.mem_cons.1 hg with rfl | hg
        · exact ⟨v, hf, hv⟩
        · exact hin g hg
      · rw [hout name fun g hg => hname g (List.mem_cons_of_mem _ hg), NameMap.get?_insert,
          if_neg (hname f List.mem_cons_self)]
    next => cases h

end Collect

namespace Declaration

variable {d : Declaration} {t : RecordType} {row out : Row}

/-- A record read as a record is itself. -/
theorem readRecord_of_isRecord (h : d.IsRecord row) : d.readRecord row = .ok row := by
  refine collectRow_of_forall (fun f hf => ?_) fun name hname => ?_
  · obtain ⟨v, hv, hk⟩ := h.holds f hf
    refine ⟨v, hv, ?_⟩
    simp only [readField, hv, ← hk, Value.coerce_kind]
  · rw [NameMap.get?_empty, h.only name hname]

/-- What is read as a record is one. -/
theorem isRecord_of_readRecord (hd : d.recordType = .ok t) (h : d.readRecord row = .ok out) :
    d.IsRecord out := by
  obtain ⟨-, hfields⟩ := RecordType.fields_of_recordType hd
  obtain ⟨hin, hout⟩ := get?_collectRow h (hfields ▸ t.wellFormed.distinct)
  refine ⟨fun f hf => ?_, fun name hname => hout name hname⟩
  obtain ⟨v, hv, hok⟩ := hin f hf
  refine ⟨v, hv, ?_⟩
  unfold readField at hok
  split at hok
  next => cases hok
  next w _ =>
    split at hok
    next u hu => cases hok; exact Value.kind_of_coerce hu
    next => cases hok

/-- The columns of a record come back typed from its stored row. -/
theorem hydrate_storedRow (hd : d.recordType = .ok t) (h : d.IsRecord row) (time : Int64) :
    t.hydrate (storedRow t time row) = .ok row := by
  obtain ⟨-, hfields⟩ := RecordType.fields_of_recordType hd
  refine collectRow_of_forall (fun f hf => ?_) fun name hname => ?_
  · obtain ⟨v, hv, hk⟩ := h.holds f (hfields ▸ hf)
    refine ⟨v, hv, ?_⟩
    have hown := get?_storedRow time hf hv
    unfold Field.hydrate Field.rawValue
    cases hr : f.role with
    | measurement =>
      rw [hr] at hown
      simp only [hown, get?_storedRow_measurement time hf hv hr, Option.none_or, ← hk,
        Value.coerce_toText]
    | tag =>
      have hs := t.wellFormed.tagsText f hf hr
      obtain ⟨s, rfl⟩ : ∃ s, v = .text s := by
        rw [hs] at hk
        cases v with
        | text s => exact ⟨s, rfl⟩
        | integer i => exact nomatch hk
        | number x => exact nomatch hk
        | boolean b => exact nomatch hk
      rw [hr] at hown
      by_cases hempty : s = ""
      · subst hempty
        simp only [hown, Value.toText, if_true]
      · have hown : (storedRow t time row).get? f.name = some (.text s) :=
          hown.trans (if_neg hempty)
        simp only [hown, hs]
        rfl
    | field =>
      rw [hr] at hown
      simp only [hown, ← hk, Value.coerce_kind]
  · rw [NameMap.get?_empty, h.only name (hfields ▸ hname)]

end Declaration

/-- **Rows of records.** A handle reads a record's stored row as the record. -/
theorem Handle.readRow_storedRow (h : Handle) {row : Row} (hr : h.declaration.IsRecord row)
    (time : Int64) : h.readRow h.recordType (storedRow h.recordType time row) = .ok row := by
  unfold readRow
  rw [Declaration.hydrate_storedRow h.declared hr]
  exact Declaration.readRecord_of_isRecord hr

end TypedSeries
