import TypedSeries.Proofs.BucketHistory
import TypedSeries.Proofs.NativeOrder

/-!
# What filters mean

A store keeps a record in another form: its measurement as text in a column of the store's own,
its tags as text, its values as they are. A filter on a declared column looks for the column's
stored form and still compares the record's own value, in the order native to its kind.

1. The schema of a record type names the measurement column where the type declares one
   (`RecordType.measurementColumn_eq_iff`).
2. A stored row satisfies a filter exactly when the record does
   (`RecordType.satisfies_storedRow_iff`).

**Main.** `Session.query_filters_natively`: a select over a bucket of records gives the records
in the range that every filter holds of, in the order of writing.
-/

namespace TypedSeries

/-! ## Where a filter looks -/

theorem NameMap.mem_of_get?_ofList {α : Type} {l : List (String × α)}
    (hn : (l.map Prod.fst).Nodup) {key : String} {a : α}
    (h : (NameMap.ofList l).get? key = some a) : (key, a) ∈ l := by
  change ((NameMap.empty : NameMap α).insertAll l).get? key = some a at h
  rw [NameMap.get?_insertAll hn, NameMap.get?_empty, Option.or_none] at h
  exact NameMap.mem_of_find? h

namespace RecordType

variable {t : RecordType} {f : Field} {row : Row} {v : Value} {q : Predicate} {time : Int64}

/-- The columns of a schema are the fields of its type. -/
theorem mem_columns_iff {e : String × Column} : e ∈ t.schema.columns.entries ↔
    ∃ f ∈ t.fields, e = (f.name, ⟨f.kind, f.role⟩) := by
  have hn : ((t.fields.map fun f => (f.name, (⟨f.kind, f.role⟩ : Column))).map Prod.fst).Nodup := by
    rw [List.map_map]
    exact t.wellFormed.distinct
  rw [← NameMap.get?_eq_some_iff]
  refine ⟨fun h => ?_, fun ⟨f, hf, he⟩ => ?_⟩
  · obtain ⟨f, hf, he⟩ := List.mem_map.1 (NameMap.mem_of_get?_ofList hn h)
    exact ⟨f, hf, he.symm⟩
  · rw [he]
    exact get?_columns hf

theorem measurementColumn_eq_iff (hf : f ∈ t.fields) :
    some f.name = t.schema.measurementColumn ↔ f.role = .measurement := by
  unfold Schema.measurementColumn
  constructor
  · intro h
    obtain ⟨e, he, hname⟩ := Option.map_eq_some_iff.1 h.symm
    obtain ⟨g, hg, rfl⟩ := mem_columns_iff.1 (List.mem_of_find?_eq_some he)
    have hrole : g.role = .measurement := by simpa using List.find?_some he
    rwa [← field_ext hf hg hname]
  · intro hm
    have hmem : (f.name, (⟨f.kind, f.role⟩ : Column)) ∈ t.schema.columns.entries :=
      mem_columns_iff.2 ⟨f, hf, rfl⟩
    cases he : t.schema.columns.entries.find? (fun e => e.2.role = .measurement) with
    | none =>
      have := List.find?_eq_none.1 he _ hmem
      simp [hm] at this
    | some e =>
      obtain ⟨g, hg, rfl⟩ := mem_columns_iff.1 (List.mem_of_find?_eq_some he)
      have hrole : g.role = .measurement := by simpa using List.find?_some he
      rw [measurement_unique hf hg hm hrole]
      rfl

theorem storedColumn_eq (hf : f ∈ t.fields) : Bucket.storedColumn t.schema f.name =
    if f.role = .measurement then measurementColumn else f.name := by
  unfold Bucket.storedColumn
  by_cases hm : f.role = .measurement
  · rw [if_pos ((measurementColumn_eq_iff hf).2 hm), if_pos hm]
  · rw [if_neg (mt (measurementColumn_eq_iff hf).1 hm), if_neg hm]

/-- What a filter on a column finds in a stored row: text for a measurement and for a tag that is
not empty, the value itself for a value. -/
theorem get?_storedColumn (hf : f ∈ t.fields) (hv : row.get? f.name = some v)
    (htag : f.role = .tag → v.toText ≠ "") :
    (storedRow t time row).get? (Bucket.storedColumn t.schema f.name) =
      some (if f.role = .field then v else .text v.toText) := by
  have hown := get?_storedRow time hf hv
  rw [storedColumn_eq hf]
  cases hr : f.role with
  | measurement =>
    rw [if_pos rfl, if_neg (by decide)]
    exact get?_storedRow_measurement time hf hv hr
  | tag =>
    rw [hr] at hown
    rw [if_neg (by decide), if_neg (by decide), hown]
    exact if_neg (htag hr)
  | field =>
    rw [hr] at hown
    rw [if_neg (by decide), if_pos rfl, hown]

end RecordType

/-! ## Filters on records -/

/-- A record holds the column of a filter with a value that the filter says. -/
def Predicate.Meets (q : Predicate) (row : Row) : Prop := ∃ v ∈ row.get? q.column, q.Says v

instance (q : Predicate) : DecidablePred q.Meets := fun row =>
  inferInstanceAs (Decidable (∃ v ∈ row.get? q.column, q.Says v))

/-- A stored row satisfies a filter exactly when its record meets it. -/
theorem RecordType.satisfies_storedRow_iff {t : RecordType} {f : Field} {row : Row} {v : Value}
    {q : Predicate} (time : Int64) (hf : f ∈ t.fields) (hv : row.get? f.name = some v)
    (hk : v.kind = f.kind) (hq : q.column = f.name ∧ q.kind = f.kind ∧ q.value.kind = f.kind)
    (htag : f.role = .tag → v.toText ≠ "") :
    Bucket.satisfies t.schema (storedRow t time row) q = true ↔ q.Meets row := by
  obtain ⟨hcol, hkind, hvalue⟩ := hq
  have hcoerce : (if f.role = .field then v else .text v.toText).coerce q.kind = some v := by
    rw [hkind, ← hk]
    split
    · exact v.coerce_kind
    · exact v.coerce_toText
  have haccepts := Predicate.accepts_iff hcoerce (hk.trans hvalue.symm)
  unfold Bucket.satisfies Predicate.Meets
  rw [hcol, get?_storedColumn hf hv htag, hv]
  simpa using haccepts

/-! ## Filters over a run -/

/-- A record has text in each tag that a plan filters on. -/
def Declaration.TagsFilled (d : Declaration) (p : Plan) (row : Row) : Prop :=
  ∀ q ∈ p.predicates, ∀ f ∈ d.fields, f.role = .tag → f.name = q.column →
    row.get? f.name ≠ some (.text "")

namespace Session

variable {s : Session} {key : String} {place : Nat} {h : Handle} {p : Plan}

/-- **Filters.** After any run that writes to a bucket of records, at first empty, through handles
of their declaration only, a select gives exactly the records written whose time is in its range
and that meet each of its filters, in the order of writing. -/
theorem query_filters_natively (hs : s.Reachable)
    (hb : s.Holds h.name ⟨h.recordType.schema, []⟩) {steps : List (Int64 × Command)}
    (hc : s.RespectsRun h.declaration steps)
    (hk : (s.run steps).handles.get? key = some (place, h)) (hp : h.declaration.Selects p)
    (htags : ∀ e ∈ s.history h.declaration steps, h.declaration.TagsFilled p e.2) (now : Int64) :
    ((s.run steps).perform now (.handle key (.query p))).1 = .ok (.records
      (((s.history h.declaration steps).filter fun e =>
        p.range.start now ≤ e.1 ∧ e.1 ≤ now ∧ ∀ q ∈ p.predicates, q.Meets e.2).map Prod.snd)) := by
  have hmeets : ∀ e ∈ s.history h.declaration steps, ∀ q ∈ p.predicates,
      (Bucket.satisfies h.recordType.schema (storedRow h.recordType e.1 e.2) q = true ↔
        q.Meets e.2) := by
    intro e he q hq
    obtain ⟨f, hf, hcol, hkind, hvalue⟩ := hp.predicate hq
    obtain ⟨v, hv, hvk⟩ := (isRecord_of_mem_history h.declared he).holds f hf
    have hft : f ∈ h.recordType.fields := h.fields_eq ▸ hf
    refine RecordType.satisfies_storedRow_iff e.1 hft hv hvk ⟨hcol, hkind, hvalue⟩ ?_
    intro hr hempty
    have hstring : v.kind = .string := hvk.trans (h.recordType.wellFormed.tagsText f hft hr)
    have hv' : v = .text "" := by
      cases v with
      | text s => exact congrArg Value.text hempty
      | _ => cases hstring
    exact htags e he q hq f hf hr hcol.symm (hv' ▸ hv)
  rw [perform_query_run hs hb hc hk hp now]
  refine congrArg (fun es => Except.ok (Answer.records (List.map Prod.snd es))) ?_
  refine List.filter_congr fun e he => decide_eq_decide.2 ?_
  exact and_congr_right fun _ => and_congr_right fun _ => forall₂_congr (hmeets e he)

end Session

/-- Rooms below the tenth floor. -/
def lowRooms : Plan :=
  roomType.handle.declaration.select.filterBy
    (Field.compareWith ⟨"floor", .integer, .measurement⟩ .less (.integer 10))

theorem selects_lowRooms : roomType.handle.declaration.Selects lowRooms := by
  have hfloor : ⟨"floor", .integer, .measurement⟩ ∈ roomType.handle.declaration.fields := by
    decide +kernel
  exact .filterBy .all hfloor .less rfl

theorem tagsFilled_lowRooms (row : Row) : roomType.handle.declaration.TagsFilled lowRooms row := by
  intro q hq f hf hr hname
  have hcol : q.column = "floor" := by
    rw [List.mem_singleton.1 hq]
    rfl
  have htag : ∀ f ∈ roomType.handle.declaration.fields, f.role = .tag → f.name ≠ "floor" := by
    decide +kernel
  exact absurd (hname.trans hcol) (htag f hf hr)

/-- The ninth floor is below the tenth, though `9` comes after `10` as text. -/
theorem query_lowRooms :
    roomSession.Reachable ∧ roomSession.Holds roomType.handle.name ⟨roomType.schema, []⟩ ∧
      roomSession.RespectsRun roomType.handle.declaration roomSteps ∧
      ((roomSession.run roomSteps).perform Int64.maxValue
        (.handle "rooms" (.query lowRooms))).1 = .ok (.records [roomRow 9 "" .nan]) := by
  have hquery := Session.query_filters_natively reachable_roomSession holds_roomSession
    respectsRun_roomSteps handle_roomSteps selects_lowRooms
    (fun e _ => tagsFilled_lowRooms e.2) Int64.maxValue
  rw [history_roomSteps] at hquery
  refine ⟨reachable_roomSession, holds_roomSession, respectsRun_roomSteps, hquery.trans ?_⟩
  exact congrArg (fun rows => Except.ok (Answer.records rows)) (by decide +kernel)

end TypedSeries
