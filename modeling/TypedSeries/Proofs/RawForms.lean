import TypedSeries.Proofs.HandleRecords

/-!
# Raw forms of a record

Stores give one record back in many forms. A store in memory keeps typed values, a server answers
with texts; both move the measurement into a column of the store's own, leave empty tags out and
put in columns that nobody declared.

1. `Declaration.RawForm` are the rows that come of a record by such changes, in any number and in
   any order.
2. Each change leaves every declared column to be seen, as its value or as the text of it: under its
   own name, or under the store's if it is the measurement, or not at all if it is an empty tag
   (`Field.ShownIn`, `Declaration.RawForm.shown`).
3. A column that is seen hydrates to the record's value (`Field.hydrate_of_shown`).

**Main.** `RecordType.hydrate_rawForm`: every raw form of a record hydrates to the record.
-/

namespace TypedSeries

/-! ## Forms of a value -/

/-- A value itself, or its text. -/
def Value.Forms (v w : Value) : Prop := w = v ∨ w = .text v.toText

namespace Value

variable {v w : Value}

theorem Forms.refl (v : Value) : v.Forms v := .inl rfl

/-- The text of a form is a form. -/
theorem Forms.asText (h : v.Forms w) : v.Forms (.text w.toText) := by
  rcases h with rfl | rfl
  · exact .inr rfl
  · exact .inr rfl

/-- Each form of a value is read as the value. -/
theorem Forms.coerce (h : v.Forms w) : w.coerce v.kind = some v := by
  rcases h with rfl | rfl
  · exact coerce_kind w
  · exact coerce_toText v

end Value

/-! ## Forms of a record -/

/-- The rows that come of a record when values are replaced by their texts, the measurement is
moved to the store's column, empty tags are left out and columns that are not declared are put
in. -/
inductive Declaration.RawForm (d : Declaration) (row : Row) : Row → Prop
  | typed : RawForm d row row
  | asText {raw : Row} (h : RawForm d row raw) {name : String} {v : Value}
    (hv : raw.get? name = some v) : RawForm d row (raw.insert name (.text v.toText))
  | moveMeasurement {raw : Row} (h : RawForm d row raw) {f : Field} (hf : f ∈ d.fields)
    (hr : f.role = .measurement) {v : Value} (hv : raw.get? f.name = some v) :
    RawForm d row ((raw.erase f.name).insert measurementColumn v)
  | dropTag {raw : Row} (h : RawForm d row raw) {f : Field} (hf : f ∈ d.fields)
    (hr : f.role = .tag) (hv : raw.get? f.name = some (.text "")) :
    RawForm d row (raw.erase f.name)
  | addColumn {raw : Row} (h : RawForm d row raw) {name : String}
    (hd : ∀ f ∈ d.fields, f.name ≠ name) (hnew : raw.get? name = none) (v : Value) :
    RawForm d row (raw.insert name v)

/-- A column of a row holds a form of a value. -/
def Value.FormAt (v : Value) (raw : Row) (name : String) : Prop :=
  ∃ w, raw.get? name = some w ∧ v.Forms w

/-- What a raw row shows of a column that holds a value: a form of the value under the column's own
name, or else one under the store's for the measurement, or else nothing for an empty tag. -/
def Field.ShownIn (f : Field) (v : Value) (raw : Row) : Prop :=
  v.FormAt raw f.name ∨ raw.get? f.name = none ∧ match f.role with
    | .measurement => v.FormAt raw measurementColumn
    | .tag => v = .text ""
    | .field => False

section Shown

variable {t : RecordType} {f g : Field} {v u : Value} {raw raw' : Row} {name : String}

theorem Value.FormAt.asText (hu : raw.get? name = some u) {key : String} (h : v.FormAt raw key) :
    v.FormAt (raw.insert name (.text u.toText)) key := by
  obtain ⟨w, hw, hform⟩ := h
  unfold FormAt
  rw [NameMap.get?_insert]
  by_cases hn : name = key
  · subst hn
    obtain rfl : u = w := Option.some.inj (hu.symm.trans hw)
    exact ⟨_, if_pos rfl, hform.asText⟩
  · exact ⟨w, by rw [if_neg hn, hw], hform⟩

theorem Value.FormAt.addColumn (hnew : raw.get? name = none) (u : Value) {key : String}
    (h : v.FormAt raw key) : v.FormAt (raw.insert name u) key := by
  obtain ⟨w, hw, hform⟩ := h
  have hn : ¬ name = key := by
    rintro rfl
    rw [hnew] at hw
    cases hw
  exact ⟨w, by rw [NameMap.get?_insert, if_neg hn, hw], hform⟩

/-- A change of a row that keeps the forms of a value where they are looked for. -/
theorem Field.ShownIn.mono (h : f.ShownIn v raw)
    (hown : v.FormAt raw f.name → v.FormAt raw' f.name)
    (hnone : raw.get? f.name = none → raw'.get? f.name = none)
    (hstore : f.role = .measurement → v.FormAt raw measurementColumn →
      v.FormAt raw' measurementColumn) : f.ShownIn v raw' := by
  refine h.imp hown ?_
  rintro ⟨habsent, hrest⟩
  refine ⟨hnone habsent, ?_⟩
  cases hr : f.role with
  | measurement =>
    rw [hr] at hrest
    exact hstore hr hrest
  | tag => rwa [hr] at hrest
  | field => rwa [hr] at hrest

theorem Field.ShownIn.formAt (h : f.ShownIn v raw) (hu : raw.get? f.name = some u) :
    v.Forms u := by
  rcases h with ⟨w, hw, hform⟩ | ⟨hnone, -⟩
  · obtain rfl : u = w := Option.some.inj (hu.symm.trans hw)
    exact hform
  · rw [hnone] at hu
    cases hu

theorem Field.ShownIn.asText (h : f.ShownIn v raw) (hu : raw.get? name = some u) :
    f.ShownIn v (raw.insert name (.text u.toText)) := by
  refine h.mono (.asText hu) (fun hnone => ?_) fun _ => .asText hu
  have hn : ¬ name = f.name := by
    rintro rfl
    rw [hnone] at hu
    cases hu
  rw [NameMap.get?_insert, if_neg hn, hnone]

theorem Field.ShownIn.moveMeasurement (hf : f ∈ t.fields) (hg : g ∈ t.fields)
    (hgm : g.role = .measurement) (h : f.ShownIn v raw) (hu : raw.get? g.name = some u) :
    f.ShownIn v ((raw.erase g.name).insert measurementColumn u) := by
  have hstore : ¬ measurementColumn = f.name :=
    (RecordType.name_ne_of_reserved hf reservedName_measurementColumn).symm
  by_cases he : g.name = f.name
  · obtain rfl : g = f := RecordType.field_ext hf hg he
    refine .inr ⟨?_, ?_⟩
    · rw [NameMap.get?_insert, if_neg hstore, NameMap.get?_erase, if_pos rfl]
    · rw [hgm]
      exact ⟨u, by rw [NameMap.get?_insert, if_pos rfl], h.formAt hu⟩
  · have hown : ((raw.erase g.name).insert measurementColumn u).get? f.name = raw.get? f.name := by
      rw [NameMap.get?_insert, if_neg hstore, NameMap.get?_erase, if_neg he]
    -- no other column is a measurement, so none is looked for in the store's column
    refine h.mono ?_ (hown.trans ·) fun hfm => ?_
    · rintro ⟨w, hw, hform⟩
      exact ⟨w, hown.trans hw, hform⟩
    · exact absurd (congrArg Field.name (RecordType.measurement_unique hf hg hfm hgm)) he

theorem Field.ShownIn.dropTag (hf : f ∈ t.fields) (hg : g ∈ t.fields) (hgt : g.role = .tag)
    (hk : v.kind = f.kind) (h : f.ShownIn v raw) (hu : raw.get? g.name = some (.text "")) :
    f.ShownIn v (raw.erase g.name) := by
  have hstore : ¬ g.name = measurementColumn :=
    RecordType.name_ne_of_reserved hg reservedName_measurementColumn
  by_cases he : g.name = f.name
  · obtain rfl : g = f := RecordType.field_ext hf hg he
    -- a tag is text, and the only text with the empty text as a form is the empty one
    have hread := (h.formAt hu).coerce
    rw [hk, t.wellFormed.tagsText g hg hgt] at hread
    refine .inr ⟨by rw [NameMap.get?_erase, if_pos rfl], ?_⟩
    rw [hgt]
    exact (Option.some.inj hread).symm
  · have hkeep : ∀ {key}, ¬ g.name = key → v.FormAt raw key → v.FormAt (raw.erase g.name) key := by
      rintro key hne ⟨w, hw, hform⟩
      exact ⟨w, by rw [NameMap.get?_erase, if_neg hne, hw], hform⟩
    exact h.mono (hkeep he) (fun hnone => by rw [NameMap.get?_erase, if_neg he, hnone])
      fun _ => hkeep hstore

theorem Field.ShownIn.addColumn (h : f.ShownIn v raw) (hne : f.name ≠ name)
    (hnew : raw.get? name = none) (u : Value) : f.ShownIn v (raw.insert name u) :=
  h.mono (.addColumn hnew u) (fun hnone => by rw [NameMap.get?_insert, if_neg hne.symm, hnone])
    fun _ => .addColumn hnew u

/-- Every raw form of a record shows each declared column. -/
theorem Declaration.RawForm.shown {d : Declaration} {row : Row} (hd : d.recordType = .ok t)
    (hr : d.IsRecord row) (h : d.RawForm row raw) (hf : f ∈ d.fields)
    (hv : row.get? f.name = some v) : f.ShownIn v raw := by
  obtain ⟨-, hfields⟩ := RecordType.fields_of_recordType hd
  have hmem : ∀ {g}, g ∈ d.fields → g ∈ t.fields := fun hg => hfields ▸ hg
  have hk : v.kind = f.kind := by
    obtain ⟨w, hw, hk⟩ := hr.holds f hf
    obtain rfl : v = w := Option.some.inj (hv.symm.trans hw)
    exact hk
  induction h with
  | typed => exact .inl ⟨v, hv, .refl v⟩
  | asText _ hu ih => exact ih.asText hu
  | moveMeasurement _ hg hgm hu ih => exact ih.moveMeasurement (hmem hf) (hmem hg) hgm hu
  | dropTag _ hg hgt hu ih => exact ih.dropTag (hmem hf) (hmem hg) hgt hk hu
  | addColumn _ hnew hnone u ih => exact ih.addColumn (hnew f hf) hnone u

/-- A column that is shown hydrates to its value. -/
theorem Field.hydrate_of_shown (hk : v.kind = f.kind) (h : f.ShownIn v raw) (record : String) :
    f.hydrate record raw = .ok v := by
  have hform : ∀ {w : Value}, v.Forms w → w.coerce f.kind = some v := fun hw => hk ▸ hw.coerce
  rcases h with ⟨w, hw, hv⟩ | ⟨hnone, hrest⟩
  · have hraw : f.rawValue raw = some w := by
      unfold rawValue
      cases f.role <;> simp only [hw, Option.some_or]
    simp only [hydrate, hraw, hform hv]
  · unfold hydrate rawValue
    cases hr : f.role with
    | measurement =>
      rw [hr] at hrest
      obtain ⟨w, hw, hv⟩ := hrest
      simp only [hnone, Option.none_or, hw, hform hv]
    | tag =>
      rw [hr] at hrest
      simp only [hnone, if_true, hrest]
    | field =>
      rw [hr] at hrest
      exact hrest.elim

end Shown

/-- **One record, many forms.** Every raw form of a record hydrates to the record and to nothing
else, and the record hydrates to itself. -/
theorem RecordType.hydrate_rawForm {d : Declaration} {t : RecordType} (hd : d.recordType = .ok t)
    {row raw : Row} (hr : d.IsRecord row) (h : d.RawForm row raw) :
    t.hydrate raw = .ok row ∧ t.hydrate row = .ok row := by
  obtain ⟨-, hfields⟩ := fields_of_recordType hd
  have hform : ∀ {form : Row}, d.RawForm row form → t.hydrate form = .ok row := by
    intro form hform
    refine collectRow_of_forall (fun f hf => ?_) fun name hname => ?_
    · have hfd : f ∈ d.fields := hfields ▸ hf
      obtain ⟨v, hv, hk⟩ := hr.holds f hfd
      have hshown : f.ShownIn v form := hform.shown hd hr hfd hv
      exact ⟨v, hv, Field.hydrate_of_shown hk hshown t.name⟩
    · rw [NameMap.get?_empty, hr.only name (hfields ▸ hname)]
  exact ⟨hform h, hform .typed⟩

/-- A room on the ninth floor and in no wing. -/
def ninthRoom : Row := roomRow 9 "" (.zero true)

/-- What a server answers of it, with the time and a column of the server's own. -/
def answeredRoom : Row :=
  .ofList [("_measurement", .text "9"), ("_time", .integer 5), ("celsius", .text "-0"),
    ("result", .boolean true)]

theorem rawForm_answeredRoom :
    roomType.handle.declaration.RawForm ninthRoom answeredRoom := by
  have hsteps : answeredRoom = ((((((ninthRoom.erase "floor").insert measurementColumn
      (.integer 9)).insert measurementColumn (.text (Value.integer 9).toText)).insert "celsius"
        (.text (Value.number (.zero true)).toText)).erase "wing").insert "_time"
          (.integer 5)).insert "result" (.boolean true) := by decide +kernel
  rw [hsteps]
  apply Declaration.RawForm.addColumn _ (by decide +kernel) (by decide +kernel)
  apply Declaration.RawForm.addColumn _ (by decide +kernel) (by decide +kernel)
  apply Declaration.RawForm.dropTag (f := ⟨"wing", .string, .tag⟩) _ (by decide +kernel) rfl
    (by decide +kernel)
  apply Declaration.RawForm.asText _ (by decide +kernel)
  apply Declaration.RawForm.asText _ (by decide +kernel)
  exact Declaration.RawForm.moveMeasurement (f := ⟨"floor", .integer, .measurement⟩) .typed
    (by decide +kernel) rfl (by decide +kernel)

theorem hydrate_answeredRoom : roomType.handle.declaration.IsRecord ninthRoom ∧
    roomType.handle.declaration.RawForm ninthRoom answeredRoom ∧
      roomType.hydrate answeredRoom = .ok ninthRoom := by
  have hread : roomType.handle.declaration.readRecord ninthRoom = .ok ninthRoom := by
    decide +kernel
  have hrecord : roomType.handle.declaration.IsRecord ninthRoom :=
    Declaration.isRecord_of_readRecord roomType.handle.declared hread
  refine ⟨hrecord, rawForm_answeredRoom, ?_⟩
  exact (RecordType.hydrate_rawForm roomType.handle.declared hrecord rawForm_answeredRoom).1

end TypedSeries
