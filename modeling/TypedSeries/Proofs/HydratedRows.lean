import TypedSeries.Proofs.DeclarationFaults
import TypedSeries.Proofs.HandleRecords

/-!
# What hydration makes of a raw row

Any row at all may come from a store, and hydration makes a row of the declared columns of it or
tells which column it could not make.

1. A raw row gives a column what it holds under the column's name; a measurement it does not hold
   so is given by the store's own column (`Field.ReadsFrom`, `Field.Absent`).
2. One column is the coercion of what it is given, or an empty text in place of a tag that is not
   there (`Field.HydratesTo`), and it fails on every other row (`Field.FailsOn`).
3. Collecting the columns succeeds when each of them does (`collectRow_eq_ok_iff`), and otherwise
   fails as the first that does not (`collectRow_eq_error_iff`).

**Main.** `RecordType.hydrate_by_columns`: which row is made, that making it again changes nothing
and that no other column matters, when none is made, and which error there is then.
-/

namespace TypedSeries

/-! ## What a raw row gives a column -/

/-- A value that a raw row gives a column: under its own name, or, for a measurement that is not
there, in the column of the store. -/
inductive Field.ReadsFrom (f : Field) (raw : Row) (v : Value) : Prop
  | own (h : raw.get? f.name = some v)
  | stored (hm : f.role = .measurement) (hown : raw.get? f.name = none)
    (h : raw.get? measurementColumn = some v)

/-- A raw row gives a column nothing: it is not under its own name nor, for a measurement, in the
column of the store. -/
structure Field.Absent (f : Field) (raw : Row) : Prop where
  own : raw.get? f.name = none
  stored : f.role = .measurement → raw.get? measurementColumn = none

/-- The value of a column in the row that is made: what the raw row gives it, read as its kind, or
an empty text where the raw row gives a tag nothing. -/
inductive Field.HydratesTo (f : Field) (raw : Row) (w : Value) : Prop
  | read {v : Value} (hv : f.ReadsFrom raw v) (hw : v.coerce f.kind = some w)
  | dropped (ht : f.role = .tag) (ha : f.Absent raw) (hw : w = .text "")

/-- What is wrong with a raw row for a column: it gives nothing and the column is no tag, or what
it gives cannot be read as the column's kind. -/
inductive Field.FailsOn (f : Field) (record : String) (raw : Row) : SchemaError → Prop
  | missing (ht : f.role ≠ .tag) (ha : f.Absent raw) :
    f.FailsOn record raw (.missingValue record f.name)
  | unreadable {v : Value} (hv : f.ReadsFrom raw v) (hw : v.coerce f.kind = none) :
    f.FailsOn record raw (.invalidValue f.name f.kind v.toText)

namespace Field

variable {f : Field} {record : String} {raw raw' : Row} {v w : Value} {e : SchemaError}

theorem rawValue_eq_some_iff : f.rawValue raw = some v ↔ f.ReadsFrom raw v := by
  unfold rawValue
  constructor
  · intro h
    split at h
    next hm =>
      rcases Option.or_eq_some_iff.1 h with hown | ⟨hnone, hstore⟩
      · exact .own hown
      · exact .stored hm hnone hstore
    next => exact .own h
  · intro h
    cases h with
    | own h => cases f.role <;> simp only [h, Option.some_or]
    | stored hm hnone h => simp only [hm, hnone, h, Option.none_or]

theorem rawValue_eq_none_iff : f.rawValue raw = none ↔ f.Absent raw := by
  unfold rawValue
  constructor
  · intro h
    split at h
    next =>
      obtain ⟨hown, hstore⟩ := Option.or_eq_none_iff.1 h
      exact ⟨hown, fun _ => hstore⟩
    next hm => exact ⟨h, fun hr => absurd hr hm⟩
  · rintro ⟨hown, hstore⟩
    split
    next hm => rw [hown, hstore hm, Option.none_or]
    next => exact hown

/-- Two raw rows that hold the same under a column's name, and in the column of the store where a
measurement is not there, give it the same. -/
theorem rawValue_congr (hown : raw'.get? f.name = raw.get? f.name)
    (hstore : f.role = .measurement → raw.get? f.name = none →
      raw'.get? measurementColumn = raw.get? measurementColumn) :
    f.rawValue raw' = f.rawValue raw := by
  unfold rawValue
  split
  next hm =>
    rw [hown]
    cases hv : raw.get? f.name with
    | some v => rfl
    | none => rw [hstore hm hv]
  next => exact hown

theorem hydrate_eq_ok_iff : f.hydrate record raw = .ok w ↔ f.HydratesTo raw w := by
  unfold hydrate
  constructor
  · intro h
    split at h
    next v hv =>
      split at h
      next u hu =>
        cases h
        exact .read (rawValue_eq_some_iff.1 hv) hu
      next => cases h
    next hv =>
      split at h
      next ht =>
        cases h
        exact .dropped ht (rawValue_eq_none_iff.1 hv) rfl
      next => cases h
  · intro h
    cases h with
    | read hv hw => simp only [rawValue_eq_some_iff.2 hv, hw]
    | dropped ht ha hw => simp only [rawValue_eq_none_iff.2 ha, if_pos ht, hw]

theorem hydrate_eq_error_iff : f.hydrate record raw = .error e ↔ f.FailsOn record raw e := by
  unfold hydrate
  constructor
  · intro h
    split at h
    next v hv =>
      split at h
      next => cases h
      next hu =>
        cases h
        exact .unreadable (rawValue_eq_some_iff.1 hv) hu
    next hv =>
      split at h
      next => cases h
      next ht =>
        cases h
        exact .missing ht (rawValue_eq_none_iff.1 hv)
  · intro h
    cases h with
    | missing ht ha => simp only [rawValue_eq_none_iff.2 ha, if_neg ht]
    | unreadable hv hw => simp only [rawValue_eq_some_iff.2 hv, hw]

/-- A column that some raw row fails on is absent from it and no tag, or unreadable in it. -/
theorem exists_failsOn_iff : (∃ e, f.FailsOn record raw e) ↔
    (f.role ≠ .tag ∧ f.Absent raw) ∨ ∃ v, f.ReadsFrom raw v ∧ v.coerce f.kind = none := by
  constructor
  · rintro ⟨e, h⟩
    cases h with
    | missing ht ha => exact .inl ⟨ht, ha⟩
    | unreadable hv hw => exact .inr ⟨_, hv, hw⟩
  · rintro (⟨ht, ha⟩ | ⟨v, hv, hw⟩)
    · exact ⟨_, .missing ht ha⟩
    · exact ⟨_, .unreadable hv hw⟩

end Field

/-! ## Collecting the columns -/

section Collect

variable {value value' : Field → Except SchemaError Value} {fs : List Field} {acc row : Row}
  {e : SchemaError}

theorem collectRow_congr (h : ∀ f ∈ fs, value' f = value f) :
    collectRow value' fs acc = collectRow value fs acc := by
  induction fs generalizing acc with
  | nil => rfl
  | cons f fs ih =>
    rw [List.forall_mem_cons] at h
    unfold collectRow
    rw [h.1]
    cases value f with
    | error e => rfl
    | ok v => exact ih h.2

/-- Collecting fails with the first error along the columns. -/
theorem collectRow_eq_error_iff :
    collectRow value fs acc = .error e ↔ First (fun _ f e => value f = .error e) fs e := by
  induction fs generalizing acc with
  | nil => exact ⟨(nomatch ·), fun h => absurd h not_first_nil⟩
  | cons f fs ih =>
    rw [first_cons_iff, collectRow]
    cases hv : value f with
    | error e' => simp
    | ok v => simp [ih]

/-- Of columns of distinct names a row is collected that holds the value of each and no more. -/
theorem collectRow_eq_ok_iff (hn : (fs.map Field.name).Nodup) :
    collectRow value fs .empty = .ok row ↔
      (∀ f ∈ fs, ∃ v, row.get? f.name = some v ∧ value f = .ok v) ∧
        ∀ name, (∀ f ∈ fs, f.name ≠ name) → row.get? name = none := by
  constructor
  · exact fun h => get?_collectRow h hn
  · rintro ⟨hin, hout⟩
    exact collectRow_of_forall hin fun name hname => (hout name hname).symm

end Collect

/-! ## Rows -/

namespace RecordType

variable {t : RecordType} {raw row : Row} {e : SchemaError}

theorem hydrate_eq_ok_iff : t.hydrate raw = .ok row ↔
    (∀ f ∈ t.fields, ∃ w, row.get? f.name = some w ∧ f.HydratesTo raw w) ∧
      ∀ name, (∀ f ∈ t.fields, f.name ≠ name) → row.get? name = none := by
  unfold hydrate
  rw [collectRow_eq_ok_iff t.wellFormed.distinct]
  simp only [Field.hydrate_eq_ok_iff]

theorem hydrate_eq_error_iff : t.hydrate raw = .error e ↔
    First (fun _ f e => f.FailsOn t.name raw e) t.fields e := by
  unfold hydrate
  rw [collectRow_eq_error_iff]
  simp only [Field.hydrate_eq_error_iff]

/-- A row that is made is a record, and so it is made of itself. -/
theorem hydrate_hydrated (h : t.hydrate raw = .ok row) :
    (∀ f ∈ t.fields, ∃ w, row.get? f.name = some w ∧ w.kind = f.kind) ∧
      t.hydrate row = .ok row := by
  obtain ⟨hholds, honly⟩ :=
    Declaration.isRecord_of_hydrate (d := ⟨t.name, t.fields⟩) t.declare_self h
  refine ⟨hholds, ?_⟩
  rw [hydrate_eq_ok_iff]
  refine ⟨fun f hf => ?_, honly⟩
  obtain ⟨w, hw, hk⟩ := hholds f hf
  have hkept : w.coerce f.kind = some w := by rw [← hk, Value.coerce_kind]
  exact ⟨w, hw, .read (.own hw) hkept⟩

/-- There is an error when some column fails, whatever the others do. -/
theorem exists_hydrate_error_iff : (∃ e, t.hydrate raw = .error e) ↔
    ∃ f ∈ t.fields, ∃ e, f.FailsOn t.name raw e := by
  constructor
  · rintro ⟨e, h⟩
    obtain ⟨f, hf, he⟩ := collectRow_error h
    exact ⟨f, hf, e, Field.hydrate_eq_error_iff.1 he⟩
  · rintro ⟨f, hf, e, he⟩
    cases h : t.hydrate raw with
    | error e' => exact ⟨e', rfl⟩
    | ok row =>
      obtain ⟨w, -, hw⟩ := (hydrate_eq_ok_iff.1 h).1 f hf
      have := (Field.hydrate_eq_ok_iff.2 hw).symm.trans (Field.hydrate_eq_error_iff.2 he)
      cases this

/-- **Hydration.** From a raw row the row is made that holds for each declared column the coercion
of what the raw row gives it, or an empty text for a tag it gives nothing, and no other column;
each is of its declared kind, the row is made of itself again, and another raw row that agrees on
the declared columns makes the same. No row is made exactly when some column other than a tag is
given nothing or some column is given what cannot be read as its kind, and the error is that of
the first such column. -/
theorem hydrate_by_columns (t : RecordType) (raw : Row) :
    (∀ row, t.hydrate raw = .ok row ↔
      (∀ f ∈ t.fields, ∃ w, row.get? f.name = some w ∧ f.HydratesTo raw w) ∧
        ∀ name, (∀ f ∈ t.fields, f.name ≠ name) → row.get? name = none) ∧
    (∀ row, t.hydrate raw = .ok row →
      (∀ f ∈ t.fields, ∃ w, row.get? f.name = some w ∧ w.kind = f.kind) ∧
        t.hydrate row = .ok row) ∧
    (∀ raw' : Row, (∀ f ∈ t.fields, raw'.get? f.name = raw.get? f.name ∧
        (f.role = .measurement → raw.get? f.name = none →
          raw'.get? measurementColumn = raw.get? measurementColumn)) →
      t.hydrate raw' = t.hydrate raw) ∧
    ((∃ e, t.hydrate raw = .error e) ↔ ∃ f ∈ t.fields,
      (f.role ≠ .tag ∧ f.Absent raw) ∨ ∃ v, f.ReadsFrom raw v ∧ v.coerce f.kind = none) ∧
    ∀ e, t.hydrate raw = .error e ↔
      First (fun _ f e => f.FailsOn t.name raw e) t.fields e := by
  refine ⟨fun row => hydrate_eq_ok_iff, fun row => hydrate_hydrated, fun raw' h => ?_, ?_,
    fun e => hydrate_eq_error_iff⟩
  · refine collectRow_congr fun f hf => ?_
    unfold Field.hydrate
    rw [Field.rawValue_congr (h f hf).1 (h f hf).2]
  · simp only [exists_hydrate_error_iff, Field.exists_failsOn_iff]

/-- A room as a server may answer it, its wing left out and its numbers as text. -/
def foundRoom : Row :=
  .ofList [("_measurement", .text " 9"), ("celsius", .text "1e3"), ("note", .boolean true)]

theorem hydrate_foundRoom : roomType.hydrate foundRoom = .ok (roomRow 9 "" (.ofInt 1000)) ∧
    roomType.hydrate (roomRow 9 "" (.ofInt 1000)) = .ok (roomRow 9 "" (.ofInt 1000)) ∧
    roomType.hydrate (foundRoom.erase "note") = roomType.hydrate foundRoom := by
  have hfound : roomType.hydrate foundRoom = .ok (roomRow 9 "" (.ofInt 1000)) := by
    decide +kernel
  obtain ⟨-, hkept, hframe, -⟩ := hydrate_by_columns roomType foundRoom
  exact ⟨hfound, (hkept _ hfound).2, hframe _ (by decide +kernel)⟩

/-- A floor that cannot be read comes before a temperature that is not there. -/
example : roomType.hydrate (.ofList [("floor", .text "ninth")]) =
    .error (.invalidValue "floor" .integer "ninth") := by
  decide +kernel

end RecordType

end TypedSeries
