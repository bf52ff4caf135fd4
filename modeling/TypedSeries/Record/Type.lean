import TypedSeries.Record.Error

/-!
# Record types

A record type is a name and an ordered list of typed columns, each with a place in the stored
point. `RecordType.declare` looks for the first fault of a declaration, and a record type is a
declaration without one.

**Main.** `fault_eq_none_iff`: no fault is found exactly in the well-formed declarations.
-/

namespace TypedSeries

/-! ## Fields -/

/-- Where a column goes in a stored point: it names the measurement, is an indexed text, or is a
value. -/
inductive Role where
  | measurement
  | tag
  | field
deriving DecidableEq, Repr

/-- A declared column. -/
structure Field where
  name : String
  kind : Kind
  role : Role
deriving DecidableEq, Repr

/-- Names that begin with a low line belong to the store. -/
def reservedName (s : String) : Bool := s.toList.head? = some '_'

/-- Whether a text shows nothing. -/
def blankName (s : String) : Bool := trim s.toList = []

/-! ## Well-formed declarations -/

/-- The rules of a declaration: a visible name, no reserved column name, no column name twice,
tags of text, at most one measurement, at least one value. -/
structure WellFormed (name : String) (fields : List Field) : Prop where
  visible : blankName name = false
  unreserved : ∀ f ∈ fields, reservedName f.name = false
  distinct : (fields.map Field.name).Nodup
  tagsText : ∀ f ∈ fields, f.role = .tag → f.kind = .string
  oneMeasurement : (fields.filter (·.role = .measurement)).length ≤ 1
  someValue : ∃ f ∈ fields, f.role = .field

/-- The first fault of a list of fields, given the names of the fields before it. -/
def fieldFault (record : String) : List String → List Field → Option SchemaError
  | _, [] => none
  | seen, f :: rest =>
    if reservedName f.name then some (.reservedField record f.name)
    else if f.name ∈ seen then some (.duplicateField record f.name)
    else if f.role = .tag ∧ f.kind ≠ .string then some (.nonStringTag record f.name f.kind)
    else fieldFault record (f.name :: seen) rest

/-- The first fault of a declaration: its name, then its fields in order, then how many of them
name the measurement or hold values. -/
def fault (name : String) (fields : List Field) : Option SchemaError :=
  if blankName name then some .emptyName
  else match fieldFault name [] fields with
    | some e => some e
    | none =>
      if 1 < (fields.filter (·.role = .measurement)).length then some (.multipleMeasurements name)
      else if fields.any (·.role = .field) then none
      else some (.noValueField name)

theorem fieldFault_eq_none_iff {record : String} {seen : List String} {fields : List Field} :
    fieldFault record seen fields = none ↔
      (∀ f ∈ fields, reservedName f.name = false) ∧
      (∀ f ∈ fields, f.name ∉ seen) ∧ (fields.map Field.name).Nodup ∧
      (∀ f ∈ fields, f.role = .tag → f.kind = .string) := by
  induction fields generalizing seen with
  | nil => simp [fieldFault]
  | cons f rest ih =>
    rw [fieldFault]
    split
    next h => simp [h]
    next h =>
      split
      next hs => simp [hs]
      next hs =>
        split
        next ht => simp [ht]
        next ht =>
          rw [ih]
          simp only [List.forall_mem_cons, List.map_cons, List.nodup_cons]
          simp only [List.mem_cons, not_or, List.mem_map, not_exists, not_and]
          constructor
          · rintro ⟨hr, hn, hd, hk⟩
            exact ⟨⟨by simpa using h, hr⟩, ⟨hs, fun g hg => (hn g hg).2⟩,
              ⟨fun g hg e => (hn g hg).1 e, hd⟩,
              ⟨fun hf => Decidable.byContradiction fun hc => ht ⟨hf, hc⟩, hk⟩⟩
          · rintro ⟨⟨_, hr⟩, ⟨_, hn⟩, ⟨hne, hd⟩, ⟨_, hk⟩⟩
            exact ⟨hr, fun g hg => ⟨fun e => hne g hg e, hn g hg⟩, hd, hk⟩

/-- A declaration has no fault exactly when it is well formed. -/
theorem fault_eq_none_iff {name : String} {fields : List Field} :
    fault name fields = none ↔ WellFormed name fields := by
  unfold fault
  split
  next h => exact ⟨(fun e => nomatch e), fun w => by simp [w.visible] at h⟩
  next h =>
    have hv : blankName name = false := by simpa using h
    split
    next e he =>
      refine ⟨(fun e => nomatch e), fun w => ?_⟩
      have : fieldFault name [] fields = none :=
        fieldFault_eq_none_iff.2 ⟨w.unreserved, by simp, w.distinct, w.tagsText⟩
      rw [this] at he
      exact nomatch he
    next he =>
      obtain ⟨hr, _, hd, hk⟩ := fieldFault_eq_none_iff.1 he
      split
      next hm => exact ⟨(fun e => nomatch e), fun w => absurd w.oneMeasurement (by omega)⟩
      next hm =>
        split
        next ha =>
          refine ⟨fun _ => ⟨hv, hr, hd, hk, by omega, ?_⟩, fun _ => rfl⟩
          simpa using ha
        next ha =>
          refine ⟨(fun e => nomatch e), fun w => ?_⟩
          obtain ⟨f, hf, hr⟩ := w.someValue
          exact absurd (List.any_eq_true.2 ⟨f, hf, by simpa using hr⟩) ha

/-! ## Record types -/

/-- A named, ordered list of columns without a fault. -/
structure RecordType where
  name : String
  fields : List Field
  wellFormed : WellFormed name fields

instance : DecidableEq RecordType := fun a b =>
  if h : a.name = b.name ∧ a.fields = b.fields then
    isTrue (by cases a; cases b; cases h.1; cases h.2; rfl)
  else isFalse (fun e => h ⟨e ▸ rfl, e ▸ rfl⟩)

namespace RecordType

/-- The record type of a declaration, or the first fault. -/
def declare (name : String) (fields : List Field) : Except SchemaError RecordType :=
  match h : fault name fields with
  | some e => .error e
  | none => .ok ⟨name, fields, fault_eq_none_iff.1 h⟩

/-- The column of that name. -/
def field? (t : RecordType) (name : String) : Option Field :=
  t.fields.find? (·.name = name)

/-- The column that names the measurement. -/
def measurementField (t : RecordType) : Option Field :=
  t.fields.find? (·.role = .measurement)

end RecordType

/-! ## Hydration -/

/-- The column that holds the measurement name in stored rows. -/
def measurementColumn : String := "_measurement"

/-- The column that holds the timestamp in stored rows. -/
def timeColumn : String := "_time"

/-- What a raw row holds for a field: its own column, and for the measurement the stored name
when the row has no such column. -/
def Field.rawValue (f : Field) (raw : Row) : Option Value :=
  match f.role with
  | .measurement => (raw.get? f.name).or (raw.get? measurementColumn)
  | _ => raw.get? f.name

/-- The typed value of a field in a raw row. A tag the store dropped was empty. -/
def Field.hydrate (f : Field) (record : String) (raw : Row) : Except SchemaError Value :=
  match f.rawValue raw with
  | some v =>
    match v.coerce f.kind with
    | some w => .ok w
    | none => .error (.invalidValue f.name f.kind v.toText)
  | none =>
    if f.role = .tag then .ok (.text "") else .error (.missingValue record f.name)

/-- Collect a value for each field, in order, into a row; the first error ends it. -/
def collectRow (value : Field → Except SchemaError Value) :
    List Field → Row → Except SchemaError Row
  | [], row => .ok row
  | f :: rest, row =>
    match value f with
    | .ok v => collectRow value rest (row.insert f.name v)
    | .error e => .error e

/-- A raw row as the store returns it, typed after the record type. -/
def RecordType.hydrate (t : RecordType) (raw : Row) : Except SchemaError Row :=
  collectRow (fun f => f.hydrate t.name raw) t.fields .empty

end TypedSeries
