import TypedSeries.Proofs.PipelineText
import TypedSeries.Proofs.SessionRun
import TypedSeries.Proofs.StoredRow

/-!
# The two ways to run a select

A select runs as it is, or as text that is read back and typed after the bucket's schema.

1. `Declaration.Selects` are the plans a declaration's fields can build: their ranges reach back
   and their literals have the kinds of their columns.
2. The schema of a record type gives each column its kind (`RecordType.kindOf_schema`), so the text
   of a select, typed after it, is the select (`Handle.toPlan_kindOf`).
3. Without a bucket both ways fail alike (`Transport.select_congr`).

**Main.** `Handle.execute_eq_query`: both ways give one result.
-/

namespace TypedSeries

/-! ## Selects -/

/-- A plan built from a declaration's select: comparisons of its columns with literals of their
kinds, in any number, and ranges given as text. -/
inductive Declaration.Selects (d : Declaration) : Plan → Prop
  | all : Selects d d.select
  | filterBy {p : Plan} (h : Selects d p) {f : Field} (hf : f ∈ d.fields) (op : Operator)
    {v : Value} (hv : v.kind = f.kind) : Selects d (p.filterBy (f.compareWith op v))
  | withRange {p p' : Plan} (h : Selects d p) {text : String}
    (hp : p.withRange text = .ok p') : Selects d p'

theorem Range.amount_of_read {cs : List Char} {r : Range} (h : Range.read cs = some r) :
    0 ≤ r.amount.toInt := by
  unfold Range.read at h
  split at h
  next rest =>
    obtain ⟨n, -, h⟩ := Option.bind_eq_some_iff.1 h
    split at h
    next hn =>
      obtain ⟨u, -, rfl⟩ := Option.map_eq_some_iff.1 h
      have hb : int64Bound = 9223372036854775808 := rfl
      show 0 ≤ (Int64.ofInt (n : Int)).toInt
      rw [Int64.toInt_ofInt_of_le (by omega) (by omega)]
      omega
    next => cases h
  next => cases h

namespace Declaration.Selects

variable {d : Declaration} {p : Plan}

theorem bucket (h : d.Selects p) : p.bucket = d.name := by
  induction h with
  | all => rfl
  | filterBy _ _ _ _ ih => exact ih
  | withRange _ hp ih =>
    unfold Plan.withRange at hp
    split at hp
    · cases hp; exact ih
    · cases hp

/-- The range of a select reaches back. -/
theorem amount_nonneg (h : d.Selects p) : 0 ≤ p.range.amount.toInt := by
  induction h with
  | all => exact (by decide : 0 ≤ Range.standard.amount.toInt)
  | filterBy _ _ _ _ ih => exact ih
  | withRange _ hp ih =>
    unfold Plan.withRange at hp
    split at hp
    next r hr =>
      cases hp
      unfold Range.parse at hr
      split at hr
      next hread => cases hr; exact Range.amount_of_read hread
      next => cases hr
    next => cases hp

/-- A predicate of a select compares a declared column, as its kind, with a literal of that
kind. -/
theorem predicate (h : d.Selects p) {q : Predicate} (hq : q ∈ p.predicates) :
    ∃ f ∈ d.fields, q.column = f.name ∧ q.kind = f.kind ∧ q.value.kind = f.kind := by
  induction h with
  | all => cases hq
  | @filterBy p _ f hf op v hv ih =>
    rcases List.mem_append.1 hq with hq | hq
    · exact ih hq
    · rw [List.mem_singleton.1 hq]
      refine ⟨f, hf, rfl, rfl, ?_⟩
      show ((v.coerce f.kind).getD v).kind = f.kind
      rw [← hv, Value.coerce_kind]
      rfl
  | withRange _ hp ih =>
    unfold Plan.withRange at hp
    split at hp
    · cases hp; exact ih hq
    · cases hp

end Declaration.Selects

/-! ## Columns and their kinds -/

namespace RecordType

variable {t : RecordType} {f : Field}

theorem get?_columns (hf : f ∈ t.fields) :
    t.schema.columns.get? f.name = some ⟨f.kind, f.role⟩ := by
  refine NameMap.get?_ofList ?_ (List.mem_map_of_mem (f := fun f => (f.name, _)) hf)
  rw [List.map_map]
  exact t.wellFormed.distinct

theorem kindOf_schema (hf : f ∈ t.fields) : t.schema.kindOf f.name = some f.kind := by
  rw [Schema.kindOf, get?_columns hf]
  rfl

end RecordType

/-! ## Running a select -/

namespace Transport

variable {m : MemoryStore} {p : Plan} {now : Int64}

/-- An operation that selects leaves the store in memory as it is. -/
theorem operate_select {inMemory : MemoryStore → Except TransportError (QueryOutput × MemoryStore)}
    {online : Http.Client → Http.Server → Http.Conversation QueryOutput}
    (h : inMemory m = select m p now) :
    operate inMemory online (.memory m) = ((select m p now).map Prod.fst, .memory m) := by
  unfold operate
  dsimp only
  rw [h]
  unfold select
  cases MemoryStore.query? m p now with
  | none => rfl
  | some o => rfl

theorem operate_offline {α : Type}
    (inMemory : MemoryStore → Except TransportError (α × MemoryStore))
    (online : Http.Client → Http.Server → Http.Conversation α) :
    operate inMemory online .offline = (.error offlineError, .offline) := rfl

/-- What a plan selects depends on it only if its bucket exists. -/
theorem select_congr {q : Plan} (hb : q.bucket = p.bucket)
    (h : ∀ b, NameMap.get? m p.bucket = some b → q = p) : select m q now = select m p now := by
  cases hg : NameMap.get? m p.bucket with
  | none =>
    unfold select MemoryStore.query?
    rw [hb, hg]
    rfl
  | some b => rw [h b hg]

/-- The text of a plan selects what the plan does, where the bucket gives the literals their
kinds. -/
theorem queryText_toText (hr : 0 ≤ p.range.amount.toInt)
    (hc : ∀ q ∈ p.predicates, PlainName q.column)
    (hp : ∀ b, NameMap.get? m p.bucket = some b →
      p.pipeline.toPlan (MemoryStore.kindOf m p.bucket) = p) (bucket : String) :
    queryText bucket p.toText now (.memory m) = query p now (.memory m) := by
  have hselect : select m (p.pipeline.toPlan (MemoryStore.kindOf m p.bucket)) now =
      select m p now := select_congr rfl hp
  unfold queryText query
  refine (operate_select ?_).trans (operate_select rfl).symm
  rw [parse_toText hr hc]
  exact hselect

end Transport

namespace Handle

/-- A store in memory, dead or not, that has no bucket of the handle's type or has one that was
created with the type's schema. -/
def Faces (h : Handle) (t : Transport) : Prop :=
  t = .offline ∨ ∃ m, t = .memory m ∧
    ∀ b, NameMap.get? m h.name = some b → b.schema = h.recordType.schema

theorem name_eq (h : Handle) : h.name = h.declaration.name :=
  (RecordType.fields_of_recordType h.declared).1

theorem fields_eq (h : Handle) : h.recordType.fields = h.declaration.fields :=
  (RecordType.fields_of_recordType h.declared).2

/-- The schema of a handle's bucket gives each literal of a select its kind back. -/
theorem toPlan_kindOf {h : Handle} {m : MemoryStore} {b : Bucket} {p : Plan}
    (hp : h.declaration.Selects p) (hb : NameMap.get? m h.name = some b)
    (hs : b.schema = h.recordType.schema) :
    p.pipeline.toPlan (MemoryStore.kindOf m p.bucket) = p := by
  refine Plan.toPlan_pipeline (fun q hq => ?_) fun q hq => ?_
  · obtain ⟨f, -, -, hk, hv⟩ := hp.predicate hq
    exact .inl (hv.trans hk.symm)
  · obtain ⟨f, hf, hcol, hk, -⟩ := hp.predicate hq
    rw [MemoryStore.kindOf, hp.bucket, ← h.name_eq, hb, Option.bind_some, hs, hcol, hk]
    exact RecordType.kindOf_schema (h.fields_eq ▸ hf)

/-- A transport that keeps no log stays as it is when a select is run as text. -/
theorem execute_eq_rawQuery (h : Handle) {s : Store}
    (hlog : ∀ es, s.transport.noteAll es = s.transport) (p : Plan) (now : Int64) :
    h.execute p now s = h.rawQuery p.toText now s := by
  have hnote : ∀ e, Store.note e s = (.ok (), s) := fun e =>
    congrArg (fun t => (Except.ok (), Store.mk s.engine t s.registry)) (hlog [e])
  unfold execute
  rw [bind_apply, hnote]

/-- A select runs as text as it runs as it is, if the transport answers alike and keeps no log. -/
theorem execute_eq_of_transport (h : Handle) {s : Store} {p : Plan} {now : Int64}
    (hlog : ∀ es, s.transport.noteAll es = s.transport)
    (ht : Transport.queryText h.name p.toText now s.transport =
      Transport.query p now s.transport) : h.execute p now s = h.query p now s := by
  have hselect : Store.onTransport (Transport.queryText h.name p.toText now) s =
      Store.onTransport (Transport.query p now) s := by
    unfold Store.onTransport
    rw [ht]
  rw [h.execute_eq_rawQuery hlog]
  unfold rawQuery query
  rw [bind_apply, bind_apply, hselect]

/-- **Two ways, one result.** A select run as text gives what it gives run as it is: the same
records in the same order or the same error, and the same store after it. -/
theorem execute_eq_query (h : Handle) (hc : ∀ f ∈ h.declaration.fields, PlainName f.name)
    {s : Store} (hs : h.Faces s.transport) {p : Plan} (hp : h.declaration.Selects p)
    (now : Int64) : h.execute p now s = h.query p now s := by
  have hcolumns : ∀ q ∈ p.predicates, PlainName q.column := by
    intro q hq
    obtain ⟨f, hf, hcol, -⟩ := hp.predicate hq
    exact hcol ▸ hc f hf
  rcases hs with hs | ⟨m, hs, hb⟩
  · refine h.execute_eq_of_transport (hs ▸ fun _ => rfl) ?_
    rw [hs]
    unfold Transport.queryText Transport.query
    rw [Transport.operate_offline, Transport.operate_offline]
  · refine h.execute_eq_of_transport (hs ▸ fun _ => rfl) ?_
    rw [hs]
    refine Transport.queryText_toText hp.amount_nonneg hcolumns (fun b hg => ?_) h.name
    rw [hp.bucket, ← h.name_eq] at hg
    exact toPlan_kindOf hp hg (hb b hg)

end Handle

/-! ## Rooms -/

/-- Rooms by floor: an integer names the measurement, and there are a tag and a value. -/
def roomType : RecordType where
  name := "room"
  fields := [⟨"floor", .integer, .measurement⟩, ⟨"wing", .string, .tag⟩,
    ⟨"celsius", .number, .field⟩]
  wellFormed := fault_eq_none_iff.1 (by decide +kernel)

/-- The row of a room. -/
def roomRow (floor : Int64) (wing : String) (celsius : Binary64) : Row :=
  .ofList [("floor", .integer floor), ("wing", .text wing), ("celsius", .number celsius)]

/-- Rooms of the last two days outside a wing whose name looks like query text, colder than
NaN. -/
def quotedSelect : Plan :=
  ⟨"room", ⟨2, .day⟩, [Field.compareWith ⟨"wing", .string, .tag⟩ .notEqual (.text "\"\\) |> \n"),
    Field.compareWith ⟨"celsius", .number, .field⟩ .less (.number .nan)]⟩

theorem selects_quotedSelect : roomType.handle.declaration.Selects quotedSelect := by
  have hwing : ⟨"wing", .string, .tag⟩ ∈ roomType.handle.declaration.fields := by decide +kernel
  have hcelsius : ⟨"celsius", .number, .field⟩ ∈ roomType.handle.declaration.fields := by
    decide +kernel
  have hrange : ∀ p : Plan, p.withRange " -2d" = .ok { p with range := ⟨2, .day⟩ } := fun p => rfl
  exact .withRange (.filterBy (.filterBy .all hwing .notEqual rfl) hcelsius .less rfl) (hrange _)

/-- A store whose bucket of rooms holds a row that is none. -/
def roomStore : Store :=
  ⟨.bind "host" "token" "organization",
    .memory (NameMap.empty.insert "room" ⟨roomType.schema, [roomRow 1 "a" .nan, .empty]⟩), .empty⟩

theorem faces_roomStore : roomType.handle.Faces roomStore.transport := by
  refine .inr ⟨_, rfl, fun b hb => ?_⟩
  cases hb
  rfl

theorem execute_quotedSelect :
    (∀ f ∈ roomType.handle.declaration.fields, PlainName f.name) ∧
      roomType.handle.Faces roomStore.transport ∧
      roomType.handle.declaration.Selects quotedSelect ∧
      roomType.handle.execute quotedSelect 7 roomStore =
        roomType.handle.query quotedSelect 7 roomStore :=
  have hc : ∀ f ∈ roomType.handle.declaration.fields, PlainName f.name := by decide +kernel
  ⟨hc, faces_roomStore, selects_quotedSelect,
    Handle.execute_eq_query roomType.handle hc faces_roomStore selects_quotedSelect 7⟩

end TypedSeries
