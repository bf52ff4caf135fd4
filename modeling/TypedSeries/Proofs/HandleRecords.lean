import TypedSeries.Proofs.BucketHistory

/-!
# Records of a handle

What a handle reads, whatever text it is given and whatever has happened to its store.

1. A row that its type can hydrate is a record of its declaration
   (`Declaration.readRecord_of_hydrate`), and a row that cannot be hydrated lacks a value or has
   one of another kind (`RecordType.hydrate_error`).
2. Rows of the handle's bucket are hydrated by its own type, and rows of another bucket are
   refused (`Handle.readOutput_own`, `Handle.readOutput_other`).
3. A session's transport stays in memory, and a handle's type stays under its name
   (`Session.Reachable.exists_memory`, `Session.Binds.run`).

**Main.** `Session.reads_own_records`: after any run a handle gives records only of its own
bucket, one for each row selected.
-/

namespace TypedSeries

/-! ## Hydrated rows -/

section Hydrate

variable {f : Field} {record : String} {raw row : Row} {v : Value} {e : SchemaError}

/-- A hydrated value is of the column's kind. -/
theorem Field.kind_of_hydrate (htag : f.role = .tag → f.kind = .string)
    (h : f.hydrate record raw = .ok v) : v.kind = f.kind := by
  unfold hydrate at h
  split at h
  next u _ =>
    split at h
    next w hw => cases h; exact Value.kind_of_coerce hw
    next => cases h
  next =>
    split at h
    next hr => cases h; exact (htag hr).symm
    next => cases h

/-- A column that cannot be hydrated is missing or holds a value that is not of its kind. -/
theorem Field.hydrate_error (h : f.hydrate record raw = .error e) :
    e = .missingValue record f.name ∨ ∃ v : Value, e = .invalidValue f.name f.kind v.toText := by
  unfold hydrate at h
  split at h
  next u _ =>
    split at h
    next => cases h
    next => cases h; exact .inr ⟨u, rfl⟩
  next =>
    split at h
    next => cases h
    next => cases h; exact .inl rfl

theorem collectRow_error {value : Field → Except SchemaError Value} {fs : List Field} {acc : Row}
    (h : collectRow value fs acc = .error e) : ∃ f ∈ fs, value f = .error e := by
  induction fs generalizing acc with
  | nil => cases h
  | cons f fs ih =>
    rw [collectRow] at h
    split at h
    next =>
      obtain ⟨g, hg, he⟩ := ih h
      exact ⟨g, List.mem_cons_of_mem f hg, he⟩
    next hf => cases h; exact ⟨f, List.mem_cons_self, hf⟩

/-- A row that cannot be hydrated lacks the value of a column or has one of another kind. -/
theorem RecordType.hydrate_error {t : RecordType} (h : t.hydrate raw = .error e) :
    ∃ f ∈ t.fields, e = .missingValue t.name f.name ∨
      ∃ v : Value, e = .invalidValue f.name f.kind v.toText := by
  obtain ⟨f, hf, he⟩ := collectRow_error h
  exact ⟨f, hf, Field.hydrate_error he⟩

namespace Declaration

variable {d : Declaration} {t : RecordType}

theorem isRecord_of_hydrate (hd : d.recordType = .ok t) (h : t.hydrate raw = .ok row) :
    d.IsRecord row := by
  obtain ⟨-, hfields⟩ := RecordType.fields_of_recordType hd
  obtain ⟨hin, hout⟩ := get?_collectRow h t.wellFormed.distinct
  refine ⟨fun f hf => ?_, fun name hname => hout name (hfields ▸ hname)⟩
  have hf : f ∈ t.fields := hfields ▸ hf
  obtain ⟨v, hv, hok⟩ := hin f hf
  exact ⟨v, hv, Field.kind_of_hydrate (t.wellFormed.tagsText f hf) hok⟩

/-- **A row that hydrates** is read as the record it is hydrated to. -/
theorem readRecord_of_hydrate (hd : d.recordType = .ok t) (h : t.hydrate raw = .ok row) :
    d.readRecord row = .ok row :=
  readRecord_of_isRecord (isRecord_of_hydrate hd h)

end Declaration

/-- Reading a row by the handle's own type is hydrating it. -/
theorem Handle.readRow_own (h : Handle) (raw : Row) :
    h.readRow h.recordType raw = h.recordType.hydrate raw := by
  unfold readRow
  cases hraw : h.recordType.hydrate raw with
  | error e => rfl
  | ok row => exact Declaration.readRecord_of_hydrate h.declared hraw

end Hydrate

/-! ## Rows of a bucket -/

namespace Handle

variable (h : Handle) {s : Store} {name text : String} {rows : List Row} {now : Int64}

/-- What the rows of the handle's own bucket are read as. -/
def records (h : Handle) (rows : List Row) : Except StoreError (List Row) :=
  (rows.mapM h.recordType.hydrate).mapError .schema

theorem records_eq_ok_iff {out : List Row} : h.records rows = .ok out ↔
    List.Forall₂ (fun raw row => h.recordType.hydrate raw = .ok row) rows out := by
  rw [← mapM_eq_ok_iff, records]
  cases rows.mapM h.recordType.hydrate with
  | error e => exact ⟨(nomatch ·), (nomatch ·)⟩
  | ok read => exact ⟨fun hok => congrArg _ (Except.ok.inj hok), fun hok => congrArg _ hok⟩

/-- Rows of the handle's own bucket are hydrated. -/
theorem readOutput_own (hr : s.registry.get? h.name = some h.recordType) :
    h.readOutput ⟨h.name, rows⟩ s = (h.records rows, s) := by
  have hname : ¬ h.recordType.name ≠ h.declaration.name := not_not_intro h.name_eq
  have hread : h.readRow h.recordType = h.recordType.hydrate := funext h.readRow_own
  unfold readOutput
  rw [bind_apply, StoreAction.fromRegistry_resolve hr]
  dsimp only
  rw [if_neg hname, hread]
  show ((rows.mapM h.recordType.hydrate).mapError StoreError.ofSchema, s) = _
  rcases mapM_cases h.recordType.hydrate rows with ⟨out, hout, -⟩ | ⟨raw, -, e, he, herr⟩
  · rw [records, hout]
    rfl
  · rw [records, herr]
    obtain ⟨f, -, rfl | ⟨v, rfl⟩⟩ := RecordType.hydrate_error he
    · rfl
    · rfl

/-- Rows of a bucket of another name are refused. -/
theorem readOutput_other (hn : name ≠ h.name) :
    h.readOutput ⟨name, rows⟩ s =
      (.error (if s.registry.contains name then .typeMismatch h.name name else .notFound name),
        s) := by
  unfold readOutput
  rw [bind_apply]
  cases hget : s.registry.get? name with
  | none =>
    have hnot : s.registry.contains name = false := by
      rw [Registry.contains, NameMap.contains, Registry.places_of_get?_none hget]
      rfl
    rw [StoreAction.fromRegistry_resolve_of_none hget, hnot]
    rfl
  | some t =>
    have hcontains : s.registry.contains name = true :=
      (s.registry.contains_iff name).2 ⟨t, by rw [Registry.resolve, hget]⟩
    have htname : t.name = name := (Registry.get?_eq_some_iff.1 hget).2
    rw [StoreAction.fromRegistry_resolve hget, hcontains]
    dsimp only
    rw [if_pos (by rwa [htname, ← h.name_eq]), htname, h.name_eq]
    rfl

/-- Query text on a store in memory: it is read, and what it selects of the bucket it names is
read by the handle. -/
theorem rawQuery_memory {m : MemoryStore} (hm : s.transport = .memory m) :
    h.rawQuery text now s = match Pipeline.parse text with
      | .error e => (.error (.ofTransport (.api 400 e.message)), s)
      | .ok p => match NameMap.get? m p.bucket with
        | none => (.error (.ofTransport (Transport.noBucket p.bucket)), s)
        | some b => h.readOutput
          ⟨p.bucket, b.select (p.toPlan (MemoryStore.kindOf m p.bucket)) now⟩ s := by
  obtain ⟨engine, transport, registry⟩ := s
  cases hm
  unfold rawQuery
  rw [bind_apply]
  unfold Store.onTransport Transport.queryText Transport.operate
  cases hp : Pipeline.parse text with
  | error e => rfl
  | ok p =>
    have hbucket : (p.toPlan (MemoryStore.kindOf m p.bucket)).bucket = p.bucket := rfl
    unfold Transport.select MemoryStore.query?
    dsimp only
    rw [hbucket]
    cases hb : NameMap.get? m p.bucket with
    | none => rfl
    | some b => rfl

section RawQuery

variable {m : MemoryStore}

/-- **Query text gives records** exactly if it names the handle's bucket and every row that it
selects can be hydrated. -/
theorem rawQuery_eq_ok_iff (hm : s.transport = .memory m)
    (hknown : s.registry.get? h.name = some h.recordType) {records : List Row} :
    (h.rawQuery text now s).1 = .ok records ↔ ∃ p b, Pipeline.parse text = .ok p ∧
      p.bucket = h.name ∧ NameMap.get? m h.name = some b ∧
      List.Forall₂ (fun raw row => h.recordType.hydrate raw = .ok row)
        (b.select (p.toPlan (MemoryStore.kindOf m p.bucket)) now) records := by
  rw [h.rawQuery_memory hm]
  constructor
  · intro hok
    cases hp : Pipeline.parse text with
    | error e => rw [hp] at hok; cases hok
    | ok p =>
      rw [hp] at hok
      dsimp only at hok
      cases hb : NameMap.get? m p.bucket with
      | none => rw [hb] at hok; cases hok
      | some b =>
        rw [hb] at hok
        dsimp only at hok
        by_cases hn : p.bucket = h.name
        · rw [hn, h.readOutput_own hknown] at hok
          refine ⟨p, b, rfl, hn, hn ▸ hb, ?_⟩
          rw [hn]
          exact h.records_eq_ok_iff.1 hok
        · rw [h.readOutput_other hn] at hok
          cases hok
  · rintro ⟨p, b, hp, hn, hb, hall⟩
    rw [hn] at hall
    rw [hp]
    dsimp only
    rw [hn, hb]
    dsimp only
    rw [h.readOutput_own hknown]
    exact h.records_eq_ok_iff.2 hall

/-- Query text that names another bucket there is refused. -/
theorem rawQuery_other (hm : s.transport = .memory m) {p : Pipeline} {b : Bucket}
    (hp : Pipeline.parse text = .ok p) (hn : p.bucket ≠ h.name)
    (hb : NameMap.get? m p.bucket = some b) : (h.rawQuery text now s).1 = .error
      (if s.registry.contains p.bucket then .typeMismatch h.name p.bucket
        else .notFound p.bucket) := by
  rw [h.rawQuery_memory hm, hp]
  dsimp only
  rw [hb]
  dsimp only
  rw [h.readOutput_other hn]

end RawQuery

end Handle

/-! ## Sessions -/

namespace Session

variable {s : Session} {place : Nat} {h : Handle}

theorem Reachable.exists_memory (hs : s.Reachable) : ∃ m, s.transport = .memory m := by
  induction hs with
  | start engine m stores shares => exact ⟨m, rfl⟩
  | @perform s _ now c ih =>
    obtain ⟨m, hm⟩ := ih
    obtain ⟨m', hm', -⟩ := (perform_evolves (s.leaves_none c) now).transport m hm
    exact ⟨m', hm'⟩

theorem Binds.run (hb : s.Binds place h) (steps : List (Int64 × Command)) :
    (s.run steps).Binds place h := by
  induction steps generalizing s with
  | nil => exact hb
  | cons step steps ih => exact ih (hb.of_evolves (perform_evolves (s.leaves_none step.2) step.1))

/-- What a handle's store answers to query text is what the handle's commands are answered. -/
theorem performHandle_rawQuery {store : Store} (hs : s.store? place = some store) (h : Handle)
    (now : Int64) (text : String) : (s.performHandle now place h (.rawQuery text)).1 =
      ((h.rawQuery text now store).1.mapError .store).map .records := by
  show (s.runStore place (h.rawQuery text now) .records).1 = _
  rw [runStore, hs]
  rfl

theorem answer_eq_ok_iff {result : Except StoreError (List Row)} {a : Answer} :
    (result.mapError CommandError.store).map Answer.records = .ok a ↔
      ∃ rows, a = .records rows ∧ result = .ok rows := by
  cases result with
  | error e => exact ⟨(nomatch ·), fun ⟨_, _, h⟩ => nomatch h⟩
  | ok rows =>
    constructor
    · intro h
      cases h
      exact ⟨rows, rfl, rfl⟩
    · rintro ⟨_, rfl, h⟩
      cases h
      rfl

/-- **A handle reads its own records.** After any run of a session from where a handle was given:

* the handle's registry gives the handle's own type under its name;
* a row that its type can hydrate is read as the record it is hydrated to, and the rows of its
  bucket are read, or refused for the fault of one of them, and for nothing else;
* query text gives records exactly if it names the handle's bucket and every row it selects can be
  hydrated, one record for each row in order; text that names another bucket there is gives an
  error. -/
theorem reads_own_records {s : Session} (hs : s.Reachable) {key : String} {place : Nat}
    {h : Handle} (hk : s.handles.get? key = some (place, h)) (steps : List (Int64 × Command)) :
    ∃ m r, (s.run steps).transport = .memory m ∧ (s.run steps).registries[place]? = some r ∧
      r.resolve h.name = .ok h.recordType ∧
      (∀ raw row, h.recordType.hydrate raw = .ok row → h.declaration.readRecord row = .ok row) ∧
      (∀ (store : Store) (rows : List Row), store.registry = r →
        (h.readOutput ⟨h.name, rows⟩ store).1 =
          (rows.mapM h.recordType.hydrate).mapError .schema) ∧
      ∀ (now : Int64) (text : String),
        let answer := ((s.run steps).performHandle now place h (.rawQuery text)).1
        (∀ a, answer = .ok a ↔ ∃ rows p b, a = .records rows ∧ Pipeline.parse text = .ok p ∧
          p.bucket = h.name ∧ NameMap.get? m h.name = some b ∧
          List.Forall₂ (fun raw row => h.recordType.hydrate raw = .ok row)
            (b.select (p.toPlan (MemoryStore.kindOf m p.bucket)) now) rows) ∧
        ∀ p b, Pipeline.parse text = .ok p → p.bucket ≠ h.name →
          NameMap.get? m p.bucket = some b → answer = .error (.store
            (if r.contains p.bucket then .typeMismatch h.name p.bucket
              else .notFound p.bucket)) := by
  obtain ⟨m, hm⟩ := (hs.run steps).exists_memory
  obtain ⟨r, hr, hknown⟩ := Binds.run (hs.resolves key place h hk) steps
  refine ⟨m, r, hm, hr, by rw [Registry.resolve, hknown],
    fun raw row => Declaration.readRecord_of_hydrate h.declared, fun store rows hstore => ?_,
    fun now text => ?_⟩
  · rw [h.readOutput_own (hstore ▸ hknown)]
    rfl
  · have hstore : (s.run steps).store? place = some ⟨(s.run steps).engine, .memory m, r⟩ := by
      rw [store?, hr, hm]
      rfl
    rw [performHandle_rawQuery hstore]
    refine ⟨fun a => ?_, fun p b hp hn hb => ?_⟩
    · rw [answer_eq_ok_iff]
      refine exists_congr fun rows => ?_
      rw [h.rawQuery_eq_ok_iff rfl hknown]
      simp only [exists_and_left]
    · rw [h.rawQuery_other (s := ⟨(s.run steps).engine, .memory m, r⟩) rfl hp hn hb]
      rfl

end Session

/-! ## Rooms beside a hall -/

/-- The session where a handle of rooms has just been given. -/
def boundSession : Session := roomSession.run (roomSteps.take 1)

/-- The command that gives the store a bucket that nothing is registered for. -/
def hallSteps : List (Int64 × Command) := [(1, .transport (.create "hall" roomType.schema))]

/-- Text that selects from the hall. -/
def hallQuery : Plan := ⟨"hall", .standard, []⟩

theorem reads_own_records_rooms :
    boundSession.Reachable ∧ boundSession.handles.get? "rooms" = some (0, roomType.handle) ∧
      ((boundSession.run hallSteps).performHandle 2 0 roomType.handle
        (.rawQuery hallQuery.toText)).1 = .error (.store (.notFound "hall")) := by
  have hs : boundSession.Reachable := reachable_roomSession.run _
  have hk : boundSession.handles.get? "rooms" = some (0, roomType.handle) := rfl
  obtain ⟨m, r, hm, hr, -, -, -, hread⟩ := Session.reads_own_records hs hk hallSteps
  have hparse : Pipeline.parse hallQuery.toText = .ok hallQuery.pipeline :=
    parse_toText (by decide) (fun _ hq => nomatch hq)
  have hhall : NameMap.get? m "hall" = some ⟨roomType.schema, []⟩ := by
    cases hm
    rfl
  have hunknown : r.contains "hall" = false := by
    cases hr
    rfl
  refine ⟨hs, hk, ((hread 2 _).2 _ _ hparse (by decide +kernel) hhall).trans ?_⟩
  show Except.error (CommandError.store (if r.contains "hall" then _ else _)) = _
  rw [hunknown]
  rfl

end TypedSeries
