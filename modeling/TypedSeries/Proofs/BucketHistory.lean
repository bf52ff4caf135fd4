import TypedSeries.Proofs.QueryPaths

/-!
# The history of a bucket

What a run of a session writes to a bucket, and what a select reads of it.

1. `Session.written` lists the records one command adds through a handle of a declaration, each
   at its time, and `Session.history` those of a whole run.
2. A bucket that only such commands write to holds the stored rows of its history
   (`Session.holds_perform`, `Session.holds_run`).
3. A select over stored rows reads the records whose time is in the range and whose rows satisfy
   its predicates (`Session.perform_query`).

**Main.** `Session.read_back`: a select without predicates gives back the records written in the
range, in the order of writing.
-/

namespace TypedSeries

/-! ## Batches -/

/-- Records and the times a batch of them gets: the time of writing and a nanosecond more for each
record before, within 64 bits. -/
def stamp (now : Int64) (records : List Row) : List (Int64 × Row) :=
  records.mapIdx fun i row => (Int64.ofIntClamp (now.toInt + i), row)

/-- The rows a store keeps of records at their times. -/
def storedRows (t : RecordType) (es : List (Int64 × Row)) : List Row :=
  es.map fun e => storedRow t e.1 e.2

theorem mem_of_mem_stamp {now : Int64} {records : List Row} {e : Int64 × Row}
    (h : e ∈ stamp now records) : e.2 ∈ records := by
  obtain ⟨i, hi, rfl⟩ := List.mem_mapIdx.1 h
  exact List.getElem_mem hi

theorem toRow_ofBatch (t : RecordType) (records : List Row) (now later : Int64) :
    (Point.ofBatch t records now).map (·.toRow later) = storedRows t (stamp now records) := by
  unfold Point.ofBatch storedRows stamp
  refine List.ext_getElem? fun i => ?_
  rw [List.getElem?_map, List.getElem?_map, List.getElem?_mapIdx, List.getElem?_mapIdx]
  cases records[i]? with
  | none => rfl
  | some row => exact congrArg some (toRow_ofRow t row _ later)

/-- The records a declaration reads of rows to add, at their times. Where one of the rows is no
record, none is added. -/
def Declaration.batch (d : Declaration) (now : Int64) (rows : List Row) : List (Int64 × Row) :=
  match rows.mapM d.readRecord with
  | .ok records => stamp now records
  | .error _ => []

/-- Typed records are added as they are. -/
theorem Declaration.batch_of_isRecord {d : Declaration} {rows : List Row}
    (h : ∀ row ∈ rows, d.IsRecord row) (now : Int64) : d.batch now rows = stamp now rows := by
  have hread : rows.mapM d.readRecord = .ok rows := by
    have := mapM_map_eq_ok (f := d.readRecord) (g := id) (k := id) fun row hr =>
      readRecord_of_isRecord (h row hr)
    rwa [List.map_id] at this
  unfold batch
  rw [hread]

theorem Declaration.isRecord_of_mem_batch {d : Declaration} {t : RecordType}
    (hd : d.recordType = .ok t) {now : Int64} {rows : List Row} {e : Int64 × Row}
    (h : e ∈ d.batch now rows) : d.IsRecord e.2 := by
  unfold batch at h
  split at h
  next records hr =>
    obtain ⟨row, -, hrow⟩ := mem_of_mapM hr (mem_of_mem_stamp h)
    exact isRecord_of_readRecord hd hrow
  next => cases h

/-! ## Writing through a handle -/

/-- A batch is written at the end of the handle's bucket. -/
theorem Handle.addAll_memory (h : Handle) {s : Store} {m : MemoryStore} {b : Bucket}
    (hm : s.transport = .memory m) (hb : NameMap.get? m h.name = some b) (records : List Row)
    (now : Int64) : ∃ m', h.addAll records now s = (.ok true, { s with transport := .memory m' }) ∧
      NameMap.get? m' h.name =
        some { b with rows := b.rows ++ storedRows h.recordType (stamp now records) } := by
  obtain ⟨engine, transport, registry⟩ := s
  cases hm
  refine ⟨NameMap.insert m h.name _, ?_, (NameMap.get?_insert _ _ _ _).trans (if_pos rfl)⟩
  unfold addAll Store.onTransport Transport.write Transport.operate MemoryStore.write?
  simp only [hb, Option.map_some, toRow_ofBatch]
  rfl

namespace Session

variable {s : Session} {d : Declaration} {t : RecordType} {b : Bucket} {now : Int64} {c : Command}

/-- The session's memory has the bucket under the name. -/
def Holds (s : Session) (name : String) (b : Bucket) : Prop :=
  ∃ m, s.transport = .memory m ∧ NameMap.get? m name = some b

/-- The records that a command adds through a handle of a declaration, at their times. -/
def written (s : Session) (d : Declaration) (now : Int64) : Command → List (Int64 × Row)
  | .handle key (.addAll rows) =>
    match s.handles.get? key with
    | some (_, h) => if h.declaration = d then d.batch now rows else []
    | none => []
  | _ => []

/-- The records that a run adds through handles of a declaration, at their times. -/
def history (s : Session) (d : Declaration) : List (Int64 × Command) → List (Int64 × Row)
  | [] => []
  | (now, c) :: steps => s.written d now c ++ (s.perform now c).2.history d steps

/-- A command that adds through a handle of the declaration, or else leaves its bucket alone. -/
def Respects (s : Session) (d : Declaration) (c : Command) : Prop :=
  s.Leaves (· = d.name) c ∨ ∃ key rows place h, c = .handle key (.addAll rows) ∧
    s.handles.get? key = some (place, h) ∧ h.declaration = d

/-- A run whose every command respects the declaration's bucket. -/
def RespectsRun (s : Session) (d : Declaration) : List (Int64 × Command) → Prop
  | [] => True
  | (now, c) :: steps => s.Respects d c ∧ (s.perform now c).2.RespectsRun d steps

theorem written_of_leaves (h : s.Leaves (· = d.name) c) : s.written d now c = [] := by
  unfold written
  split
  next key rows =>
    split
    next place handle hk =>
      refine if_neg fun hd => h place handle hk ?_
      rw [handle.name_eq, hd]
    next => rfl
  next => rfl

theorem isRecord_of_mem_written (hd : d.recordType = .ok t) {e : Int64 × Row}
    (h : e ∈ s.written d now c) : d.IsRecord e.2 := by
  unfold written at h
  split at h
  next =>
    split at h
    next =>
      split at h
      next => exact Declaration.isRecord_of_mem_batch hd h
      next => cases h
    next => cases h
  next => cases h

theorem isRecord_of_mem_history (hd : d.recordType = .ok t) {e : Int64 × Row}
    {steps : List (Int64 × Command)} (h : e ∈ s.history d steps) : d.IsRecord e.2 := by
  induction steps generalizing s with
  | nil => cases h
  | cons step steps ih =>
    rcases List.mem_append.1 h with h | h
    · exact isRecord_of_mem_written hd h
    · exact ih h

/-- **One command.** Its records come after the rows that a bucket holds. -/
theorem holds_perform (hs : s.Resolves) (hd : d.recordType = .ok t) (hb : s.Holds d.name b)
    (hc : s.Respects d c) (now : Int64) : (s.perform now c).2.Holds d.name
      { b with rows := b.rows ++ storedRows t (s.written d now c) } := by
  obtain ⟨m, hm, hb⟩ := hb
  rcases hc with hleaves | ⟨key, rows, place, h, rfl, hk, rfl⟩
  · obtain ⟨m', hm', hkeep⟩ := (perform_evolves hleaves now).transport m hm
    refine ⟨m', hm', ?_⟩
    rw [hkeep d.name rfl b hb, written_of_leaves hleaves]
    exact congrArg some (by rw [storedRows, List.map_nil, List.append_nil])
  · obtain rfl : h.recordType = t := Except.ok.inj (h.declared.symm.trans hd)
    have hwritten : s.written h.declaration now (.handle key (.addAll rows)) =
        h.declaration.batch now rows := by
      simp only [written, hk, if_true]
    obtain ⟨r, hr, -⟩ := hs key place h hk
    have hstore : s.store? place = some ⟨s.engine, s.transport, r⟩ := by rw [store?, hr]; rfl
    rw [hwritten, perform_handle hk, performHandle, Declaration.batch]
    cases hread : rows.mapM h.declaration.readRecord with
    | error e =>
      refine ⟨m, hm, hb.trans (congrArg some ?_)⟩
      show b = { b with rows := b.rows ++ [] }
      rw [List.append_nil]
    | ok records =>
      rw [← h.name_eq] at hb
      obtain ⟨m', hadd, hb'⟩ := h.addAll_memory (s := ⟨s.engine, s.transport, r⟩) hm hb records now
      refine ⟨m', ?_, h.name_eq ▸ hb'⟩
      dsimp only
      rw [runStore, hstore]
      dsimp only
      rw [hadd]
      rfl

/-- **A run.** A bucket that a run respects holds the run's history after the rows it had. -/
theorem holds_run {steps : List (Int64 × Command)} (hs : s.Resolves) (hd : d.recordType = .ok t)
    (hb : s.Holds d.name b) (hc : s.RespectsRun d steps) : (s.run steps).Holds d.name
      { b with rows := b.rows ++ storedRows t (s.history d steps) } := by
  induction steps generalizing s b with
  | nil =>
    show s.Holds d.name { b with rows := b.rows ++ [] }
    rwa [List.append_nil]
  | cons step steps ih =>
    obtain ⟨now, c⟩ := step
    have hstep := ih (hs.perform now c) (holds_perform hs hd hb hc.1 now) hc.2
    rwa [List.append_assoc, storedRows, storedRows, ← List.map_append] at hstep

end Session

/-! ## Reading -/

theorem inWindow_storedRow (t : RecordType) (start now time : Int64) (row : Row) :
    Bucket.inWindow start now (storedRow t time row) = (start ≤ time && time ≤ now) := by
  unfold Bucket.inWindow
  rw [get?_storedRow_time]

/-- A select over stored rows is a select over the records and their times. -/
theorem Bucket.select_storedRows (schema : Schema) (t : RecordType) (es : List (Int64 × Row))
    (p : Plan) (now : Int64) : Bucket.select ⟨schema, storedRows t es⟩ p now =
      storedRows t (es.filter fun e => p.range.start now ≤ e.1 ∧ e.1 ≤ now ∧
        ∀ q ∈ p.predicates, satisfies schema (storedRow t e.1 e.2) q = true) := by
  unfold select storedRows
  rw [List.filter_filter, List.filter_map]
  refine congrArg _ (List.filter_congr fun e _ => ?_)
  rw [Function.comp_apply, inWindow_storedRow, Bool.eq_iff_iff]
  simp only [Bool.and_eq_true, decide_eq_true_eq, List.all_eq_true]
  rw [and_comm, and_assoc]

namespace Handle

variable (h : Handle) {s : Store} {m : MemoryStore} {b : Bucket} {p : Plan} {now : Int64}

theorem query_bucket (hm : s.transport = .memory m) (hb : NameMap.get? m p.bucket = some b) :
    h.query p now s = h.readOutput ⟨p.bucket, b.select p now⟩ s := by
  obtain ⟨engine, transport, registry⟩ := s
  cases hm
  have htransport : Store.onTransport (Transport.query p now) ⟨engine, .memory m, registry⟩ =
      (.ok ⟨p.bucket, b.select p now⟩, ⟨engine, .memory m, registry⟩) := by
    unfold Store.onTransport Transport.query
    rw [Transport.operate_select rfl]
    unfold Transport.select MemoryStore.query?
    rw [hb]
    rfl
  unfold query
  rw [bind_apply, htransport]

/-- Stored rows of records are read as the records. -/
theorem readOutput_storedRows (hr : s.registry.get? h.name = some h.recordType)
    {es : List (Int64 × Row)} (hes : ∀ e ∈ es, h.declaration.IsRecord e.2) :
    h.readOutput ⟨h.name, storedRows h.recordType es⟩ s = (.ok (es.map Prod.snd), s) := by
  have hrows : (storedRows h.recordType es).mapM (h.readRow h.recordType) =
      .ok (es.map Prod.snd) :=
    mapM_map_eq_ok fun e he => h.readRow_storedRow (hes e he) e.1
  have hname : ¬ h.recordType.name ≠ h.declaration.name := not_not_intro h.name_eq
  unfold readOutput
  rw [bind_apply, StoreAction.fromRegistry_resolve hr]
  dsimp only
  rw [if_neg hname, hrows]
  rfl

end Handle

namespace Session

variable {s : Session} {key : String} {place : Nat} {h : Handle} {p : Plan} {now : Int64}

/-- The answer to a select over the stored rows of records. -/
theorem perform_query (hs : s.Resolves) (hk : s.handles.get? key = some (place, h))
    {schema : Schema} {es : List (Int64 × Row)}
    (hb : s.Holds h.name ⟨schema, storedRows h.recordType es⟩)
    (hes : ∀ e ∈ es, h.declaration.IsRecord e.2) (hp : p.bucket = h.name) :
    (s.perform now (.handle key (.query p))).1 = .ok (.records
      ((es.filter fun e => p.range.start now ≤ e.1 ∧ e.1 ≤ now ∧ ∀ q ∈ p.predicates,
        Bucket.satisfies schema (storedRow h.recordType e.1 e.2) q = true).map Prod.snd)) := by
  obtain ⟨m, hm, hb⟩ := hb
  obtain ⟨r, hr, hknown⟩ := hs key place h hk
  have hstore : s.store? place = some ⟨s.engine, s.transport, r⟩ := by rw [store?, hr]; rfl
  have hquery : h.query p now ⟨s.engine, s.transport, r⟩ = _ := h.query_bucket hm (hp ▸ hb)
  rw [hp, Bucket.select_storedRows, h.readOutput_storedRows (s := ⟨s.engine, s.transport, r⟩) hknown
    fun e he => hes e (List.mem_filter.1 he).1] at hquery
  rw [perform_handle hk]
  show (s.runStore place (h.query p now) .records).1 = _
  rw [runStore, hstore]
  dsimp only
  rw [hquery]
  rfl

/-- A select is answered as text as it is answered as it is, if the transport answers alike. -/
theorem perform_execute_of_transport (hk : s.handles.get? key = some (place, h))
    {m : MemoryStore} (hm : s.transport = .memory m)
    (ht : Transport.queryText h.name p.toText now (.memory m) =
      Transport.query p now (.memory m)) :
    s.perform now (.handle key (.execute p)) = s.perform now (.handle key (.query p)) := by
  have hstore : ∀ store : Store, store.transport = .memory m →
      h.execute p now store = h.query p now store := fun store hstore =>
    h.execute_eq_of_transport (hstore ▸ fun _ => rfl) (hstore ▸ ht)
  rw [perform_handle hk, perform_handle hk]
  show s.runStore place (h.execute p now) .records = s.runStore place (h.query p now) .records
  unfold runStore
  cases hr : s.store? place with
  | none => rfl
  | some store =>
    dsimp only
    obtain ⟨r, -, rfl⟩ := Option.map_eq_some_iff.1 hr
    rw [hstore _ hm]

/-- A select of plain columns is answered as text as it is answered as it is, where the bucket has
the schema of the handle's type. -/
theorem perform_execute_of_holds (hk : s.handles.get? key = some (place, h)) {b : Bucket}
    (hb : s.Holds h.name b) (hs : b.schema = h.recordType.schema) (hp : h.declaration.Selects p)
    (hc : ∀ q ∈ p.predicates, PlainName q.column) :
    s.perform now (.handle key (.execute p)) = s.perform now (.handle key (.query p)) := by
  obtain ⟨m, hm, hb⟩ := hb
  exact perform_execute_of_transport hk hm (Transport.queryText_toText hp.amount_nonneg hc
    (fun _ _ => Handle.toPlan_kindOf hp hb hs) h.name)

/-- A select without predicates is answered as text as it is answered as it is. -/
theorem perform_execute (hk : s.handles.get? key = some (place, h)) {m : MemoryStore}
    (hm : s.transport = .memory m) (hr : 0 ≤ p.range.amount.toInt) (hnone : p.predicates = []) :
    s.perform now (.handle key (.execute p)) = s.perform now (.handle key (.query p)) := by
  have hvacuous : ∀ {P : Predicate → Prop}, ∀ q ∈ p.predicates, P q := by
    intro P q hq
    rw [hnone] at hq
    cases hq
  exact perform_execute_of_transport hk hm (Transport.queryText_toText hr hvacuous
    (fun _ _ => Plan.toPlan_pipeline hvacuous hvacuous) h.name)

section Run

variable {steps : List (Int64 × Command)} {schema : Schema}

/-- A bucket at first empty holds the rows of its history. -/
theorem holds_history (hs : s.Reachable) (hb : s.Holds h.name ⟨schema, []⟩)
    (hc : s.RespectsRun h.declaration steps) : (s.run steps).Holds h.name
      ⟨schema, storedRows h.recordType (s.history h.declaration steps)⟩ := by
  have hholds := holds_run hs.resolves h.declared (h.name_eq ▸ hb) hc
  rwa [← h.name_eq, List.nil_append] at hholds

/-- The answer to a select over a history. -/
theorem perform_query_run (hs : s.Reachable) (hb : s.Holds h.name ⟨schema, []⟩)
    (hc : s.RespectsRun h.declaration steps)
    (hk : (s.run steps).handles.get? key = some (place, h)) (hp : h.declaration.Selects p)
    (now : Int64) : ((s.run steps).perform now (.handle key (.query p))).1 = .ok (.records
      (((s.history h.declaration steps).filter fun e => p.range.start now ≤ e.1 ∧ e.1 ≤ now ∧
        ∀ q ∈ p.predicates, Bucket.satisfies schema (storedRow h.recordType e.1 e.2) q = true).map
          Prod.snd)) :=
  perform_query (hs.run steps).resolves hk (holds_history hs hb hc)
    (fun _ he => isRecord_of_mem_history h.declared he) (hp.bucket.trans h.name_eq.symm)

/-- **Round trip.** After any run that writes to a bucket, at first empty, through handles of its
declaration only, a select without predicates gives exactly the records written whose time is in
its range, in the order of writing, whichever way it is run. -/
theorem read_back (hs : s.Reachable) (hb : s.Holds h.name ⟨schema, []⟩)
    (hc : s.RespectsRun h.declaration steps)
    (hk : (s.run steps).handles.get? key = some (place, h)) (hp : h.declaration.Selects p)
    (hnone : p.predicates = []) (now : Int64) :
    let records := ((s.history h.declaration steps).filter fun e =>
      p.range.start now ≤ e.1 ∧ e.1 ≤ now).map Prod.snd
    ((s.run steps).perform now (.handle key (.query p))).1 = .ok (.records records) ∧
      ((s.run steps).perform now (.handle key (.execute p))).1 = .ok (.records records) := by
  intro records
  obtain ⟨m, hm, -⟩ := holds_history hs hb hc
  have hquery : ((s.run steps).perform now (.handle key (.query p))).1 =
      .ok (.records records) := by
    rw [perform_query_run hs hb hc hk hp now]
    refine congrArg (fun es => Except.ok (Answer.records (List.map Prod.snd es))) ?_
    exact List.filter_congr fun e _ => by simp [hnone]
  rw [perform_execute hk hm hp.amount_nonneg hnone]
  exact ⟨hquery, hquery⟩

end Run

end Session

/-! ## A run over rooms -/

/-- A session whose memory has an empty bucket of rooms. -/
def roomSession : Session :=
  .start (.bind "host" "token" "organization")
    (.memory (NameMap.empty.insert "room" ⟨roomType.schema, []⟩)) 1 false

/-- A handle is bound, and two batches are added: one long ago, one that runs into the end of
time. -/
def roomSteps : List (Int64 × Command) :=
  [(0, .store 0 (.createBucket roomType.handle.declaration "rooms")),
    (5, .handle "rooms" (.addAll [roomRow 9 "west" .nan])),
    (Int64.maxValue - 1, .handle "rooms"
      (.addAll [roomRow 9 "" .nan, roomRow 10 "west" (.zero true), roomRow 10 "" (.zero true)]))]

theorem reachable_roomSession : roomSession.Reachable := .start _ _ _ _

theorem holds_roomSession : roomSession.Holds roomType.handle.name ⟨roomType.schema, []⟩ :=
  ⟨_, rfl, rfl⟩

theorem respectsRun_roomSteps :
    roomSession.RespectsRun roomType.handle.declaration roomSteps :=
  ⟨.inl trivial, .inr ⟨_, _, 0, roomType.handle, rfl, rfl, rfl⟩,
    .inr ⟨_, _, 0, roomType.handle, rfl, rfl, rfl⟩, trivial⟩

theorem handle_roomSteps :
    (roomSession.run roomSteps).handles.get? "rooms" = some (0, roomType.handle) := rfl

theorem history_roomSteps : roomSession.history roomType.handle.declaration roomSteps =
    [(5, roomRow 9 "west" .nan), (Int64.maxValue - 1, roomRow 9 "" .nan),
      (Int64.maxValue, roomRow 10 "west" (.zero true)),
      (Int64.maxValue, roomRow 10 "" (.zero true))] := by
  decide +kernel

theorem read_back_rooms :
    roomSession.Reachable ∧ roomSession.Holds roomType.handle.name ⟨roomType.schema, []⟩ ∧
      roomSession.RespectsRun roomType.handle.declaration roomSteps ∧
      ((roomSession.run roomSteps).perform Int64.maxValue
        (.handle "rooms" (.execute roomType.handle.declaration.select))).1 =
          .ok (.records [roomRow 9 "" .nan, roomRow 10 "west" (.zero true),
            roomRow 10 "" (.zero true)]) := by
  have hread := Session.read_back reachable_roomSession holds_roomSession respectsRun_roomSteps
    handle_roomSteps .all rfl Int64.maxValue
  rw [history_roomSteps] at hread
  refine ⟨reachable_roomSession, holds_roomSession, respectsRun_roomSteps, hread.2.trans ?_⟩
  exact congrArg (fun rows => Except.ok (Answer.records rows)) (by decide +kernel)

end TypedSeries
