import TypedSeries.Proofs.Conversations
import TypedSeries.Proofs.QueryPaths

/-!
# Binding to a bucket

What is left of a call that creates or gets a bucket and fails.

1. Both calls are made of the declaration's handle, a registration and requests of the transport,
   and end with the first of these that fails (`Store.createBucket_eq`, `Store.getBucket_eq`).
2. A registration that fails changes nothing, and a store in memory refuses no request, nor does
   it change if it refuses one (`Transport.ensure_memory`). What a transport answers does not depend
   on what has been logged (`Transport.ensure_noteAll`).
3. Getting registers last. Creating registers before it asks the transport, so a new type is
   registered whatever the transport answers (`Store.createBucket_error`).

**Main.** `Store.failed_binding`: a failed call leaves the store as it was, except for a new type
that creating has registered when the transport refuses the bucket.
-/

namespace TypedSeries

namespace Transport

/-! ## Seeing that a bucket is there -/

/-- List the buckets, and create the one of a name if it is not among them. -/
def ensure (name : String) (schema : Schema) : Operation Unit := do
  let buckets ← list
  if buckets.any (·.name = name) then
    fun t => (.ok (), t.note (Store.event .debug "Bucket already exists" [("bucket", .text name)]))
  else
    create name schema
    fun t => (.ok (), t.note (Store.event .info "Created bucket" [("bucket", .text name)]))

theorem list_memory (m : MemoryStore) : list (.memory m) = (.ok (MemoryStore.list m), .memory m) :=
  rfl

/-- Seeing in memory that a bucket is there is creating it, which leaves one that exists. -/
theorem ensure_memory_eq (name : String) (schema : Schema) (m : MemoryStore) :
    ensure name schema (.memory m) = (.ok (), .memory (MemoryStore.create m name schema)) := by
  have hany : (MemoryStore.list m).any (·.name = name) = NameMap.contains m name := by
    rw [Bool.eq_iff_iff, NameMap.contains_iff, ← MemoryStore.map_name_list, List.mem_map]
    simp
  unfold ensure
  rw [bind_apply, list_memory]
  dsimp only
  rw [hany]
  cases hfound : NameMap.contains m name with
  | true => rw [MemoryStore.create, if_pos hfound]; rfl
  | false => rfl

/-- A store in memory never refuses a bucket. -/
theorem ensure_memory (name : String) (schema : Schema) (m : MemoryStore) :
    ∃ m', ensure name schema (.memory m) = (.ok (), .memory m') :=
  ⟨_, ensure_memory_eq name schema m⟩

theorem ensure_offline (name : String) (schema : Schema) :
    ensure name schema .offline = (.error offlineError, .offline) := rfl

/-! ## What has been logged -/

/-- Transports that differ in nothing but what has been logged. -/
inductive SameButLog : Transport → Transport → Prop
  | memory (m : MemoryStore) : SameButLog (.memory m) (.memory m)
  | offline : SameButLog .offline .offline
  | http (c : Http.Client) (s : Http.Server) {t t' : Http.Trace}
    (h : t.exchanges = t'.exchanges) : SameButLog (.http c s t) (.http c s t')

theorem sameButLog_noteAll (es : List Event) (t : Transport) : (t.noteAll es).SameButLog t := by
  cases t with
  | memory m => exact .memory m
  | offline => exact .offline
  | http c s trace => exact .http c s rfl

theorem SameButLog.noteAll {t t' : Transport} (h : t.SameButLog t') (es : List Event) :
    (t.noteAll es).SameButLog (t'.noteAll es) := by
  cases h with
  | memory m => exact .memory m
  | offline => exact .offline
  | http c s h => exact .http c s h

theorem respects_operate {α : Type}
    {inMemory : MemoryStore → Except TransportError (α × MemoryStore)}
    {online : Http.Client → Http.Server → Http.Conversation α}
    (h : ∀ c s, (online c s).Heedless) :
    Respects SameButLog (operate inMemory online) (operate inMemory online) := by
  intro t t' ht
  cases ht with
  | memory m =>
    refine ⟨rfl, ?_⟩
    unfold operate
    dsimp only
    split <;> exact .memory _
  | offline => exact ⟨rfl, .offline⟩
  | http c s ht =>
    obtain ⟨hresult, hexchanges⟩ := h c s _ _ ht
    exact ⟨hresult, .http c s hexchanges⟩

theorem respects_ensure (name : String) (schema : Schema) :
    Respects SameButLog (ensure name schema) (ensure name schema) := by
  refine (respects_operate Http.Client.heedless_list).bind fun buckets => ?_
  split
  · exact fun _ _ ht => ⟨rfl, ht.noteAll _⟩
  · exact (respects_operate fun c s => Http.Client.heedless_create c s name schema).bind fun _ =>
      fun _ _ ht => ⟨rfl, ht.noteAll _⟩

/-- Whether there is a bucket in the end does not depend on what has been logged. -/
theorem ensure_noteAll (name : String) (schema : Schema) (es : List Event) (t : Transport) :
    (ensure name schema (t.noteAll es)).1 = (ensure name schema t).1 :=
  (respects_ensure name schema _ _ (sameButLog_noteAll es t)).1

end Transport

namespace Registry

variable {r r' : Registry} {t : RecordType} {b : Bool}

/-- A registration that succeeds appends a type of a new name, or finds the type there. -/
theorem register_ok (h : r.register t = (.ok b, r')) :
    (b = true ∧ r'.types = r.types ++ [t]) ∨ (b = false ∧ r' = r) := by
  unfold register at h
  split at h
  · split at h
    · cases h; exact .inr ⟨rfl, rfl⟩
    · cases h
  · cases h; exact .inl ⟨rfl, rfl⟩

end Registry

namespace Store

variable {s s' : Store} {d : Declaration} {h : Handle} {e : StoreError}

/-! ## The layers below -/

theorem onRegistry_register (s : Store) (t : RecordType) : onRegistry (·.register t) s =
    match s.registry.register t with
    | (.error e, _) => (.error (.ofSchema e), s)
    | (.ok b, r) => (.ok b, ⟨s.engine, s.transport.noteAll (s.registry.news r), r⟩) := by
  rw [onRegistry_apply]
  rcases hr : s.registry.register t with ⟨e | b, r⟩
  · rw [Registry.register_error hr, Registry.news_self, Transport.noteAll_nil]
    rfl
  · rfl

theorem ensureBucket_eq (name : String) (schema : Schema) (s : Store) :
    ensureBucket name schema s =
      ((Transport.ensure name schema s.transport).1.mapError .ofTransport,
        { s with transport := (Transport.ensure name schema s.transport).2 }) := by
  unfold ensureBucket bucketExists Transport.ensure
  rw [bind_apply, bind_apply, onTransport_apply, bind_apply]
  obtain ⟨e | buckets, t⟩ := Transport.list s.transport
  · rfl
  · dsimp only [Except.mapError, pure_apply]
    cases buckets.any (·.name = name) with
    | true => rfl
    | false =>
      simp only [Bool.false_eq_true, if_false]
      rw [bind_apply, onTransport_apply, bind_apply]
      obtain ⟨e | u, t'⟩ := Transport.create name schema t <;> rfl

/-! ## The two calls -/

/-- A handle's declaration gives the handle. -/
theorem handleOf_declaration (h : Handle) : handleOf h.declaration = .ok h := by
  unfold handleOf
  split
  next t ht =>
    obtain ⟨d, t', hd⟩ := h
    obtain rfl : t' = t := Except.ok.inj (hd.symm.trans ht)
    rfl
  next e he => exact nomatch h.declared.symm.trans he

/-- Creating a bucket: a handle, a registration, and then the transport. -/
theorem createBucket_eq (s : Store) (d : Declaration) : createBucket d s =
    match handleOf d with
    | .error e => (.error (.ofSchema e), s)
    | .ok h => match s.registry.register h.recordType with
      | (.error e, _) => (.error (.ofSchema e), s)
      | (.ok _, r) => match Transport.ensure d.name h.recordType.schema
          (s.transport.noteAll (s.registry.news r)) with
        | (.error e, t) => (.error (.ofTransport e), ⟨s.engine, t, r⟩)
        | (.ok (), t) => (.ok h, ⟨s.engine, t, r⟩) := by
  unfold createBucket
  rw [bind_apply]
  cases handleOf d with
  | error e => rfl
  | ok h =>
    rw [ofSchemaResult_ok]
    dsimp only
    rw [bind_apply, onRegistry_register]
    obtain ⟨e | b, r⟩ := s.registry.register h.recordType
    · rfl
    · dsimp only
      rw [bind_apply, ensureBucket_eq]
      obtain ⟨e | u, t⟩ := Transport.ensure d.name h.recordType.schema
        (s.transport.noteAll (s.registry.news r)) <;> rfl

/-- Getting a bucket: the transport, and then a handle and a registration if the bucket is
there. -/
theorem getBucket_eq (s : Store) (d : Declaration) : getBucket d s =
    match Transport.list s.transport with
    | (.error e, t) => (.error (.ofTransport e), { s with transport := t })
    | (.ok buckets, t) =>
      if buckets.any (·.name = d.name) then
        match handleOf d with
        | .error e => (.error (.ofSchema e), { s with transport := t })
        | .ok h => match s.registry.register h.recordType with
          | (.error e, _) => (.error (.ofSchema e), { s with transport := t })
          | (.ok _, r) => (.ok (some h), ⟨s.engine, t.noteAll (s.registry.news r), r⟩)
      else (.ok none, { s with transport := t }) := by
  unfold getBucket bucketExists
  rw [bind_apply, bind_apply, onTransport_apply]
  obtain ⟨e | buckets, t⟩ := Transport.list s.transport
  · rfl
  · dsimp only [Except.mapError, pure_apply]
    cases buckets.any (·.name = d.name) with
    | false => rfl
    | true =>
      simp only [Bool.not_true, if_true, if_false, Bool.false_eq_true]
      rw [bind_apply]
      cases handleOf d with
      | error e => rfl
      | ok h =>
        rw [ofSchemaResult_ok]
        dsimp only
        rw [bind_apply, onRegistry_register]
        obtain ⟨e | b, r⟩ := s.registry.register h.recordType <;> rfl

/-! ## Calls that fail -/

/-- Getting a bucket registers last: if it fails, nothing has been registered, and the transport
has been asked for a listing. -/
theorem getBucket_error (hget : getBucket d s = (.error e, s')) :
    s' = { s with transport := (Transport.list s.transport).2 } := by
  rw [getBucket_eq] at hget
  split at hget
  next f t ht =>
    cases hget
    rw [ht]
  next buckets t ht =>
    rw [ht]
    split at hget
    · split at hget
      · cases hget
        rfl
      · split at hget
        next => cases hget; rfl
        next => cases hget
    · cases hget

/-- Creating a bucket fails for a fault or a conflict of the declaration, and then changes nothing,
or because the transport refuses the bucket, and then the type is registered. -/
theorem createBucket_error (hcreate : createBucket d s = (.error e, s')) :
    ((∀ h, handleOf d = .ok h → ∃ f, s.registry.register h.recordType = (.error f, s.registry)) ∧
      s' = s) ∨
    ∃ h b f, handleOf d = .ok h ∧ s.registry.register h.recordType = (.ok b, s'.registry) ∧
      Transport.ensure d.name h.recordType.schema
        (s.transport.noteAll (s.registry.news s'.registry)) = (.error f, s'.transport) ∧
      e = .ofTransport f := by
  rw [createBucket_eq] at hcreate
  split at hcreate
  next f hh =>
    cases hcreate
    exact .inl ⟨fun h hok => (nomatch hh.symm.trans hok), rfl⟩
  next h hh =>
    split at hcreate
    next f r hr =>
      cases hcreate
      refine .inl ⟨fun h' hok => ?_, rfl⟩
      obtain rfl : h = h' := Except.ok.inj (hh.symm.trans hok)
      exact ⟨f, Registry.register_error hr ▸ hr⟩
    next b r hr =>
      split at hcreate
      next f t ht =>
        cases hcreate
        exact .inr ⟨h, b, f, hh, hr, ht, rfl⟩
      next => cases hcreate

/-- A declaration brings a type of a name that the registry does not know. -/
def BringsNewType (s : Store) (d : Declaration) : Prop :=
  ∃ h r, handleOf d = .ok h ∧ s.registry.register h.recordType = (.ok true, r)

/-- **Calls that fail.** A failed get leaves the registry as it was, and the buckets of a store in
memory. So does a failed create on a store in memory that can be reached. On every other transport
a failed create leaves the registry as it was exactly if the declaration brings no new type;
otherwise the transport has refused the bucket, and the type stays registered after those there
were. -/
theorem failed_binding (s : Store) (d : Declaration) (e : StoreError) (s' : Store) :
    (getBucket d s = (.error e, s') → s'.registry = s.registry ∧
      (∀ m, s.transport = .memory m → s' = s) ∧ (s.transport = .offline → s' = s)) ∧
    (createBucket d s = (.error e, s') →
      (∀ m, s.transport = .memory m → s' = s) ∧
      (s.transport = .offline → s'.transport = .offline) ∧
      (s'.registry = s.registry ↔ ¬ s.BringsNewType d) ∧
      (s.BringsNewType d → ∃ h f, handleOf d = .ok h ∧
        s'.registry.types = s.registry.types ++ [h.recordType] ∧
        (Transport.ensure d.name h.recordType.schema s.transport).1 = .error f ∧
        e = .ofTransport f)) := by
  refine ⟨fun hget => ?_, fun hcreate => ?_⟩
  · obtain rfl := getBucket_error hget
    obtain ⟨engine, transport, registry⟩ := s
    refine ⟨rfl, fun m hm => ?_, fun ho => ?_⟩
    · obtain rfl : transport = .memory m := hm
      rfl
    · obtain rfl : transport = .offline := ho
      rfl
  · rcases createBucket_error hcreate with ⟨hnone, rfl⟩ | ⟨h, b, f, hh, hr, ht, rfl⟩
    · have hold : ¬ s'.BringsNewType d := by
        rintro ⟨h, r, hh, hr⟩
        obtain ⟨f, hf⟩ := hnone h hh
        exact nomatch hr.symm.trans hf
      exact ⟨fun _ _ => rfl, id, ⟨fun _ => hold, fun _ => rfl⟩, fun hnew => absurd hnew hold⟩
    · refine ⟨fun m hm => ?_, fun ho => ?_, ?_⟩
      · obtain ⟨m', hm'⟩ := Transport.ensure_memory d.name h.recordType.schema m
        rw [hm, Transport.noteAll_memory, hm'] at ht
        exact nomatch ht
      · rw [ho, Transport.noteAll_offline, Transport.ensure_offline] at ht
        exact (congrArg Prod.snd ht).symm
      · have hnew : s.BringsNewType d ↔ b = true := by
          refine ⟨?_, ?_⟩
          · rintro ⟨h', r, hh', hr'⟩
            obtain rfl : h = h' := Except.ok.inj (hh.symm.trans hh')
            exact Except.ok.inj (congrArg Prod.fst (hr.symm.trans hr'))
          · rintro rfl
            exact ⟨h, s'.registry, hh, hr⟩
        rw [hnew]
        rcases Registry.register_ok hr with ⟨rfl, htypes⟩ | ⟨rfl, hsame⟩
        · refine ⟨⟨fun hsame => ?_, fun hb => absurd rfl hb⟩,
            fun _ => ⟨h, f, hh, htypes, by rw [← Transport.ensure_noteAll, ht], rfl⟩⟩
          rw [hsame] at htypes
          simp at htypes
        · exact ⟨⟨fun _ => Bool.false_ne_true, fun _ => hsame⟩, fun hb => nomatch hb⟩

/-! ## A cellar that cannot be reached -/

/-- A store that nothing is registered for and that cannot be reached. -/
def cellarStore : Store := ⟨.bind "host" "token" "organization", .offline, .empty⟩

/-- Other rooms under the same name. -/
def atticType : RecordType where
  name := "room"
  fields := [⟨"celsius", .number, .field⟩]
  wellFormed := fault_eq_none_iff.1 (by decide +kernel)

/-- A store in memory that knows the other rooms. -/
def atticStore : Store :=
  ⟨.bind "host" "token" "organization", .memory .empty, (Registry.empty.register atticType).2⟩

theorem createBucket_cellar : createBucket roomType.handle.declaration cellarStore =
    (.error (.connection "Store unavailable: memory transport is offline"),
      { cellarStore with registry := (cellarStore.registry.register roomType).2 }) := by
  rw [createBucket_eq, handleOf_declaration]
  rfl

theorem getBucket_cellar : getBucket roomType.handle.declaration cellarStore =
    (.error (.connection "Store unavailable: memory transport is offline"), cellarStore) := by
  rw [getBucket_eq]
  rfl

theorem register_attic : atticStore.registry.register roomType =
    (.error (.conflict "room"), atticStore.registry) := by
  decide +kernel

theorem createBucket_attic : createBucket roomType.handle.declaration atticStore =
    (.error (.schema (.conflict "room")), atticStore) := by
  rw [createBucket_eq, handleOf_declaration]
  dsimp only
  rw [show roomType.handle.recordType = roomType from rfl, register_attic]
  rfl

theorem failed_binding_rooms :
    (getBucket roomType.handle.declaration cellarStore).2.registry = .empty ∧
      (∃ h, handleOf roomType.handle.declaration = .ok h ∧
        (createBucket roomType.handle.declaration cellarStore).2.registry.types =
          [h.recordType]) ∧
      (createBucket roomType.handle.declaration atticStore).2 = atticStore := by
  have hnew : cellarStore.BringsNewType roomType.handle.declaration :=
    ⟨roomType.handle, _, handleOf_declaration _, rfl⟩
  obtain ⟨-, -, -, hbrought⟩ := (failed_binding cellarStore _ _ _).2 createBucket_cellar
  obtain ⟨h, f, hh, htypes, -, -⟩ := hbrought hnew
  rw [getBucket_cellar, createBucket_cellar, createBucket_attic]
  exact ⟨((failed_binding cellarStore _ _ _).1 getBucket_cellar).1, ⟨h, hh, htypes⟩,
    ((failed_binding atticStore _ _ _).2 createBucket_attic).1 .empty rfl⟩

/-- A bucket of rooms cannot be created, and yet the rooms stay registered, so that other rooms,
which the store would have taken before, are refused from then on. -/
theorem createBucket_keeps_type :
    ∃ e s', createBucket roomType.handle.declaration cellarStore = (.error e, s') ∧
      cellarStore.registry.types = [] ∧ s'.registry.types = [roomType] ∧
      (cellarStore.registry.register atticType).1 = .ok true ∧
      (s'.registry.register atticType).1 = .error (.conflict "room") :=
  ⟨_, _, createBucket_cellar, rfl, rfl, rfl, by decide +kernel⟩

end Store

end TypedSeries
