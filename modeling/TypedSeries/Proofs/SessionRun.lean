import TypedSeries.Proofs.RegistryHistory
import TypedSeries.Session

/-!
# Runs of a session

1. Commands offer registries types and do nothing else to them (`Registry.Extends`), so a name
   that a registry knows keeps its type.
2. An action of a store stays within a relation because its parts do (`Store.Frame`). A transport
   operation leaves alone the buckets it does not write to or delete (`Transport.Keeps`), and so
   does an action (`StoreAction.Steady`, `Store.frame_evolves`).
3. So one command keeps the buckets it leaves (`Session.perform_evolves`).
4. A handle's type is registered before the handle is given (`StoreAction.Binds`) and never taken
   out.

**Main.** `Session.Reachable.resolves`: however a session came about, the registry of each handle
it keeps gives the handle's own type under the handle's name.
-/

namespace TypedSeries

namespace Store

variable {α : Type}

theorem pure_apply (x : α) (s : Store) : (pure x : StoreAction α) s = (.ok x, s) := rfl

theorem ofSchemaResult_ok (x : α) (s : Store) : ofSchemaResult (.ok x) s = (.ok x, s) := rfl

theorem onRegistry_apply (change : Registry → Except SchemaError α × Registry) (s : Store) :
    onRegistry change s = ((change s.registry).1.mapError .ofSchema,
      ⟨s.engine, s.transport.noteAll (s.registry.news (change s.registry).2),
        (change s.registry).2⟩) := rfl

theorem onTransport_apply (operation : Operation α) (s : Store) :
    onTransport operation s = ((operation s.transport).1.mapError .ofTransport,
      { s with transport := (operation s.transport).2 }) := rfl

end Store

namespace Transport

theorem operate_http {α : Type}
    {inMemory : MemoryStore → Except TransportError (α × MemoryStore)}
    {online : Http.Client → Http.Server → Http.Conversation α} {c : Http.Client} {s : Http.Server}
    {trace : Http.Trace} : operate inMemory online (.http c s trace) =
      ((online c s trace).1, .http c s (online c s trace).2) := rfl

end Transport

/-! ## Buckets that stay as they are -/

namespace Transport

variable {stays : String → Prop} {α : Type}

/-- Buckets in memory before, of the names that stay, are the same buckets in memory after. -/
def Keeps (stays : String → Prop) (t t' : Transport) : Prop :=
  ∀ m, t = .memory m → ∃ m', t' = .memory m' ∧ ∀ bucket, stays bucket →
    ∀ b, NameMap.get? m bucket = some b → NameMap.get? m' bucket = some b

theorem Keeps.refl (t : Transport) : Keeps stays t t := fun m h => ⟨m, h, fun _ _ _ hb => hb⟩

theorem Keeps.trans {t t' t'' : Transport} (h : Keeps stays t t') (h' : Keeps stays t' t'') :
    Keeps stays t t'' := by
  intro m hm
  obtain ⟨m', hm', hb⟩ := h m hm
  obtain ⟨m'', hm'', hb'⟩ := h' m' hm'
  exact ⟨m'', hm'', fun bucket hs b h => hb' bucket hs b (hb bucket hs b h)⟩

theorem keeps_operate {inMemory : MemoryStore → Except TransportError (α × MemoryStore)}
    {online : Http.Client → Http.Server → Http.Conversation α}
    (h : ∀ m a m', inMemory m = .ok (a, m') → ∀ bucket, stays bucket →
      ∀ b, NameMap.get? m bucket = some b → NameMap.get? m' bucket = some b) (t : Transport) :
    Keeps stays t (operate inMemory online t).2 := by
  rintro m rfl
  unfold operate
  dsimp only
  split
  next a m' hm => exact ⟨m', rfl, h m a m' hm⟩
  next => exact ⟨m, rfl, fun _ _ _ hb => hb⟩

theorem keeps_ping (t : Transport) : Keeps stays t (ping t).2 :=
  keeps_operate (fun _ _ _ h _ _ _ hb => by cases h; exact hb) t

theorem keeps_list (t : Transport) : Keeps stays t (list t).2 :=
  keeps_operate (fun _ _ _ h _ _ _ hb => by cases h; exact hb) t

theorem select_keeps {m m' : MemoryStore} {plan : Plan} {now : Int64} {o : QueryOutput}
    (h : select m plan now = .ok (o, m')) : m' = m := by
  unfold select at h
  split at h
  · cases h; rfl
  · cases h

theorem keeps_query (plan : Plan) (now : Int64) (t : Transport) :
    Keeps stays t (query plan now t).2 :=
  keeps_operate (fun _ _ _ h _ _ _ hb => select_keeps h ▸ hb) t

theorem keeps_queryText (name text : String) (now : Int64) (t : Transport) :
    Keeps stays t (queryText name text now t).2 := by
  refine keeps_operate (fun m a m' h bucket hs b hb => ?_) t
  split at h
  · exact select_keeps h ▸ hb
  · cases h

theorem keeps_create (name : String) (schema : Schema) (t : Transport) :
    Keeps stays t (create name schema t).2 := by
  refine keeps_operate (fun m a m' h bucket hs b hb => ?_) t
  cases h
  unfold MemoryStore.create
  split
  next => exact hb
  next hnone =>
    have hne : ¬ name = bucket := by
      rintro rfl
      rw [NameMap.contains, hb] at hnone
      exact hnone rfl
    rw [NameMap.get?_insert, if_neg hne, hb]

theorem keeps_delete {name : String} (hn : ¬ stays name) (t : Transport) :
    Keeps stays t (delete name t).2 := by
  refine keeps_operate (fun m a m' h bucket hs b hb => ?_) t
  cases h
  have hne : ¬ name = bucket := fun he => hn (he ▸ hs)
  rw [NameMap.get?_erase, if_neg hne, hb]

theorem keeps_write {name : String} (hn : ¬ stays name) (points : List Point) (now : Int64)
    (t : Transport) : Keeps stays t (write name points now t).2 := by
  refine keeps_operate (fun m a m' h bucket hs b hb => ?_) t
  split at h
  next m'' hm =>
    cases h
    obtain ⟨c, -, hc⟩ := Option.map_eq_some_iff.1 hm
    have hne : ¬ name = bucket := fun he => hn (he ▸ hs)
    rw [← hc, NameMap.get?_insert, if_neg hne, hb]
  next => cases h

theorem keeps_noteAll (es : List Event) (t : Transport) : Keeps stays t (t.noteAll es) := by
  rintro m rfl
  exact Keeps.refl _ m rfl

end Transport

/-! ## Actions of a store -/

/-- What is left of a transport that has been asked something or has logged events. -/
inductive Transport.Asked (t : Transport) : Transport → Prop
  | ping : t.Asked (ping t).2
  | list : t.Asked (list t).2
  | query (plan : Plan) (now : Int64) : t.Asked (query plan now t).2
  | queryText (bucket text : String) (now : Int64) : t.Asked (queryText bucket text now t).2
  | noteAll (es : List Event) : t.Asked (t.noteAll es)

/-- An action that leaves a store with one related to it. -/
def StoreAction.Within {α : Type} (R : Store → Store → Prop) (a : StoreAction α) : Prop :=
  ∀ s, R s (a s).2

/-- A relation from stores to later ones that registering and asking stay within, and nothing, and
one thing after another. -/
structure Store.Frame (R : Store → Store → Prop) : Prop where
  refl : ∀ s, R s s
  trans : ∀ {s s' s''}, R s s' → R s' s'' → R s s''
  registered : ∀ s r, s.registry.Extends r → R s { s with registry := r }
  asked : ∀ s t, s.transport.Asked t → R s { s with transport := t }

namespace Store.Frame

variable {R : Store → Store → Prop} (h : Frame R) {α β : Type}

include h

theorem bind {a : StoreAction α} {f : α → StoreAction β} (ha : a.Within R)
    (hf : ∀ x, (f x).Within R) : (a >>= f).Within R := by
  intro s
  have hs := ha s
  rw [bind_apply]
  generalize a s = p at hs
  obtain ⟨x | x, s'⟩ := p
  · exact hs
  · exact h.trans hs (hf x s')

theorem pure (x : α) : (Pure.pure x : StoreAction α).Within R := fun s => h.refl s

theorem get : (MonadState.get : StoreAction Store).Within R := fun s => h.refl s

theorem throw (e : StoreError) : (MonadExcept.throw e : StoreAction α).Within R := fun s => h.refl s

theorem onRegistry {change : Registry → Except SchemaError α × Registry}
    (hc : ∀ r : Registry, r.Extends (change r).2) : (Store.onRegistry change).Within R :=
  fun s => h.trans (h.asked s _ (.noteAll _)) (h.registered _ _ (hc s.registry))

theorem fromRegistry (look : Registry → Except SchemaError α) :
    (Store.fromRegistry look).Within R := fun s => h.refl s

theorem ofSchemaResult (result : Except SchemaError α) :
    (Store.ofSchemaResult result).Within R := fun s => h.refl s

theorem onTransport {operation : Operation α} (ho : ∀ t, Transport.Asked t (operation t).2) :
    (Store.onTransport operation).Within R := fun s => h.asked s _ (ho s.transport)

theorem note (e : Event) : (Store.note e).Within R := fun s => h.asked s _ (.noteAll [e])

theorem register (d : Declaration) : (Store.register d).Within R :=
  h.onRegistry fun r => r.extends_registerDeclared d

theorem collect (ds : List Declaration) : (Store.collect ds).Within R :=
  h.bind (h.onRegistry fun r => r.extends_collect ds) fun _ => h.bind (h.note _) fun _ => h.pure _

theorem bucketExists (name : String) : (Store.bucketExists name).Within R :=
  h.bind (h.onTransport fun _ => .list) fun _ => h.pure _

theorem healthy : Store.healthy.Within R :=
  h.bind (h.onTransport fun _ => .ping) fun _ => h.bind h.get fun _ =>
    h.bind (h.note _) fun _ => h.pure _

theorem getBuckets : Store.getBuckets.Within R :=
  h.bind (h.onTransport fun _ => .list) fun _ => h.bind h.get fun _ => h.pure _

theorem summary : (Store.summary <$> MonadState.get : StoreAction String).Within R :=
  h.bind h.get fun _ => h.pure _

theorem getBucket (d : Declaration) : (Store.getBucket d).Within R := by
  refine h.bind (h.bucketExists _) fun found => ?_
  cases found with
  | false => exact h.pure _
  | true =>
    exact h.bind (h.ofSchemaResult _) fun handle =>
      h.bind (h.onRegistry fun r => (r.register_spec _).1) fun _ => h.pure _

/-- Creating a bucket is the one thing with a bucket that is more than asking. -/
theorem ensureBucket {name : String} {schema : Schema}
    (hc : (Store.onTransport (Transport.create name schema)).Within R) :
    (Store.ensureBucket name schema).Within R := by
  refine h.bind (h.bucketExists _) fun found => ?_
  cases found with
  | true => exact h.note _
  | false => exact h.bind hc fun _ => h.note _

theorem createBucket (d : Declaration)
    (hc : ∀ schema, (Store.onTransport (Transport.create d.name schema)).Within R) :
    (Store.createBucket d).Within R :=
  h.bind (h.ofSchemaResult _) fun _ => h.bind (h.onRegistry fun r => (r.register_spec _).1)
    fun _ => h.bind (h.ensureBucket (hc _)) fun _ => h.pure _

theorem readOutput (handle : Handle) (o : QueryOutput) : (handle.readOutput o).Within R := by
  refine h.bind (h.fromRegistry _) fun t => ?_
  split
  · exact h.bind (h.throw _) fun _ => h.ofSchemaResult _
  · exact h.ofSchemaResult _

theorem rawQuery (handle : Handle) (text : String) (now : Int64) :
    (handle.rawQuery text now).Within R :=
  h.bind (h.onTransport fun _ => .queryText _ _ now) fun o => h.readOutput handle o

theorem execute (handle : Handle) (p : Plan) (now : Int64) : (handle.execute p now).Within R :=
  h.bind (h.note _) fun _ => h.rawQuery handle p.toText now

theorem query (handle : Handle) (p : Plan) (now : Int64) : (handle.query p now).Within R :=
  h.bind (h.onTransport fun _ => .query p now) fun o => h.readOutput handle o

end Store.Frame

/-- From one store to another the registry has grown and some buckets have stayed. -/
structure Store.Evolves (stays : String → Prop) (s s' : Store) : Prop where
  registry : s.registry.Extends s'.registry
  transport : Transport.Keeps stays s.transport s'.transport

/-- An action after which the registry has grown and some buckets have stayed. -/
def StoreAction.Steady {α : Type} (stays : String → Prop) (a : StoreAction α) : Prop :=
  ∀ s, Store.Evolves stays s (a s).2

theorem Transport.keeps_of_asked {stays : String → Prop} {t t' : Transport} (h : t.Asked t') :
    Keeps stays t t' := by
  cases h with
  | ping => exact keeps_ping t
  | list => exact keeps_list t
  | query plan now => exact keeps_query plan now t
  | queryText bucket text now => exact keeps_queryText bucket text now t
  | noteAll es => exact keeps_noteAll es t

theorem Store.frame_evolves (stays : String → Prop) : Frame (Evolves stays) where
  refl _ := ⟨.refl _, .refl _⟩
  trans h h' := ⟨h.registry.trans h'.registry, h.transport.trans h'.transport⟩
  registered _ _ h := ⟨h, .refl _⟩
  asked _ _ h := ⟨.refl _, Transport.keeps_of_asked h⟩

namespace StoreAction

variable {stays : String → Prop} {α β : Type}

theorem steady_onTransport {operation : Operation α}
    (h : ∀ t, Transport.Keeps stays t (operation t).2) :
    Steady stays (Store.onTransport operation) := fun s => ⟨.refl _, h s.transport⟩

theorem steady_deleteBucket {d : Declaration} (h : ¬ stays d.name) :
    Steady stays (Store.deleteBucket d) := by
  have frame := Store.frame_evolves stays
  refine frame.bind (steady_onTransport (Transport.keeps_delete h)) fun deleted => ?_
  cases deleted with
  | false => exact frame.pure _
  | true => exact frame.bind (frame.note _) fun _ => frame.pure _

theorem steady_create (name : String) (schema : Schema) :
    Steady stays (Store.onTransport (Transport.create name schema)) :=
  steady_onTransport (Transport.keeps_create name schema)

theorem steady_createBucket (d : Declaration) :
    Steady stays (some <$> Store.createBucket d : StoreAction (Option Handle)) :=
  have frame := Store.frame_evolves stays
  frame.bind (frame.createBucket d fun _ => steady_create _ _) fun _ => frame.pure _

theorem steady_addAll {h : Handle} (hn : ¬ stays h.name) (records : List Row) (now : Int64) :
    Steady stays (h.addAll records now) :=
  steady_onTransport (Transport.keeps_write hn _ now)

/-! ## Handles and what the registry knows -/

theorem bind_eq_ok {a : StoreAction α} {f : α → StoreAction β} {s s'' : Store} {y : β}
    (h : (a >>= f) s = (.ok y, s'')) : ∃ x s', a s = (.ok x, s') ∧ f x s' = (.ok y, s'') := by
  rw [bind_apply] at h
  split at h
  next x s' ha => exact ⟨x, s', ha, h⟩
  next => cases h

/-- Looking up a name that the registry knows. -/
theorem fromRegistry_resolve {s : Store} {name : String} {t : RecordType}
    (h : s.registry.get? name = some t) :
    Store.fromRegistry (·.resolve name) s = (.ok t, s) := by
  have hlook : s.registry.resolve name = .ok t := by rw [Registry.resolve, h]
  show ((s.registry.resolve name).mapError StoreError.ofSchema, s) = _
  rw [hlook]
  rfl

theorem fromRegistry_resolve_of_none {s : Store} {name : String}
    (h : s.registry.get? name = none) :
    Store.fromRegistry (·.resolve name) s = (.error (.notFound name), s) := by
  have hlook : s.registry.resolve name = .error (.notFound name) := by rw [Registry.resolve, h]
  show ((s.registry.resolve name).mapError StoreError.ofSchema, s) = _
  rw [hlook]
  rfl

/-- An action that, where it gives a handle, leaves a registry that knows the handle's type. -/
def Binds (a : StoreAction (Option Handle)) : Prop :=
  ∀ s h s', a s = (.ok (some h), s') → s'.registry.get? h.name = some h.recordType

theorem knows_of_register {h : Handle} {s s' : Store} {b : Bool}
    (hr : Store.onRegistry (·.register h.recordType) s = (.ok b, s')) :
    s'.registry.get? h.name = some h.recordType := by
  have hok : (s.registry.register h.recordType).1 = .ok b := by
    have h1 : (s.registry.register h.recordType).1.mapError StoreError.ofSchema = .ok b :=
      congrArg Prod.fst hr
    cases hx : (s.registry.register h.recordType).1 with
    | ok x => rw [hx] at h1; cases h1; rfl
    | error e => rw [hx] at h1; cases h1
  have h2 : s'.registry = (s.registry.register h.recordType).2 :=
    congrArg Store.registry (congrArg Prod.snd hr).symm
  rw [h2]
  exact (s.registry.register_spec h.recordType).2 b hok

theorem binds_createBucket (d : Declaration) : Binds (some <$> Store.createBucket d) := by
  intro s h s' hr
  obtain ⟨handle, s₀, hr, hsome⟩ := bind_eq_ok (f := fun h => pure (some h)) hr
  cases hsome
  obtain ⟨handle, s₁, -, hr⟩ := bind_eq_ok hr
  obtain ⟨b, s₂, hreg, hr⟩ := bind_eq_ok hr
  obtain ⟨u, s₃, hensure, hr⟩ := bind_eq_ok hr
  have hkept : Store.Evolves (fun _ => False) s₂
      (Store.ensureBucket d.name handle.recordType.schema s₂).2 :=
    (Store.frame_evolves _).ensureBucket (steady_create _ _) s₂
  rw [hensure] at hkept
  cases hr
  exact hkept.registry.get? (knows_of_register hreg)

theorem binds_getBucket (d : Declaration) : Binds (Store.getBucket d) := by
  intro s h s' hr
  obtain ⟨found, s₁, -, hr⟩ := bind_eq_ok hr
  cases found with
  | false => cases hr
  | true =>
    obtain ⟨handle, s₂, -, hr⟩ := bind_eq_ok hr
    obtain ⟨b, s₃, hreg, hr⟩ := bind_eq_ok hr
    cases hr
    exact knows_of_register hreg

end StoreAction

/-! ## Steps of a session -/

namespace Session

variable {stays : String → Prop} {s s' : Session} {α : Type}

/-- From one session to another every registry has grown, none has come in, and some buckets have
stayed. -/
structure Evolves (stays : String → Prop) (s s' : Session) : Prop where
  count : s'.registries.length = s.registries.length
  registries : ∀ (place : Nat) (r : Registry), s.registries[place]? = some r →
    ∃ r', s'.registries[place]? = some r' ∧ r.Extends r'
  transport : Transport.Keeps stays s.transport s'.transport

theorem Evolves.refl (s : Session) : Evolves stays s s :=
  ⟨rfl, fun _ r h => ⟨r, h, .refl r⟩, .refl _⟩

theorem extends_set {rs : List Registry} {place : Nat} {r r' : Registry} (hr : rs[place]? = some r)
    (h : r.Extends r') (i : Nat) (q : Registry) (hq : rs[i]? = some q) :
    ∃ q', (rs.set place r')[i]? = some q' ∧ q.Extends q' := by
  rw [List.getElem?_set]
  by_cases hi : place = i
  · subst hi
    obtain rfl : r = q := Option.some.inj (hr.symm.trans hq)
    have hlt : place < rs.length := (List.getElem?_eq_some_iff.1 hr).1
    exact ⟨r', by rw [if_pos rfl, if_pos hlt], h⟩
  · exact ⟨q, by rw [if_neg hi, hq], .refl q⟩

theorem evolves_withStore {place : Nat} {store store' : Store} (hs : s.store? place = some store)
    (h : Store.Evolves stays store store') : Evolves stays s (s.withStore place store') := by
  obtain ⟨r, hr, rfl⟩ := Option.map_eq_some_iff.1 hs
  exact ⟨List.length_set, extends_set hr h.registry, h.transport⟩

theorem evolves_runTransport {operation : Operation α}
    (h : ∀ t, Transport.Keeps stays t (operation t).2) (answer : α → Answer) (s : Session) :
    Evolves stays s (s.runTransport operation answer).2 :=
  ⟨rfl, fun _ r hr => ⟨r, hr, .refl r⟩, h s.transport⟩

theorem evolves_runStore {action : StoreAction α} (h : action.Steady stays)
    (place : Nat) (answer : α → Answer) (s : Session) :
    Evolves stays s (s.runStore place action answer).2 := by
  unfold runStore
  split
  next => exact .refl s
  next store hs => exact evolves_withStore hs (h store)

theorem evolves_runBinding {action : StoreAction (Option Handle)} (h : action.Steady stays)
    (place : Nat) (keptAs : String) (s : Session) :
    Evolves stays s (s.runBinding place keptAs action).2 := by
  unfold runBinding
  split
  next => exact .refl s
  next store hs =>
    have hev := evolves_withStore hs (h store)
    generalize action store = p at hev
    obtain ⟨e | (_ | handle), store'⟩ := p
    · exact hev
    · exact hev
    · exact ⟨hev.count, hev.registries, hev.transport⟩

theorem perform_handle {key : String} {place : Nat} {h : Handle}
    (hk : s.handles.get? key = some (place, h)) (now : Int64) (c : HandleCommand) :
    s.perform now (.handle key c) = s.performHandle now place h c := by
  simp only [perform, hk]

theorem perform_handle_of_none {key : String} (hk : s.handles.get? key = none) (now : Int64)
    (c : HandleCommand) : s.perform now (.handle key c) = (.error .noHandle, s) := by
  simp only [perform, hk]

theorem perform_registry {place : Nat} {r : Registry}
    (hr : s.registries[s.registryPlace place]? = some r) (now : Int64) (c : RegistryCommand) :
    s.perform now (.registry place c) = ((performRegistry r c).1.mapError .schema, { s with
      transport := s.transport.noteAll (r.news (performRegistry r c).2)
      registries := s.registries.set (s.registryPlace place) (performRegistry r c).2 }) := by
  simp only [perform, hr]

theorem perform_registry_of_none {place : Nat}
    (hr : s.registries[s.registryPlace place]? = none) (now : Int64) (c : RegistryCommand) :
    s.perform now (.registry place c) = (.error .noStore, s) := by
  simp only [perform, hr]

theorem extends_performRegistry (r : Registry) (c : RegistryCommand) :
    r.Extends (performRegistry r c).2 := by
  cases c with
  | register t => exact (r.register_spec t).1
  | registerAll ts => exact Registry.extends_registerFrom ts 0 r
  | resolve name => exact .refl r
  | contains name => exact .refl r
  | types => exact .refl r

/-- A command neither deletes a bucket of a name that stays nor writes to it. -/
def Leaves (s : Session) (stays : String → Prop) : Command → Prop
  | .transport (.delete name) => ¬ stays name
  | .transport (.write bucket _) => ¬ stays bucket
  | .store _ (.deleteBucket d) => ¬ stays d.name
  | .handle name (.addAll _) =>
    ∀ place h, s.handles.get? name = some (place, h) → ¬ stays h.name
  | _ => True

/-- **One command.** Registries grow and the buckets a command leaves alone stay. -/
theorem perform_evolves {c : Command} (h : s.Leaves stays c) (now : Int64) :
    s.Evolves stays (s.perform now c).2 := by
  have hframe := Store.frame_evolves stays
  cases c with
  | transport c =>
    cases c with
    | name => exact .refl s
    | ping => exact evolves_runTransport Transport.keeps_ping _ s
    | create name schema => exact evolves_runTransport (Transport.keeps_create name schema) _ s
    | delete name => exact evolves_runTransport (Transport.keeps_delete h) _ s
    | list => exact evolves_runTransport Transport.keeps_list _ s
    | write bucket points => exact evolves_runTransport (Transport.keeps_write h points now) _ s
    | queryText bucket query =>
      exact evolves_runTransport (Transport.keeps_queryText bucket query now) _ s
    | query plan => exact evolves_runTransport (Transport.keeps_query plan now) _ s
    | rowCount bucket => exact .refl s
  | store place c =>
    cases c with
    | healthy => exact evolves_runStore hframe.healthy _ _ s
    | register d => exact evolves_runStore (hframe.register d) _ _ s
    | collect ds => exact evolves_runStore (hframe.collect ds) _ _ s
    | createBucket d keptAs =>
      exact evolves_runBinding (StoreAction.steady_createBucket d) _ keptAs s
    | getBucket d keptAs => exact evolves_runBinding (hframe.getBucket d) _ keptAs s
    | getBuckets => exact evolves_runStore hframe.getBuckets _ _ s
    | deleteBucket d => exact evolves_runStore (StoreAction.steady_deleteBucket h) _ _ s
    | summary => exact evolves_runStore hframe.summary _ _ s
  | handle name c =>
    cases hk : s.handles.get? name with
    | none => rw [perform_handle_of_none hk]; exact .refl s
    | some p =>
      obtain ⟨place, handle⟩ := p
      rw [perform_handle hk]
      cases c with
      | addAll rows =>
        unfold performHandle
        dsimp only
        split
        next records _ =>
          exact evolves_runStore (StoreAction.steady_addAll (h place handle hk) records now) _ _ s
        next => exact .refl s
      | execute select => exact evolves_runStore (hframe.execute handle select now) _ _ s
      | query select => exact evolves_runStore (hframe.query handle select now) _ _ s
      | rawQuery query => exact evolves_runStore (hframe.rawQuery handle query now) _ _ s
      | describe => exact .refl s
  | registry place c =>
    cases hr : s.registries[s.registryPlace place]? with
    | none => rw [perform_registry_of_none hr]; exact .refl s
    | some r =>
      rw [perform_registry hr]
      exact ⟨List.length_set, extends_set hr (extends_performRegistry r c),
        Transport.keeps_noteAll _ _⟩

theorem leaves_none (s : Session) (c : Command) : s.Leaves (fun _ => False) c := by
  unfold Leaves
  split
  · exact id
  · exact id
  · exact id
  · exact fun _ _ _ => id
  · trivial

/-! ## Handles -/

/-- The registry at a place knows the type of a handle. -/
def Binds (s : Session) (place : Nat) (h : Handle) : Prop :=
  ∃ r, s.registries[place]? = some r ∧ r.get? h.name = some h.recordType

theorem Binds.of_evolves {place : Nat} {h : Handle} (hb : s.Binds place h)
    (hev : s.Evolves stays s') : s'.Binds place h := by
  obtain ⟨r, hr, ht⟩ := hb
  obtain ⟨r', hr', hext⟩ := hev.registries place r hr
  exact ⟨r', hr', hext.get? ht⟩

/-- Every handle a session keeps has its type in the registry it belongs to. -/
def Resolves (s : Session) : Prop :=
  ∀ key place h, s.handles.get? key = some (place, h) →
    ∃ r, s.registries[place]? = some r ∧ r.get? h.name = some h.recordType

theorem Resolves.of_evolves (h : s.Resolves) (hev : s.Evolves stays s')
    (hh : s'.handles = s.handles) : s'.Resolves := fun key place handle hk =>
  Binds.of_evolves (h key place handle (hh ▸ hk)) hev

theorem Resolves.runBinding {action : StoreAction (Option Handle)} (h : s.Resolves)
    (hsteady : action.Steady fun _ => False) (hbinds : action.Binds) (place : Nat)
    (keptAs : String) : (s.runBinding place keptAs action).2.Resolves := by
  unfold Session.runBinding
  split
  next => exact h
  next store hs =>
    have hev := evolves_withStore hs (hsteady store)
    have hknown := hbinds store
    obtain ⟨r, hr, -⟩ := Option.map_eq_some_iff.1 hs
    have hlt : place < s.registries.length := (List.getElem?_eq_some_iff.1 hr).1
    generalize action store = p at hev hknown
    obtain ⟨e | (_ | handle), store'⟩ := p
    · exact h.of_evolves hev rfl
    · exact h.of_evolves hev rfl
    · have hold : (s.withStore place store').Resolves := h.of_evolves hev rfl
      intro key i g hg
      rw [NameMap.get?_insert] at hg
      by_cases hkey : keptAs = key
      · rw [if_pos hkey] at hg
        cases hg
        refine ⟨store'.registry, ?_, hknown handle store' rfl⟩
        show (s.registries.set place store'.registry)[place]? = _
        rw [List.getElem?_set_self hlt]
      · rw [if_neg hkey] at hg
        exact hold key i g hg

theorem runStore_handles (action : StoreAction α) (place : Nat) (answer : α → Answer)
    (s : Session) : (s.runStore place action answer).2.handles = s.handles := by
  unfold runStore
  split <;> rfl

theorem Resolves.perform (h : s.Resolves) (now : Int64) (c : Command) :
    (s.perform now c).2.Resolves := by
  have hev := perform_evolves (s.leaves_none c) now
  cases c with
  | transport c => cases c <;> exact h.of_evolves hev rfl
  | store place c =>
    cases c with
    | createBucket d keptAs =>
      exact h.runBinding (StoreAction.steady_createBucket d) (StoreAction.binds_createBucket d) _
        keptAs
    | getBucket d keptAs =>
      exact h.runBinding ((Store.frame_evolves _).getBucket d) (StoreAction.binds_getBucket d) _
        keptAs
    | _ => exact h.of_evolves hev (runStore_handles _ _ _ s)
  | handle name c =>
    refine h.of_evolves hev ?_
    cases hk : s.handles.get? name with
    | none => rw [perform_handle_of_none hk]
    | some p =>
      obtain ⟨place, handle⟩ := p
      rw [perform_handle hk]
      cases c with
      | addAll rows =>
        unfold performHandle
        dsimp only
        split
        · exact runStore_handles _ _ _ s
        · rfl
      | describe => rfl
      | _ => exact runStore_handles _ _ _ s
  | registry place c =>
    refine h.of_evolves hev ?_
    cases hr : s.registries[s.registryPlace place]? with
    | none => rw [perform_registry_of_none hr]
    | some r => rw [perform_registry hr]

/-! ## Runs -/

/-- The session after a list of commands, each given at its time. -/
def run (s : Session) : List (Int64 × Command) → Session
  | [] => s
  | (now, c) :: steps => (s.perform now c).2.run steps

/-- A session on a store in memory, after any commands. -/
inductive Reachable : Session → Prop
  | start (engine : Engine) (m : MemoryStore) (stores : Nat) (sharesRegistry : Bool) :
    Reachable (start engine (.memory m) stores sharesRegistry)
  | perform {s : Session} (h : Reachable s) (now : Int64) (c : Command) :
    Reachable (s.perform now c).2

theorem Reachable.run (h : s.Reachable) (steps : List (Int64 × Command)) :
    (s.run steps).Reachable := by
  induction steps generalizing s with
  | nil => exact h
  | cons e steps ih => exact ih (h.perform e.1 e.2)

/-- **Handles resolve.** However a session came about, the registry of each handle it keeps gives
the handle's own type under the handle's name. -/
theorem Reachable.resolves (h : s.Reachable) : s.Resolves := by
  induction h with
  | start engine m stores shares => exact fun key place handle hk => nomatch hk
  | perform _ now c ih => exact ih.perform now c

end Session

end TypedSeries
