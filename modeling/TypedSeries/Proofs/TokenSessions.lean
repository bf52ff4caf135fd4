import TypedSeries.Proofs.SessionRun
import TypedSeries.Proofs.TokenRequests

/-!
# Sessions with two tokens

Sessions that differ in their tokens, given the same commands.

1. `Transport.Alike`: transports of the same kind, of which two clients differ in their tokens
   and in what these put into requests. An operation that gives alike transports one result and
   leaves them alike is `Operation.Blind`.
2. The actions of a store and of a handle are `StoreAction.Blind`, since their operations are and
   nothing else in them looks at an engine's token.
3. So is each command (`Session.Alike.perform`).

**Main.** `Session.Alike.run`: sessions that are alike give the same answers to any commands and
stay alike.
-/

namespace TypedSeries

/-! ## Transports -/

/-- Transports that differ in nothing but tokens, which can stand in a header. No server looks at
them, and clients are of one base and have sent none to its health address. -/
inductive Transport.Alike (base : String) : Transport → Transport → Prop
  | memory (m : MemoryStore) : Alike base (.memory m) (.memory m)
  | offline : Alike base .offline .offline
  | http {c : Http.Client} {token : String} {s : Http.Server} {t t' : Http.Trace}
    (hbase : c.base = base) (hc : Http.isHeaderText c.token = true)
    (ht : Http.isHeaderText token = true) (hs : s.Blind) (htrace : t.Alike base t') :
    Alike base (.http c s t) (.http (c.withToken token) s t')

namespace Transport.Alike

variable {base : String} {t t' : Transport}

theorem name (h : t.Alike base t') : t.name = t'.name := by
  cases h <;> rfl

theorem rowCount (h : t.Alike base t') (bucket : String) :
    t.rowCount bucket = t'.rowCount bucket := by
  cases h <;> rfl

theorem noteAll (h : t.Alike base t') (es : List Event) :
    (t.noteAll es).Alike base (t'.noteAll es) := by
  cases h with
  | memory m => exact .memory m
  | offline => exact .offline
  | http hbase hc ht hs htrace => exact .http hbase hc ht hs (htrace.noteAll es)

end Transport.Alike

/-- An operation gives one result through transports that are alike and leaves them alike. -/
def Operation.Blind {α : Type} (operation : Operation α) : Prop :=
  ∀ base, Respects (Transport.Alike base) operation operation

namespace Transport

theorem blind_operate {α : Type} {inMemory : MemoryStore → Except TransportError (α × MemoryStore)}
    {online : Http.Client → Http.Server → Http.Conversation α}
    (h : ∀ (c : Http.Client) (token : String) (s : Http.Server),
      Http.isHeaderText c.token = true → Http.isHeaderText token = true → s.Blind →
        Http.Conversation.Alike c.base (online c s) (online (c.withToken token) s)) :
    (operate inMemory online).Blind := by
  intro base t t' ht
  cases ht with
  | memory m =>
    refine ⟨rfl, ?_⟩
    unfold operate
    dsimp only
    split <;> exact .memory _
  | offline => exact ⟨rfl, .offline⟩
  | http hbase hc ht hs htrace =>
    obtain ⟨hresult, htraces⟩ := h _ _ _ hc ht hs _ _ (hbase ▸ htrace)
    exact ⟨hresult, .http hbase hc ht hs (hbase ▸ htraces)⟩

theorem blind_ping : ping.Blind :=
  blind_operate fun _ _ _ hc ht hs => Http.Client.ping_alike hc ht hs

theorem blind_write (bucket : String) (points : List Point) (now : Int64) :
    (write bucket points now).Blind :=
  blind_operate fun _ _ _ hc ht hs => Http.Client.write_alike hc ht hs bucket points

theorem blind_queryText (bucket query : String) (now : Int64) :
    (queryText bucket query now).Blind :=
  blind_operate fun _ _ _ hc ht hs => Http.Client.queryText_alike hc ht hs bucket query

theorem blind_query (plan : Plan) (now : Int64) : (query plan now).Blind :=
  blind_operate fun _ _ _ hc ht hs => Http.Client.queryText_alike hc ht hs plan.bucket plan.toText

theorem blind_create (name : String) (schema : Schema) : (create name schema).Blind :=
  blind_operate fun _ _ _ hc ht hs => Http.Client.create_alike hc ht hs name schema

theorem blind_delete (name : String) : (delete name).Blind :=
  blind_operate fun _ _ _ hc ht hs => Http.Client.delete_alike hc ht hs name

theorem blind_list : list.Blind :=
  blind_operate fun _ _ _ hc ht hs => Http.Client.list_alike hc ht hs

end Transport

/-! ## Stores -/

/-- The same engine with another token. -/
def Engine.withToken (e : Engine) (token : String) : Engine := { e with token }

/-- Stores that differ in nothing but tokens. -/
structure Store.Alike (base : String) (s s' : Store) : Prop where
  engine : ∃ token, s'.engine = s.engine.withToken token
  transport : s.transport.Alike base s'.transport
  registry : s.registry = s'.registry

/-- What may be shown of a store does not tell its token. -/
theorem Store.Alike.summary {base : String} {s s' : Store} (h : s.Alike base s') :
    s.summary = s'.summary := by
  obtain ⟨token, he⟩ := h.engine
  unfold Store.summary
  rw [he, h.transport.name, h.registry]
  rfl

/-- An action gives one result in stores that are alike and leaves them alike. -/
def StoreAction.Blind {α : Type} (a : StoreAction α) : Prop :=
  ∀ base, Respects (Store.Alike base) a a

namespace StoreAction

variable {α β : Type}

theorem Blind.bind {a : StoreAction α} {f : α → StoreAction β} (ha : a.Blind)
    (hf : ∀ x, (f x).Blind) : (a >>= f).Blind :=
  fun base => (ha base).bind fun x => hf x base

theorem blind_pure (x : α) : (pure x : StoreAction α).Blind := fun _ => respects_pure x

theorem blind_throw (e : StoreError) : (throw e : StoreAction α).Blind := fun _ =>
  respects_throw e

/-- Looking at the store, for what stores that are alike have in common. -/
theorem blind_get_bind {f : Store → StoreAction α}
    (hsame : ∀ base s s', s.Alike base s' → f s = f s') (hf : ∀ s, (f s).Blind) :
    (get >>= f).Blind := by
  intro base s s' hs
  have happly : ∀ s : Store, (get >>= f : StoreAction α) s = f s s := fun s => by
    rw [bind_apply]
    rfl
  rw [happly, happly, ← hsame base s s' hs]
  exact hf s base s s' hs

theorem blind_onTransport {operation : Operation α} (h : operation.Blind) :
    (Store.onTransport operation).Blind := by
  intro base s s' hs
  obtain ⟨hresult, halike⟩ := h base _ _ hs.transport
  rw [Store.onTransport_apply, Store.onTransport_apply, hresult]
  exact ⟨rfl, hs.engine, halike, hs.registry⟩

theorem blind_onRegistry (change : Registry → Except SchemaError α × Registry) :
    (Store.onRegistry change).Blind := by
  intro base s s' hs
  rw [Store.onRegistry_apply, Store.onRegistry_apply, hs.registry]
  exact ⟨rfl, hs.engine, hs.transport.noteAll _, rfl⟩

theorem blind_fromRegistry (look : Registry → Except SchemaError α) :
    (Store.fromRegistry look).Blind := by
  intro base s s' hs
  refine ⟨?_, hs⟩
  show (look s.registry).mapError _ = (look s'.registry).mapError _
  rw [hs.registry]

theorem blind_ofSchemaResult (result : Except SchemaError α) :
    (Store.ofSchemaResult result).Blind := blind_fromRegistry _

theorem blind_note (e : Event) : (Store.note e).Blind := fun _ _ _ hs =>
  ⟨rfl, hs.engine, hs.transport.noteAll [e], hs.registry⟩

theorem blind_bucketExists (name : String) : (Store.bucketExists name).Blind :=
  (blind_onTransport Transport.blind_list).bind fun _ => blind_pure _

/-- The log of a health check tells the host. -/
theorem blind_healthy : Store.healthy.Blind := by
  refine (blind_onTransport Transport.blind_ping).bind fun healthy => ?_
  refine blind_get_bind (fun _ s s' hs => ?_) fun s => (blind_note _).bind fun _ => blind_pure _
  obtain ⟨token, he⟩ := hs.engine
  rw [he]
  rfl

theorem blind_register (d : Declaration) : (Store.register d).Blind := blind_onRegistry _

theorem blind_collect (ds : List Declaration) : (Store.collect ds).Blind :=
  (blind_onRegistry _).bind fun _ => (blind_note _).bind fun _ => blind_pure _

theorem blind_ensureBucket (name : String) (schema : Schema) :
    (Store.ensureBucket name schema).Blind := by
  refine (blind_bucketExists _).bind fun found => ?_
  cases found with
  | true => exact blind_note _
  | false => exact (blind_onTransport (Transport.blind_create _ _)).bind fun _ => blind_note _

theorem blind_createBucket (d : Declaration) : (Store.createBucket d).Blind :=
  (blind_ofSchemaResult _).bind fun _ => (blind_onRegistry _).bind fun _ =>
    (blind_ensureBucket _ _).bind fun _ => blind_pure _

theorem blind_getBucket (d : Declaration) : (Store.getBucket d).Blind := by
  refine (blind_bucketExists _).bind fun found => ?_
  cases found with
  | false => exact blind_pure _
  | true =>
    exact (blind_ofSchemaResult _).bind fun handle => (blind_onRegistry _).bind fun _ =>
      blind_pure _

theorem blind_getBuckets : Store.getBuckets.Blind := by
  refine (blind_onTransport Transport.blind_list).bind fun buckets => ?_
  refine blind_get_bind (fun _ s s' hs => ?_) fun _ => blind_pure _
  rw [hs.registry]

theorem blind_deleteBucket (d : Declaration) : (Store.deleteBucket d).Blind := by
  refine (blind_onTransport (Transport.blind_delete _)).bind fun deleted => ?_
  cases deleted with
  | false => exact blind_pure _
  | true => exact (blind_note _).bind fun _ => blind_pure _

theorem blind_summary : (Store.summary <$> get : StoreAction String).Blind := fun _ _ _ hs =>
  ⟨congrArg Except.ok hs.summary, hs⟩

theorem blind_addAll (h : Handle) (records : List Row) (now : Int64) :
    (h.addAll records now).Blind := blind_onTransport (Transport.blind_write _ _ now)

theorem blind_readOutput (h : Handle) (o : QueryOutput) : (h.readOutput o).Blind := by
  refine (blind_fromRegistry _).bind fun t => ?_
  split
  · exact (blind_throw _).bind fun _ => blind_ofSchemaResult _
  · exact blind_ofSchemaResult _

theorem blind_rawQuery (h : Handle) (text : String) (now : Int64) : (h.rawQuery text now).Blind :=
  (blind_onTransport (Transport.blind_queryText _ _ now)).bind fun o => blind_readOutput h o

theorem blind_execute (h : Handle) (p : Plan) (now : Int64) : (h.execute p now).Blind :=
  (blind_note _).bind fun _ => blind_rawQuery h p.toText now

theorem blind_query (h : Handle) (p : Plan) (now : Int64) : (h.query p now).Blind :=
  (blind_onTransport (Transport.blind_query p now)).bind fun o => blind_readOutput h o

end StoreAction

/-! ## Sessions -/

namespace Session

/-- Sessions that differ in nothing but tokens. -/
structure Alike (base : String) (s s' : Session) : Prop where
  engine : ∃ token, s'.engine = s.engine.withToken token
  transport : s.transport.Alike base s'.transport
  registries : s.registries = s'.registries
  sharesRegistry : s.sharesRegistry = s'.sharesRegistry
  handles : s.handles = s'.handles

/-- One answer, and sessions that are alike. -/
def AlikeAfter (base : String) (p p' : Except CommandError Answer × Session) : Prop :=
  p.1 = p'.1 ∧ p.2.Alike base p'.2

variable {base : String} {s s' : Session} {α : Type}

namespace Alike

theorem registryPlace (h : s.Alike base s') (store : Nat) :
    s.registryPlace store = s'.registryPlace store := by
  unfold Session.registryPlace
  rw [h.sharesRegistry]

/-- Sessions that are alike have alike stores at the same places. -/
theorem store? (h : s.Alike base s') (place : Nat) :
    (s.store? place = none ∧ s'.store? place = none) ∨
      ∃ store store', s.store? place = some store ∧ s'.store? place = some store' ∧
        store.Alike base store' := by
  unfold Session.store?
  rw [← h.registries]
  cases s.registries[place]? with
  | none => exact .inl ⟨rfl, rfl⟩
  | some r => exact .inr ⟨_, _, rfl, rfl, h.engine, h.transport, rfl⟩

theorem withStore (h : s.Alike base s') (place : Nat) {store store' : Store}
    (hstore : store.Alike base store') :
    (s.withStore place store).Alike base (s'.withStore place store') where
  engine := h.engine
  transport := hstore.transport
  registries := by
    show s.registries.set place store.registry = s'.registries.set place store'.registry
    rw [h.registries, hstore.registry]
  sharesRegistry := h.sharesRegistry
  handles := h.handles

theorem runTransport (h : s.Alike base s') {operation : Operation α} (hop : operation.Blind)
    (answer : α → Answer) :
    AlikeAfter base (s.runTransport operation answer) (s'.runTransport operation answer) := by
  obtain ⟨hresult, halike⟩ := hop _ _ _ h.transport
  refine ⟨?_, h.engine, halike, h.registries, h.sharesRegistry, h.handles⟩
  show Except.map answer (Except.mapError _ (operation s.transport).1) =
    Except.map answer (Except.mapError _ (operation s'.transport).1)
  rw [hresult]

theorem runStore (h : s.Alike base s') {action : StoreAction α} (ha : action.Blind) (place : Nat)
    (answer : α → Answer) :
    AlikeAfter base (s.runStore place action answer) (s'.runStore place action answer) := by
  unfold Session.runStore
  rcases h.store? place with ⟨hnone, hnone'⟩ | ⟨store, store', hs, hs', hstore⟩
  · rw [hnone, hnone']
    exact ⟨rfl, h⟩
  · rw [hs, hs']
    obtain ⟨hresult, halike⟩ := ha _ store store' hstore
    refine ⟨?_, h.withStore place halike⟩
    show Except.map answer (Except.mapError _ (action store).1) =
      Except.map answer (Except.mapError _ (action store').1)
    rw [hresult]

theorem runBinding (h : s.Alike base s') {action : StoreAction (Option Handle)} (ha : action.Blind)
    (place : Nat) (keptAs : String) :
    AlikeAfter base (s.runBinding place keptAs action) (s'.runBinding place keptAs action) := by
  unfold Session.runBinding
  rcases h.store? place with ⟨hnone, hnone'⟩ | ⟨store, store', hs, hs', hstore⟩
  · rw [hnone, hnone']
    exact ⟨rfl, h⟩
  · rw [hs, hs']
    dsimp only
    obtain ⟨hresult, halike⟩ := ha _ store store' hstore
    generalize action store = p at hresult halike
    generalize action store' = p' at hresult halike
    obtain ⟨e | handle, u⟩ := p
    · obtain ⟨e', u'⟩ := p'
      obtain rfl : .error e = e' := hresult
      exact ⟨rfl, h.withStore place halike⟩
    · obtain ⟨x', u'⟩ := p'
      obtain rfl : .ok handle = x' := hresult
      have hafter := h.withStore place halike
      cases handle with
      | none => exact ⟨rfl, hafter⟩
      | some handle =>
        refine ⟨rfl, hafter.engine, hafter.transport, hafter.registries, hafter.sharesRegistry, ?_⟩
        exact congrArg (NameMap.insert · keptAs (place, handle)) h.handles

theorem performTransport (h : s.Alike base s') (now : Int64) (c : TransportCommand) :
    AlikeAfter base (s.performTransport now c) (s'.performTransport now c) := by
  cases c with
  | name => exact ⟨congrArg (fun name => Except.ok (Answer.text name)) h.transport.name, h⟩
  | ping => exact h.runTransport Transport.blind_ping _
  | create name schema => exact h.runTransport (Transport.blind_create name schema) _
  | delete name => exact h.runTransport (Transport.blind_delete name) _
  | list => exact h.runTransport Transport.blind_list _
  | write bucket points => exact h.runTransport (Transport.blind_write bucket points now) _
  | queryText bucket query => exact h.runTransport (Transport.blind_queryText bucket query now) _
  | query plan => exact h.runTransport (Transport.blind_query plan now) _
  | rowCount bucket =>
    exact ⟨congrArg (fun n => Except.ok (Answer.count n)) (h.transport.rowCount bucket), h⟩

theorem performStore (h : s.Alike base s') (store : Nat) (c : StoreCommand) :
    AlikeAfter base (s.performStore store c) (s'.performStore store c) := by
  unfold Session.performStore
  rw [← h.registryPlace]
  cases c with
  | healthy => exact h.runStore StoreAction.blind_healthy _ _
  | register d => exact h.runStore (StoreAction.blind_register d) _ _
  | collect ds => exact h.runStore (StoreAction.blind_collect ds) _ _
  | createBucket d keptAs =>
    exact h.runBinding ((StoreAction.blind_createBucket d).bind fun _ =>
      StoreAction.blind_pure _) _ keptAs
  | getBucket d keptAs => exact h.runBinding (StoreAction.blind_getBucket d) _ keptAs
  | getBuckets => exact h.runStore StoreAction.blind_getBuckets _ _
  | deleteBucket d => exact h.runStore (StoreAction.blind_deleteBucket d) _ _
  | summary => exact h.runStore StoreAction.blind_summary _ _

theorem performHandle (h : s.Alike base s') (now : Int64) (place : Nat) (handle : Handle)
    (c : HandleCommand) :
    AlikeAfter base (s.performHandle now place handle c) (s'.performHandle now place handle c) := by
  cases c with
  | addAll rows =>
    unfold Session.performHandle
    dsimp only
    split
    next records _ => exact h.runStore (StoreAction.blind_addAll handle records now) _ _
    next => exact ⟨rfl, h⟩
  | execute select => exact h.runStore (StoreAction.blind_execute handle select now) _ _
  | query select => exact h.runStore (StoreAction.blind_query handle select now) _ _
  | rawQuery query => exact h.runStore (StoreAction.blind_rawQuery handle query now) _ _
  | describe =>
    have hsummary : handle.summary s.transport = handle.summary s'.transport := by
      unfold Handle.summary
      rw [h.transport.name]
    exact ⟨congrArg (fun text => Except.ok (Answer.handle handle text)) hsummary, h⟩

/-- **One command** is answered alike. -/
theorem perform (h : s.Alike base s') (now : Int64) (c : Command) :
    AlikeAfter base (s.perform now c) (s'.perform now c) := by
  cases c with
  | transport c => exact h.performTransport now c
  | store place c => exact h.performStore place c
  | handle name c =>
    cases hk : s.handles.get? name with
    | none =>
      rw [perform_handle_of_none hk, perform_handle_of_none (h.handles ▸ hk)]
      exact ⟨rfl, h⟩
    | some p =>
      obtain ⟨place, handle⟩ := p
      rw [perform_handle hk, perform_handle (h.handles ▸ hk)]
      exact h.performHandle now place handle c
  | registry place c =>
    have hplace : s'.registries[s'.registryPlace place]? =
        s.registries[s.registryPlace place]? := by
      rw [h.registries, h.registryPlace]
    cases hr : s.registries[s.registryPlace place]? with
    | none =>
      rw [perform_registry_of_none hr, perform_registry_of_none (hplace.trans hr)]
      exact ⟨rfl, h⟩
    | some r =>
      rw [perform_registry hr, perform_registry (hplace.trans hr), h.registries, h.registryPlace]
      exact ⟨rfl, h.engine, h.transport.noteAll _, rfl, h.sharesRegistry, h.handles⟩

end Alike

/-! ## Runs -/

/-- What commands are answered with, each given at its time. -/
def answers (s : Session) : List (Int64 × Command) → List (Except CommandError Answer)
  | [] => []
  | (now, c) :: steps => (s.perform now c).1 :: (s.perform now c).2.answers steps

/-- **Runs.** Sessions that are alike give the same answers to any commands and stay alike. -/
theorem Alike.run (h : s.Alike base s') (steps : List (Int64 × Command)) :
    s.answers steps = s'.answers steps ∧ (s.run steps).Alike base (s'.run steps) := by
  induction steps generalizing s s' with
  | nil => exact ⟨rfl, h⟩
  | cons step steps ih =>
    obtain ⟨hanswer, hafter⟩ := h.perform step.1 step.2
    obtain ⟨hanswers, hrun⟩ := ih hafter
    refine ⟨?_, hrun⟩
    show (s.perform step.1 step.2).1 :: _ = (s'.perform step.1 step.2).1 :: _
    rw [hanswer, hanswers]

end Session

end TypedSeries
