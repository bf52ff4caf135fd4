import TypedSeries.Store.Handle

/-!
# Sessions

Several stores share one transport, each with a registry of its own or all with one. Commands go
to the transport, to a store, to a handle kept under a name, or to a store's registry; each gives
an answer or an error and the session after it.
-/

namespace TypedSeries

/-- A transport, the registries of the stores on it, and the handles they gave, each with the
place of the registry it belongs to. -/
structure Session where
  engine : Engine
  transport : Transport
  registries : List Registry
  sharesRegistry : Bool
  handles : NameMap (Nat × Handle)

/-- A command to the transport. -/
inductive TransportCommand where
  | name
  | ping
  | create (name : String) (schema : Schema)
  | delete (name : String)
  | list
  | write (bucket : String) (points : List Point)
  | queryText (bucket query : String)
  | query (plan : Plan)
  | rowCount (bucket : String)

/-- A command to a store. A bucket's handle is kept under the name given. -/
inductive StoreCommand where
  | healthy
  | register (d : Declaration)
  | collect (ds : List Declaration)
  | createBucket (d : Declaration) (keptAs : String)
  | getBucket (d : Declaration) (keptAs : String)
  | getBuckets
  | deleteBucket (d : Declaration)
  | summary

/-- A command to a handle. -/
inductive HandleCommand where
  | addAll (rows : List Row)
  | execute (select : Plan)
  | query (select : Plan)
  | rawQuery (query : String)
  | describe

/-- A command to a store's registry. -/
inductive RegistryCommand where
  | register (t : RecordType)
  | registerAll (ts : List RecordType)
  | resolve (name : String)
  | contains (name : String)
  | types

/-- A command, for a store by its place or for a handle by its name. -/
inductive Command where
  | transport (c : TransportCommand)
  | store (place : Nat) (c : StoreCommand)
  | handle (name : String) (c : HandleCommand)
  | registry (place : Nat) (c : RegistryCommand)

/-- What a command is answered with. -/
inductive Answer where
  | done
  | truth (b : Bool)
  | count (n : Nat)
  | text (s : String)
  | bucket (name : Option String)
  | listing (buckets : List RemoteBucket)
  | output (rows : QueryOutput)
  | overview (buckets : List Description)
  | records (rows : List Row)
  | handle (h : Handle) (summary : String)
  | recordType (t : RecordType)
  | recordTypes (ts : List RecordType)

/-- Why a command failed. -/
inductive CommandError where
  | transport (e : TransportError)
  | store (e : StoreError)
  | schema (e : SchemaError)
  | noHandle
  | noStore

namespace Session

/-- A session of some stores that nothing is registered for yet. -/
def start (engine : Engine) (transport : Transport) (stores : Nat) (sharesRegistry : Bool) :
    Session :=
  ⟨engine, transport, List.replicate stores .empty, sharesRegistry, .empty⟩

/-- The place of a store's registry. -/
def registryPlace (s : Session) (store : Nat) : Nat := if s.sharesRegistry then 0 else store

/-- The store with the registry at a place, if there is one. -/
def store? (s : Session) (place : Nat) : Option Store :=
  s.registries[place]?.map fun r => ⟨s.engine, s.transport, r⟩

/-- The session after the store with the registry at a place has become another. -/
def withStore (s : Session) (place : Nat) (store : Store) : Session :=
  { s with transport := store.transport, registries := s.registries.set place store.registry }

/-- Do something with the transport. -/
def runTransport (s : Session) (operation : Operation α) (answer : α → Answer) :
    Except CommandError Answer × Session :=
  let (result, transport) := operation s.transport
  ((result.mapError .transport).map answer, { s with transport })

/-- Do something with the store whose registry is at a place. -/
def runStore (s : Session) (place : Nat) (action : StoreAction α) (answer : α → Answer) :
    Except CommandError Answer × Session :=
  match s.store? place with
  | none => (.error .noStore, s)
  | some store =>
    let (result, store) := action store
    ((result.mapError .store).map answer, s.withStore place store)

/-- Bind to a bucket and keep the handle, if there is one. -/
def runBinding (s : Session) (place : Nat) (keptAs : String)
    (action : StoreAction (Option Handle)) : Except CommandError Answer × Session :=
  match s.store? place with
  | none => (.error .noStore, s)
  | some store =>
    let (result, store) := action store
    let s := s.withStore place store
    match result with
    | .ok (some h) =>
      (.ok (.bucket h.name), { s with handles := s.handles.insert keptAs (place, h) })
    | .ok none => (.ok (.bucket none), s)
    | .error e => (.error (.store e), s)

/-! ## Commands -/

def performTransport (s : Session) (now : Int64) :
    TransportCommand → Except CommandError Answer × Session
  | .name => (.ok (.text s.transport.name), s)
  | .ping => s.runTransport Transport.ping .truth
  | .create name schema => s.runTransport (Transport.create name schema) fun _ => .done
  | .delete name => s.runTransport (Transport.delete name) .truth
  | .list => s.runTransport Transport.list .listing
  | .write bucket points => s.runTransport (Transport.write bucket points now) .truth
  | .queryText bucket query => s.runTransport (Transport.queryText bucket query now) .output
  | .query plan => s.runTransport (Transport.query plan now) .output
  | .rowCount bucket => (.ok (.count (s.transport.rowCount bucket)), s)

def performStore (s : Session) (store : Nat) : StoreCommand → Except CommandError Answer × Session
  | .healthy => s.runStore (s.registryPlace store) Store.healthy .truth
  | .register d => s.runStore (s.registryPlace store) (Store.register d) .truth
  | .collect ds => s.runStore (s.registryPlace store) (Store.collect ds) .count
  | .createBucket d keptAs =>
    s.runBinding (s.registryPlace store) keptAs (some <$> Store.createBucket d)
  | .getBucket d keptAs => s.runBinding (s.registryPlace store) keptAs (Store.getBucket d)
  | .getBuckets => s.runStore (s.registryPlace store) Store.getBuckets .overview
  | .deleteBucket d => s.runStore (s.registryPlace store) (Store.deleteBucket d) .truth
  | .summary => s.runStore (s.registryPlace store) (Store.summary <$> get) .text

/-- A command to a handle whose store has its registry at a place. Rows to add are first read as
records. -/
def performHandle (s : Session) (now : Int64) (place : Nat) (h : Handle) :
    HandleCommand → Except CommandError Answer × Session
  | .addAll rows =>
    match rows.mapM h.declaration.readRecord with
    | .ok records => s.runStore place (h.addAll records now) .truth
    | .error e => (.error (.schema e), s)
  | .execute select => s.runStore place (h.execute select now) .records
  | .query select => s.runStore place (h.query select now) .records
  | .rawQuery query => s.runStore place (h.rawQuery query now) .records
  | .describe => (.ok (.handle h (h.summary s.transport)), s)

def performRegistry (r : Registry) : RegistryCommand → Except SchemaError Answer × Registry
  | .register t => let (result, r) := r.register t; (result.map .truth, r)
  | .registerAll ts => let (result, r) := r.registerAll ts; (result.map .count, r)
  | .resolve name => ((r.resolve name).map .recordType, r)
  | .contains name => (.ok (.truth (r.contains name)), r)
  | .types => (.ok (.recordTypes r.types), r)

/-- Do what a command says at a given time. -/
def perform (s : Session) (now : Int64) : Command → Except CommandError Answer × Session
  | .transport c => s.performTransport now c
  | .store place c => s.performStore place c
  | .handle name c =>
    match s.handles.get? name with
    | some (place, h) => s.performHandle now place h c
    | none => (.error .noHandle, s)
  | .registry place c =>
    match s.registries[s.registryPlace place]? with
    | some before =>
      let (result, after) := performRegistry before c
      (result.mapError .schema,
        { s with
          transport := s.transport.noteAll (before.news after)
          registries := s.registries.set (s.registryPlace place) after })
    | none => (.error .noStore, s)

end Session

end TypedSeries
