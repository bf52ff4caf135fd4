import TypedSeries.Registry
import TypedSeries.Store.Error
import TypedSeries.Transport

/-!
# Stores

A store is an engine, a transport and a registry of record types. Creating or getting a bucket
gives a handle, whose record type the store's registry then knows.
-/

namespace TypedSeries

/-- A connection to one store with the record types known for it. -/
structure Store where
  engine : Engine
  transport : Transport
  registry : Registry

/-- Access to the bucket of a declaration that has no fault. -/
structure Handle where
  declaration : Declaration
  recordType : RecordType
  declared : declaration.recordType = .ok recordType

/-- Something done with a store. -/
abbrev StoreAction (α : Type) := ExceptT StoreError (StateM Store) α

namespace Store

/-! ## Going to the layers below -/

/-- Do something with the store's transport. -/
def onTransport (operation : Operation α) : StoreAction α := fun s =>
  let (result, transport) := operation s.transport
  (result.mapError StoreError.ofTransport, { s with transport })

/-- Do something with the store's registry. The types that come to it are logged. -/
def onRegistry (change : Registry → Except SchemaError α × Registry) : StoreAction α := fun s =>
  let (result, registry) := change s.registry
  (result.mapError StoreError.ofSchema,
    { s with transport := s.transport.noteAll (s.registry.news registry), registry })

/-- Look something up in the store's registry. -/
def fromRegistry (look : Registry → Except SchemaError α) : StoreAction α := fun s =>
  ((look s.registry).mapError StoreError.ofSchema, s)

/-- A result of the schema layer. -/
def ofSchemaResult (result : Except SchemaError α) : StoreAction α :=
  fromRegistry fun _ => result

/-- Log an event. -/
def note (e : Event) : StoreAction Unit := fun s =>
  (.ok (), { s with transport := s.transport.note e })

/-! ## Operations -/

/-- What a store logs. -/
def event (level : Level) (text : String) (details : List (String × Json)) : Event :=
  ⟨level, "aluminum::store", text, details⟩

/-- Whether the store can be reached and knows the engine's token and organization. -/
def healthy : StoreAction Bool := do
  let healthy ← onTransport Transport.ping
  note (event .debug "Health check"
    [("host", .text (← get).engine.host), ("healthy", .boolean healthy)])
  return healthy

/-- Register the type of a declaration; the transport is not asked. -/
def register (d : Declaration) : StoreAction Bool := onRegistry (·.registerDeclared d)

/-- Register the types of a root's declarations and count the new ones. -/
def collect (declarations : List Declaration) : StoreAction Nat := do
  let added ← onRegistry (·.collect declarations)
  note (event .debug "Collected record types" [("added", .integer added)])
  return added

/-- The handle of a declaration, if it has no fault. -/
def handleOf (d : Declaration) : Except SchemaError Handle :=
  match h : d.recordType with
  | .ok t => .ok ⟨d, t, h⟩
  | .error e => .error e

/-- Whether the store lists a bucket of exactly that name. -/
def bucketExists (name : String) : StoreAction Bool := do
  return (← onTransport Transport.list).any (·.name = name)

/-- Create a bucket if the store does not list it. -/
def ensureBucket (name : String) (schema : Schema) : StoreAction Unit := do
  if ← bucketExists name then
    note (event .debug "Bucket already exists" [("bucket", .text name)])
  else
    onTransport (Transport.create name schema)
    note (event .info "Created bucket" [("bucket", .text name)])

/-- Create the bucket of a declaration, or bind to the one that exists. -/
def createBucket (d : Declaration) : StoreAction Handle := do
  let handle ← ofSchemaResult (handleOf d)
  let _ ← onRegistry (·.register handle.recordType)
  ensureBucket d.name handle.recordType.schema
  return handle

/-- Bind to the bucket of a declaration, if the store has it. -/
def getBucket (d : Declaration) : StoreAction (Option Handle) := do
  if !(← bucketExists d.name) then return none
  let handle ← ofSchemaResult (handleOf d)
  let _ ← onRegistry (·.register handle.recordType)
  return some handle

/-- Whether a bucket is one the store keeps for itself. -/
def isSystemBucket (b : RemoteBucket) : Bool := b.name.toList.head? = some '_'

/-- A listed bucket with the columns of its registered type, or else of the listed schema, or else
with none. -/
def describe (r : Registry) (b : RemoteBucket) : Description :=
  match r.get? b.name with
  | some t => ⟨b.name, t.schema.columns⟩
  | none => ⟨b.name, (b.schema.getD (.untyped b.name)).columns⟩

/-- The listed buckets, without the store's own, described and sorted by name. -/
def overview (r : Registry) (buckets : List RemoteBucket) : List Description :=
  (((buckets.filter fun b => !isSystemBucket b).map (describe r)).mergeSort
    fun a b => a.name ≤ b.name)

/-- Describe every bucket of the store, sorted by name. -/
def getBuckets : StoreAction (List Description) := do
  let buckets ← onTransport Transport.list
  return overview (← get).registry buckets

/-- Delete the bucket of a declaration; false if there is none. -/
def deleteBucket (d : Declaration) : StoreAction Bool := do
  let deleted ← onTransport (Transport.delete d.name)
  if deleted then note (event .info "Deleted bucket" [("bucket", .text d.name)])
  return deleted

/-- What may be shown of a store. -/
def summary (s : Store) : String :=
  "Store \x7b engine: " ++ s.engine.describe ++ ", transport: " ++ quote s.transport.name ++
    ", registered: " ++ s.registry.size.repr ++ " \x7d"

end Store

end TypedSeries
