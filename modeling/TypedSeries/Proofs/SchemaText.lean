import TypedSeries.Proofs.Conversations
import TypedSeries.Proofs.FilterMeaning
import TypedSeries.Proofs.JsonText

/-!
# Schemas as text

A bucket's schema travels to a server as the text of its description and comes back from a listing.

1. The text of a schema is read as the schema with its columns' places gone
   (`Schema.ofJsonText?_toText`).
2. The request that creates a bucket holds that text as a text of its own document
   (`Http.Client.create_exchanges`, `Http.Client.describes_of_withJson`).
3. What a caller is shown of a bucket says nothing of places, so a listed schema and a registered
   type show the same (`Store.describe_asRead`, `Store.overview_toJson_congr`).

**Main.** `RecordType.schema_survives`.
-/

namespace TypedSeries

/-! ## Schemas -/

theorem Json.memberSources?_map {α : Type} (name : α → String) {doc : α → Json} {v : α → Source}
    (h : ∀ a, source? (doc a) = some (v a)) (l : List α) :
    memberSources? (l.map fun a => (name a, doc a)) =
      some (l.map fun a => (some (name a), v a)) := by
  induction l with
  | nil => rfl
  | cons a l ih =>
    rw [List.map_cons, memberSources?, h, ih]
    rfl

namespace Column

/-- A column as it is read back: its place is not written. -/
def asRead (c : Column) : Column := ⟨c.kind, .field⟩

def source (c : Column) : Source := .object [(some "type", .text (some c.kind.name))]

theorem ofSource?_source (c : Column) : ofSource? c.source = some c.asRead := by
  have hslots : c.source.slots ["type"] = some [some (.text (some c.kind.name))] := rfl
  have hkind : Kind.ofSource? (.text (some c.kind.name)) = some c.kind := Kind.ofName?_name c.kind
  rw [ofSource?, hslots]
  show (Kind.ofSource? (.text (some c.kind.name))).map _ = _
  rw [hkind]
  rfl

end Column

def columnsSource (columns : NameMap Column) : Source :=
  .object (columns.entries.map fun e => (some e.1, e.2.source))

theorem source?_columnsToJson (columns : NameMap Column) :
    (columnsToJson columns).source? = some (columnsSource columns) := by
  rw [columnsToJson, Json.source?, Json.memberSources?_map Prod.fst (v := fun e => e.2.source)
    fun _ => rfl]
  rfl

theorem columnsOfSource?_columnsSource (columns : NameMap Column) :
    columnsOfSource? (columnsSource columns) = some (columns.map Column.asRead) := by
  have hentries : (columnsSource columns).entries? =
      some (columns.entries.map fun e => (e.1, e.2.source)) := by
    exact mapM_map_eq_some (f := fun m : Option String × Source => m.1.map fun k => (k, m.2))
      (g := fun e : String × Column => (some e.1, e.2.source)) (fun _ => rfl) columns.entries
  have hcolumns : ((columns.entries.map fun e => (e.1, e.2.source)).mapM fun m =>
      (Column.ofSource? m.2).map fun c => (m.1, c)) =
        some (columns.entries.map fun e => (e.1, e.2.asRead)) := by
    refine mapM_map_eq_some (fun e => ?_) columns.entries
    rw [Column.ofSource?_source]
    rfl
  rw [columnsOfSource?, hentries, Option.bind_some, hcolumns]
  exact congrArg some (NameMap.ofList_entries (columns.map Column.asRead))

namespace Schema

/-- A schema as it is read back. -/
def asRead (s : Schema) : Schema := ⟨s.title, s.columns.map Column.asRead⟩

/-- The text of a schema is read as the schema, every column a value. -/
theorem ofJsonText?_toText (s : Schema) : ofJsonText? s.toJson.toText = some s.asRead := by
  have hsource : s.toJson.source? = some (.object [(some "title", .text (some s.title)),
      (some "fields", columnsSource s.columns)]) := by
    rw [toJson, Json.source?, Json.memberSources?, Json.memberSources?, source?_columnsToJson]
    rfl
  rw [ofJsonText?, Json.parse_toText hsource, Option.bind_some, ofSource?]
  show (columnsOfSource? (columnsSource s.columns)).bind _ = _
  rw [columnsOfSource?_columnsSource]
  rfl

end Schema

namespace RecordType

variable {t : RecordType}

theorem get?_schema (name : String) :
    t.schema.columns.get? name = (t.field? name).map fun f => ⟨f.kind, f.role⟩ := by
  cases hf : t.field? name with
  | some f =>
    obtain rfl : f.name = name := by simpa using List.find?_some hf
    exact get?_columns (List.mem_of_find?_eq_some hf)
  | none =>
    rw [Option.map_none, Option.eq_none_iff_forall_ne_some]
    intro column hc
    obtain ⟨f, hmem, he⟩ := mem_columns_iff.1 (NameMap.get?_eq_some_iff.1 hc)
    have hne := List.find?_eq_none.1 hf f hmem
    cases he
    exact hne (decide_eq_true rfl)

/-- The columns read back are the fields, under the same names and of the same kinds. -/
theorem get?_asRead (name : String) :
    t.schema.asRead.columns.get? name = (t.field? name).map fun f => ⟨f.kind, .field⟩ := by
  rw [Schema.asRead, NameMap.get?_map, get?_schema, Option.map_map]
  rfl

end RecordType

/-! ## Sending a schema -/

namespace Http

/-- A request whose JSON has a bucket's name and a text for its description. -/
def Request.Describes (r : Request) (name text : String) : Prop :=
  ∃ body, Source.parse r.body = some body ∧
    body.slots ["name", "description"] = some [some (.text (some name)), some (.text (some text))]

namespace Client

variable {c : Client} {r : Request}

theorem describes_of_withJson {m : Method} {target accept name : String} {schema : Schema}
    (h : c.withJson m target accept (c.createBody name schema) = .ok r) :
    r.Describes name schema.toJson.toText := by
  obtain ⟨u, -, -, rfl⟩ := request_eq_ok h
  exact ⟨_, Json.parse_toText (j := c.createBody name schema) rfl, rfl⟩

/-- The request for a new bucket. -/
def createRequest (c : Client) (name : String) (schema : Schema) : Except RequestFault Request :=
  c.withJson .post "/api/v2/buckets" "*/*" (c.createBody name schema)

theorem exchanges_create (c : Client) (s : Server) (name : String) (schema : Schema) (t : Trace) :
    (c.create s name schema t).2.exchanges =
      t.exchanges ++ s.exchanged t.exchanges (c.createRequest name schema) := by
  refine (Conversation.exchanges_bind (fun answer => ?_) _ t).trans (exchanges_send s _ _ t)
  split
  · exact Conversation.quiet_pure ()
  · exact (Conversation.quiet_result _).bind fun _ => Conversation.quiet_pure ()

theorem create_exchanges {name : String} {schema : Schema}
    (h : c.withJson .post "/api/v2/buckets" "*/*" (c.createBody name schema) = .ok r)
    (s : Server) (t : Trace) :
    (c.create s name schema t).2.exchanges = t.exchanges ++ [(r, s.next t.exchanges r)] := by
  rw [exchanges_create, createRequest, h]
  rfl

/-! ## Reading it back from a listing -/

theorem list_apply (c : Client) (s : Server) (t : Trace) :
    c.list s t = match c.entriesFrom s (s.span + 1) 0 t with
      | (.ok entries, t) => (.ok (entries.map Entry.toRemote), t)
      | (.error e, t) => (.error e, t) := by
  unfold list
  rw [bind_apply]
  obtain ⟨e | entries, t'⟩ := c.entriesFrom s (s.span + 1) 0 t <;> rfl

end Client

/-- An entry as a listing's document holds it. -/
def Entry.toJson (e : Entry) : Json :=
  .object [("id", .text e.id), ("name", .text e.name),
    ("description", e.description.elim .null .text)]

/-- The document of a page with given entries. -/
def pageDocument (entries : List Entry) : Json :=
  .object [("buckets", .array (entries.map Entry.toJson))]

def Entry.source (e : Entry) : Source :=
  .object [(some "id", .text (some e.id)), (some "name", .text (some e.name)),
    (some "description", e.description.elim .null fun text => .text (some text))]

theorem Entry.source?_toJson (e : Entry) : e.toJson.source? = some e.source := by
  obtain ⟨id, name, _ | text⟩ := e <;> rfl

theorem Entry.ofSource?_source (e : Entry) : ofSource? e.source = some e := by
  obtain ⟨id, name, _ | text⟩ := e <;> rfl

theorem source?_pageDocument (entries : List Entry) : (pageDocument entries).source? =
    some (.object [(some "buckets", .array (entries.map Entry.source))]) := by
  have hitems : Json.sources? (entries.map Entry.toJson) = some (entries.map Entry.source) := by
    induction entries with
    | nil => rfl
    | cons e entries ih =>
      rw [List.map_cons, Json.sources?, e.source?_toJson, ih]
      rfl
  rw [pageDocument, Json.source?, Json.memberSources?, Json.source?, hitems]
  rfl

/-- The document of a page is decoded as the page's entries. -/
theorem decodeBody_pageDocument (entries : List Entry) :
    decodeBody pageOfSource? (.whole (pageDocument entries).toText) = .ok entries := by
  have hread : Body.read (.whole (pageDocument entries).toText) =
      .ok (pageDocument entries).toText := by
    rw [Body.read, dropMark, Json.toText, String.toList_ofList, pageDocument, Json.render]
    rfl
  have hpage : pageOfSource? (.object [(some "buckets", .array (entries.map Entry.source))]) =
      some entries := by
    show (entries.map Entry.source).mapM Entry.ofSource? = _
    rw [mapM_map_eq_some Entry.ofSource?_source, List.map_id']
  rw [decodeBody, hread]
  simp only [bind, Except.bind, Json.parse_toText (source?_pageDocument entries),
    Option.bind_some, hpage]
  rfl

theorem decodeAnswer_ok {α : Type} (ofSource? : Source → Option α) (body : Body) :
    decodeAnswer ofSource? (200, body) = decodeBody ofSource? body := rfl

/-- The request for the page of a listing that starts at an offset. -/
def Client.pageRequest (c : Client) (offset : Nat) : Except RequestFault Request :=
  c.plain .get (target "/api/v2/buckets"
    [("orgID", c.organization), ("limit", pageSize.repr), ("offset", offset.repr)])

/-- A page that can be asked for is asked for once, and its answer judged and decoded. -/
theorem Client.page_ok {c : Client} {r : Request} {offset : Nat}
    (hr : c.pageRequest offset = .ok r) (s : Server) (t : Trace) :
    ∃ events, c.page s offset t =
      ((answerOf r (s.next t.exchanges r)).bind (decodeAnswer pageOfSource?),
        ⟨t.exchanges ++ [(r, s.next t.exchanges r)], events⟩) := by
  unfold pageRequest at hr
  unfold page
  rw [hr]
  exact send_bind (fun _ => Conversation.settles_result _) s "list_buckets" r t

/-- A server that answers with the document of a page that is not full lists its entries. -/
theorem Client.entriesFrom_of_page {c : Client} {s : Server} {t : Trace} {r : Request}
    {entries : List Entry} {offset : Nat} (pages : Nat) (hr : c.pageRequest offset = .ok r)
    (hreply : s.next t.exchanges r = .answer 200 (.whole (pageDocument entries).toText))
    (hlength : entries.length < pageSize) :
    (c.entriesFrom s (pages + 1) offset t).1 = .ok entries := by
  have hdecoded : (answerOf r (s.next t.exchanges r)).bind (decodeAnswer pageOfSource?) =
      .ok entries := by
    rw [hreply, answerOf, Except.bind]
    rw [decodeAnswer_ok, decodeBody_pageDocument]
  obtain ⟨events, hpage⟩ := page_ok hr s t
  rw [hdecoded] at hpage
  unfold entriesFrom
  rw [bind_apply, hpage]
  dsimp only
  rw [if_pos hlength]
  rfl

end Http

namespace Description

/-- A description as it would be read back. -/
def asRead (d : Description) : Description := ⟨d.name, d.columns.map Column.asRead⟩

/-- What is shown of a bucket says nothing of places. -/
theorem toJson_asRead (d : Description) : d.asRead.toJson = d.toJson := by
  have hcolumns : columnsToJson (d.columns.map Column.asRead) = columnsToJson d.columns := by
    rw [columnsToJson, NameMap.map, List.map_map]
    rfl
  rw [toJson, asRead, hcolumns]
  rfl

end Description

namespace Store

variable {r r' : Registry} {buckets : List RemoteBucket}

theorem overview_map_asRead (r : Registry) (buckets : List RemoteBucket) :
    (overview r buckets).map Description.asRead =
      ((buckets.filter fun b => !isSystemBucket b).map fun b => (describe r b).asRead).mergeSort
        fun a b => a.name ≤ b.name := by
  have hsort := List.map_mergeSort (r := fun a b : Description => decide (a.name ≤ b.name))
    (s := fun a b : Description => decide (a.name ≤ b.name)) (f := Description.asRead)
    (l := (buckets.filter fun b => !isSystemBucket b).map (describe r)) fun _ _ _ _ => rfl
  rw [List.map_map] at hsort
  exact hsort

/-- Two registries show the same of buckets that they describe alike but for places. -/
theorem overview_toJson_congr
    (h : ∀ b ∈ buckets, (describe r b).asRead = (describe r' b).asRead) :
    (overview r buckets).map Description.toJson = (overview r' buckets).map Description.toJson := by
  have hread : (overview r buckets).map Description.asRead =
      (overview r' buckets).map Description.asRead := by
    rw [overview_map_asRead, overview_map_asRead]
    congr 1
    exact List.map_congr_left fun b hb => h b (List.mem_of_mem_filter hb)
  have htext : Description.toJson = Description.toJson ∘ Description.asRead :=
    funext fun d => d.toJson_asRead.symm
  rw [htext, ← List.map_map, ← List.map_map, hread]

/-- A bucket that is listed with the text of a type's schema, where the type is known and where it
is not. -/
theorem describe_asRead {t : RecordType} {e : Http.Entry} (hname : e.name = t.name)
    (htext : e.description = some t.schema.toJson.toText) (hr : r.get? t.name = none)
    (hr' : r'.get? t.name = some t) :
    (describe r e.toRemote).asRead = (describe r' e.toRemote).asRead := by
  have hremote : e.toRemote = ⟨t.name, some t.schema.asRead⟩ := by
    rw [Http.Entry.toRemote, hname, htext, Option.bind_some, Schema.ofJsonText?_toText]
  rw [hremote, describe, describe]
  dsimp only
  rw [hr, hr']
  refine congrArg (Description.mk t.name) (NameMap.ext_get? fun k => ?_)
  simp only [NameMap.get?_map, Option.getD_some, Schema.asRead, Option.map_map]
  rfl

theorem getBuckets_http (engine : Engine) (c : Http.Client) (server : Http.Server)
    (trace : Http.Trace) (registry : Registry) :
    (getBuckets ⟨engine, .http c server trace, registry⟩).1 =
      ((c.entriesFrom server (server.span + 1) 0 trace).1.mapError .ofTransport).map
        fun entries => overview registry (entries.map Http.Entry.toRemote) := by
  unfold getBuckets
  rw [bind_apply, onTransport_apply]
  unfold Transport.list
  rw [Transport.operate_http, Http.Client.list_apply]
  obtain ⟨e | entries, t⟩ := c.entriesFrom server (server.span + 1) 0 trace <;> rfl

end Store

/-- **Schemas survive.** The request that creates a bucket of a record type is made once, and its
document holds the bucket's name and the text of the type's schema. That text is read as a schema
of the same title, with a column for each field, under its name and of its kind, and with no
other. So where a server lists it under the type's name, a store that knows the type and one that
does not show their buckets alike, or fail alike. -/
theorem RecordType.schema_survives (t : RecordType) :
    (∀ (c : Http.Client) (r : Http.Request),
      c.withJson .post "/api/v2/buckets" "*/*" (c.createBody t.name t.schema) = .ok r →
        r.Describes t.name t.schema.toJson.toText ∧
        ∀ server trace, (c.create server t.name t.schema trace).2.exchanges =
          trace.exchanges ++ [(r, server.next trace.exchanges r)]) ∧
    (∃ columns, Schema.ofJsonText? t.schema.toJson.toText = some ⟨t.name, columns⟩ ∧
      ∀ name, columns.get? name = (t.field? name).map fun f => ⟨f.kind, .field⟩) ∧
    ∀ (engine : Engine) (c : Http.Client) (server : Http.Server) (trace : Http.Trace)
      (unknowing knowing : Registry), unknowing.get? t.name = none →
      knowing.get? t.name = some t →
      (∀ name, name ≠ t.name → unknowing.get? name = knowing.get? name) →
      (∀ entries trace', c.entriesFrom server (server.span + 1) 0 trace = (.ok entries, trace') →
        ∀ e ∈ entries, e.name = t.name → e.description = some t.schema.toJson.toText) →
      (Store.getBuckets ⟨engine, .http c server trace, unknowing⟩).1.map
          (·.map Description.toJson) =
        (Store.getBuckets ⟨engine, .http c server trace, knowing⟩).1.map
          (·.map Description.toJson) := by
  refine ⟨fun c r hr => ⟨Http.Client.describes_of_withJson hr, Http.Client.create_exchanges hr⟩,
    ⟨_, t.schema.ofJsonText?_toText, get?_asRead⟩,
    fun engine c server trace unknowing knowing hun hknow hsame hserved => ?_⟩
  rw [Store.getBuckets_http, Store.getBuckets_http]
  cases hlisted : c.entriesFrom server (server.span + 1) 0 trace with
  | mk result trace' =>
    cases result with
    | error e => rfl
    | ok entries =>
      refine congrArg Except.ok (Store.overview_toJson_congr fun b hb => ?_)
      obtain ⟨e, he, rfl⟩ := List.mem_map.1 hb
      by_cases hname : e.name = t.name
      · exact Store.describe_asRead hname (hserved entries trace' hlisted e he hname) hun hknow
      · have hlook : unknowing.get? e.toRemote.name = knowing.get? e.toRemote.name :=
          hsame e.name hname
        rw [Store.describe, Store.describe, hlook]

/-! ## A type whose names need every escape -/

/-- Names with quotes, a backslash, control characters and letters past the first plane. -/
def knottedType : RecordType where
  name := "\"ro\\om\"\x01\n𝔯"
  fields := [⟨"flöor\t", .integer, .measurement⟩, ⟨"\\u0041", .string, .tag⟩,
    ⟨"\x7b\"celsius\"\x7d", .number, .field⟩]
  wellFormed := fault_eq_none_iff.1 (by decide +kernel)

def knottedEngine : Engine := .bind "http://localhost:8086" "token" "organization"

/-- A listing with a bucket of the type, one of no known type and one of the store's own. -/
def knottedEntries : List Http.Entry :=
  [⟨"2", "_tasks", none⟩, ⟨"3", "attic", none⟩,
    ⟨"1", knottedType.name, some knottedType.schema.toJson.toText⟩]

/-- A server that answers once, with the listing. -/
def knottedServer : Http.Server :=
  .ofReplies [.answer 200 (.whole (Http.pageDocument knottedEntries).toText)]

/-- The request that creates the bucket of the type. -/
def knottedRequest : Http.Request :=
  ⟨.post, ⟨"http".toList, some "localhost".toList, some 8086, "/api/v2/buckets".toList, none, none⟩,
    [("authorization", "Token token"), ("accept", "*/*"), ("content-type", "application/json"),
      ("user-agent", "aluminum/0.1.0")],
    ((Http.Client.ofEngine knottedEngine).createBody knottedType.name knottedType.schema).toText⟩

theorem withJson_knotted : (Http.Client.ofEngine knottedEngine).withJson .post "/api/v2/buckets"
    "*/*" ((Http.Client.ofEngine knottedEngine).createBody knottedType.name knottedType.schema) =
      .ok knottedRequest :=
  Http.Client.request_eq (by decide +kernel) rfl (by decide +kernel) (by decide +kernel) _

theorem pageRequest_knotted :
    ∃ r, (Http.Client.ofEngine knottedEngine).pageRequest 0 = .ok r := by
  unfold Http.Client.pageRequest Http.Client.plain
  exact ⟨_, Http.Client.request_eq (u := ⟨"http".toList, some "localhost".toList, some 8086,
    "/api/v2/buckets".toList, some "orgID=organization&limit=100&offset=0".toList, none⟩)
    (by decide +kernel) rfl (by decide +kernel) (by decide +kernel) ""⟩

theorem entriesFrom_knotted : ((Http.Client.ofEngine knottedEngine).entriesFrom knottedServer
    (knottedServer.span + 1) 0 .empty).1 = .ok knottedEntries := by
  obtain ⟨r, hr⟩ := pageRequest_knotted
  exact Http.Client.entriesFrom_of_page 1 hr (Http.Server.next_ofReplies _ [] r) (by decide)

theorem served_knotted : ∀ e ∈ knottedEntries, e.name = knottedType.name →
    e.description = some knottedType.schema.toJson.toText := by
  decide +kernel

theorem schema_survives_knotted :
    (knottedRequest.Describes knottedType.name knottedType.schema.toJson.toText ∧
      ((Http.Client.ofEngine knottedEngine).create knottedServer knottedType.name
        knottedType.schema .empty).2.exchanges =
          [(knottedRequest, knottedServer.next [] knottedRequest)]) ∧
    (Store.getBuckets ⟨knottedEngine, .http (.ofEngine knottedEngine) knottedServer .empty,
        .empty⟩).1.map (·.map Description.toJson) =
      (Store.getBuckets ⟨knottedEngine, .http (.ofEngine knottedEngine) knottedServer .empty,
        (Registry.empty.register knottedType).2⟩).1.map (·.map Description.toJson) := by
  obtain ⟨hsent, -, hshown⟩ := RecordType.schema_survives knottedType
  obtain ⟨hdescribes, hmade⟩ := hsent (.ofEngine knottedEngine) knottedRequest withJson_knotted
  refine ⟨⟨hdescribes, hmade knottedServer .empty⟩, hshown knottedEngine _ knottedServer .empty _ _
    rfl (by decide +kernel) (fun name hname => ?_) fun entries trace' hlisted => ?_⟩
  · rw [Registry.get?_register_eq, if_neg hname.symm, Option.or_none]
  · have hentries := entriesFrom_knotted
    rw [hlisted] at hentries
    cases hentries
    exact served_knotted

end TypedSeries
