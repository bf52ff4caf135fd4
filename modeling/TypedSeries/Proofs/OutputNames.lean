import TypedSeries.Proofs.Conversations
import TypedSeries.Proofs.HandleRecords

/-!
# Names of outputs

Which bucket's name the rows of a query come back under, and what a handle makes of it.

1. A store in memory reads the text and names the bucket that the text names
   (`Transport.queryText_memory_name`). A server gets the text as it is, and its rows come back
   under the name that the caller gave (`Transport.queryText_http_name`).
2. A handle on a server gives its own name, so it reads all rows that come back as its own
   (`Handle.rawQuery_http`).

**Main.** `Handle.rawQuery_label`: in memory the name is the one in the text, so a handle gives no
records of another bucket; over a server it is the handle's, whatever the text says, and rows of
another bucket are refused only if they cannot be hydrated.
-/

namespace TypedSeries

namespace Http.Client

/-- Rows come back under the name that was given. -/
theorem returns_queryText (c : Client) (s : Server) (bucket query : String) :
    (c.queryText s bucket query).Returns (·.name = bucket) := by
  unfold queryText
  refine .bind fun _ => .bind fun answer => .bind fun body => .bind fun text =>
    .bind fun rows => ?_
  exact Conversation.returns_pure rfl

end Http.Client

namespace Transport

variable {bucket text : String} {now : Int64} {o : QueryOutput} {t t' : Transport}

/-! ## What a transport names -/

theorem of_operate_memory {α : Type} {a : α} {m : MemoryStore}
    {inMemory : MemoryStore → Except TransportError (α × MemoryStore)}
    {online : Http.Client → Http.Server → Http.Conversation α}
    (h : operate inMemory online (.memory m) = (.ok a, t')) : ∃ m', inMemory m = .ok (a, m') := by
  unfold operate at h
  dsimp only at h
  split at h
  next a' m' hm =>
    cases h
    exact ⟨m', hm⟩
  next => cases h

/-- What a plan selects in memory comes back under the plan's bucket. -/
theorem select_name {m m' : MemoryStore} {plan : Plan} (h : select m plan now = .ok (o, m')) :
    o.name = plan.bucket := by
  unfold select at h
  split at h
  next output hq =>
    cases h
    obtain ⟨b, -, rfl⟩ := Option.map_eq_some_iff.1 hq
    rfl
  next => cases h

/-- **In memory** rows come back under the bucket that the text names. -/
theorem queryText_memory_name {m : MemoryStore}
    (h : queryText bucket text now (.memory m) = (.ok o, t')) :
    ∃ p, Pipeline.parse text = .ok p ∧ o.name = p.bucket := by
  obtain ⟨m', hm⟩ := of_operate_memory h
  split at hm
  next p hp => exact ⟨p, hp, select_name hm⟩
  next => cases hm

/-- **Over a server** rows come back under the name that the caller gave. -/
theorem queryText_http_name {c : Http.Client} {s : Http.Server} {trace : Http.Trace}
    (h : queryText bucket text now (.http c s trace) = (.ok o, t')) : o.name = bucket := by
  unfold queryText at h
  rw [operate_http] at h
  exact c.returns_queryText s bucket text trace o (congrArg Prod.fst h)

end Transport

namespace Handle

variable (h : Handle) {s : Store} {text : String} {now : Int64}

/-! ## What a handle makes of it -/

theorem rawQuery_apply (s : Store) : h.rawQuery text now s =
    match Transport.queryText h.name text now s.transport with
    | (.ok o, t) => h.readOutput o { s with transport := t }
    | (.error e, t) => (.error (.ofTransport e), { s with transport := t }) := by
  unfold rawQuery
  rw [bind_apply, Store.onTransport_apply]
  obtain ⟨e | o, t⟩ := Transport.queryText h.name text now s.transport <;> rfl

/-- **In memory** a handle gives records only for text that names its own bucket. -/
theorem bucket_of_rawQuery_memory {m : MemoryStore} (hm : s.transport = .memory m)
    {p : Pipeline} (hp : Pipeline.parse text = .ok p) {records : List Row}
    (hok : (h.rawQuery text now s).1 = .ok records) : p.bucket = h.name := by
  rw [h.rawQuery_memory hm, hp] at hok
  dsimp only at hok
  cases hb : NameMap.get? m p.bucket with
  | none =>
    rw [hb] at hok
    cases hok
  | some b =>
    rw [hb] at hok
    dsimp only at hok
    by_contra hn
    rw [h.readOutput_other hn] at hok
    cases hok

/-- **Over a server** a handle gives the rows that come back, hydrated, whatever bucket the text
names. -/
theorem rawQuery_http {c : Http.Client} {server : Http.Server} {trace : Http.Trace}
    (hs : s.transport = .http c server trace)
    (hknown : s.registry.get? h.name = some h.recordType) {records : List Row} :
    (h.rawQuery text now s).1 = .ok records ↔
      ∃ o, (Transport.queryText h.name text now s.transport).1 = .ok o ∧
        List.Forall₂ (fun raw row => h.recordType.hydrate raw = .ok row) o.rows records := by
  rw [h.rawQuery_apply]
  cases hq : Transport.queryText h.name text now s.transport with
  | mk result t =>
    cases result with
    | error e => exact ⟨(nomatch ·), fun ⟨_, ho, _⟩ => nomatch ho⟩
    | ok o =>
      obtain ⟨name, rows⟩ := o
      obtain rfl : name = h.name := Transport.queryText_http_name (hs ▸ hq)
      dsimp only
      rw [h.readOutput_own (s := { s with transport := t }) hknown, h.records_eq_ok_iff]
      exact ⟨fun hall => ⟨_, rfl, hall⟩, fun ⟨_, ho, hall⟩ => by cases ho; exact hall⟩

/-- **Labels.** For text that names a bucket, and whoever asks: in memory the rows come back under
that bucket's name, and a handle gives records only if it is its own. Over a server the rows come
back under the name the caller gave; a handle takes them for its own, and gives them exactly if all
of them can be hydrated. -/
theorem rawQuery_label (hknown : s.registry.get? h.name = some h.recordType) {p : Pipeline}
    (hp : Pipeline.parse text = .ok p) :
    (∀ m, s.transport = .memory m →
      (∀ bucket o t, Transport.queryText bucket text now s.transport = (.ok o, t) →
        o.name = p.bucket) ∧
      ∀ records, (h.rawQuery text now s).1 = .ok records → p.bucket = h.name) ∧
    (∀ c server trace, s.transport = .http c server trace →
      (∀ bucket o t, Transport.queryText bucket text now s.transport = (.ok o, t) →
        o.name = bucket) ∧
      ∀ records, (h.rawQuery text now s).1 = .ok records ↔
        ∃ o, (Transport.queryText h.name text now s.transport).1 = .ok o ∧
          List.Forall₂ (fun raw row => h.recordType.hydrate raw = .ok row) o.rows records) := by
  refine ⟨fun m hm => ⟨fun bucket o t ho => ?_, fun records => ?_⟩,
    fun c server trace hs => ⟨fun bucket o t ho => ?_, fun records => h.rawQuery_http hs hknown⟩⟩
  · rw [hm] at ho
    obtain ⟨p', hp', hname⟩ := Transport.queryText_memory_name ho
    obtain rfl : p' = p := Except.ok.inj (hp'.symm.trans hp)
    exact hname
  · exact h.bucket_of_rawQuery_memory hm hp
  · rw [hs] at ho
    exact Transport.queryText_http_name ho

end Handle

/-! ## A hall read as a room -/

/-- An answer with one row of a hall. -/
def hallBody : String :=
  ",result,table,_time,_value,_field,_measurement\r\n" ++
    ",_result,0,2024-01-01T00:00:00Z,21,celsius,3\r\n"

/-- A store on a server that answers once; it knows rooms, and no hall. -/
def hallStore : Store :=
  let engine : Engine := .bind "http://localhost:8086" "token" "organization"
  ⟨engine, .http (.ofEngine engine) (.ofReplies [.answer 200 (.whole hallBody)]) .empty,
    (Registry.empty.register roomType).2⟩

def hallRow : Row :=
  .ofList [(timeColumn, .integer 1704067200000000000), (measurementColumn, .text "3"),
    ("celsius", .text "21")]

theorem queryText_hall :
    (Transport.queryText "room" hallQuery.toText 0 hallStore.transport).1 =
      .ok ⟨"room", [hallRow]⟩ := by
  decide +kernel

theorem hydrate_hallRow : roomType.hydrate hallRow = .ok (roomRow 3 "" (.ofInt 21)) := by
  decide +kernel

theorem knows_hallStore : hallStore.registry.get? roomType.handle.name = some roomType := by
  decide +kernel

theorem parse_hallQuery : Pipeline.parse hallQuery.toText = .ok hallQuery.pipeline :=
  parse_toText (by decide) fun _ hq => nomatch hq

theorem rawQuery_label_rooms :
    (∀ o t, Transport.queryText "kitchen" hallQuery.toText 0 hallStore.transport = (.ok o, t) →
      o.name = "kitchen") ∧
    (roomType.handle.rawQuery hallQuery.toText 0 hallStore).1 =
      .ok [roomRow 3 "" (.ofInt 21)] ∧
    ∀ m records, (roomType.handle.rawQuery hallQuery.toText 0
      { hallStore with transport := .memory m }).1 ≠ .ok records := by
  have hhttp := (@Handle.rawQuery_label roomType.handle hallStore hallQuery.toText 0
    knows_hallStore _ parse_hallQuery).2 _ _ _ rfl
  refine ⟨hhttp.1 "kitchen", (hhttp.2 _).2 ⟨_, queryText_hall, .cons hydrate_hallRow .nil⟩,
    fun m records hok => ?_⟩
  have hbucket := ((@Handle.rawQuery_label roomType.handle
    { hallStore with transport := .memory m } hallQuery.toText 0
    knows_hallStore _ parse_hallQuery).1 m rfl).2 records hok
  exact absurd hbucket (by decide +kernel)

/-- Text that asks for a hall, run through a handle of rooms over a server: the row of the hall
comes back under the name of the rooms, and is given as a room. -/
theorem rawQuery_reads_hall :
    Pipeline.parse hallQuery.toText = .ok hallQuery.pipeline ∧
      hallQuery.pipeline.bucket = "hall" ∧ roomType.handle.name = "room" ∧
      (Transport.queryText "room" hallQuery.toText 0 hallStore.transport).1 =
        .ok ⟨"room", [hallRow]⟩ ∧
      hallStore.registry.contains "hall" = false ∧
      (roomType.handle.rawQuery hallQuery.toText 0 hallStore).1 =
        .ok [roomRow 3 "" (.ofInt 21)] :=
  ⟨parse_hallQuery, rfl, rfl, queryText_hall, by decide +kernel,
    (roomType.handle.rawQuery_http rfl knows_hallStore).2
      ⟨_, queryText_hall, .cons hydrate_hallRow .nil⟩⟩

end TypedSeries
