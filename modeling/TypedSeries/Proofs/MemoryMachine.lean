import Mathlib.Data.List.DropRight
import Mathlib.Logic.Function.Basic
import TypedSeries.Proofs.HandleRecords

/-!
# The machine of a store in memory

What a store in memory is, apart from how it keeps its buckets: a table from names to buckets,
which a command turns into another (`TransportCommand.act`) and is answered from
(`TransportCommand.Replies`).

1. A command takes the store from table to table and gives an answer of the table
   (`Session.advances_perform`). One that is answered with an error leaves the table as it is
   (`TransportCommand.act_of_error`), and a table has one store (`Session.Advances.eq_self`).
2. After any commands a bucket is what its history says: the schema of its first creation since it
   was last deleted, and every row written since, in order (`Bucket.ofHistory`). One more command
   does to the histories what it does to the table (`Bucket.ofHistory_concat`).

**Main.** `Session.memory_machine`: the runs of a store in memory from its beginning, and of one
that plays dead.
-/

namespace TypedSeries

/-- A table from names to buckets. -/
abbrev Buckets := String → Option Bucket

theorem Buckets.update_apply (table : Buckets) (bucket other : String) (b : Option Bucket) :
    Function.update table bucket b other = if bucket = other then b else table other := by
  rw [Function.update_apply]
  simp only [eq_comm]

namespace TransportCommand

/-! ## The machine -/

/-- The table after a command. Creating leaves a bucket that exists, writing adds rows at the end of
one that exists, and what is not named stays. -/
def act (now : Int64) (table : Buckets) : TransportCommand → Buckets
  | .create bucket schema =>
    Function.update table bucket ((table bucket).or (some ⟨schema, []⟩))
  | .delete bucket => Function.update table bucket none
  | .write bucket points => Function.update table bucket
      ((table bucket).map fun b => { b with rows := b.rows ++ points.map (·.toRow now) })
  | .name | .ping | .list | .queryText .. | .query .. | .rowCount .. => table

/-- What a plan selects from a table. -/
def selected (now : Int64) (table : Buckets) (plan : Plan) : Except CommandError Answer :=
  match table plan.bucket with
  | some b => .ok (.output ⟨plan.bucket, b.select plan now⟩)
  | none => .error (.transport (Transport.noBucket plan.bucket))

/-- How a command is answered from the table before it. A listing has each bucket once, with its
schema, in some order. -/
def Replies (now : Int64) (table : Buckets) (reply : Except CommandError Answer) :
    TransportCommand → Prop
  | .name => reply = .ok (.text "memory")
  | .ping => reply = .ok (.truth true)
  | .create .. => reply = .ok .done
  | .delete bucket => reply = .ok (.truth (table bucket).isSome)
  | .list => ∃ listed, reply = .ok (.listing listed) ∧ (listed.map RemoteBucket.name).Nodup ∧
      ∀ remote, remote ∈ listed ↔ ∃ b, table remote.name = some b ∧ remote.schema = some b.schema
  | .write bucket _ => reply = if (table bucket).isSome then .ok (.truth true)
      else .error (.transport (Transport.noBucket bucket))
  | .query plan => reply = selected now table plan
  | .queryText _ text =>
    match Pipeline.parse text with
    | .ok p => reply = selected now table
        (p.toPlan fun column => (table p.bucket).bind fun b => b.schema.kindOf column)
    | .error e => reply = .error (.transport (.api 400 e.message))
  | .rowCount bucket => reply = .ok (.count (((table bucket).map fun b => b.rows.length).getD 0))

/-- How a store that plays dead answers. -/
def deadReply : TransportCommand → Except CommandError Answer
  | .name => .ok (.text "memory")
  | .rowCount _ => .ok (.count 0)
  | .ping | .create .. | .delete _ | .list | .write .. | .queryText .. | .query _ =>
    .error (.transport Transport.offlineError)

/-- Of the commands that change the table only a write can fail, and then there is no bucket to
write to. -/
theorem act_of_error {now : Int64} {table : Buckets} {e : CommandError} {c : TransportCommand}
    (h : c.Replies now table (.error e)) : c.act now table = table := by
  cases c with
  | create => cases h
  | delete => cases h
  | write bucket points =>
    have hnone : table bucket = none := by
      cases hb : table bucket with
      | none => rfl
      | some b =>
        simp only [Replies, hb] at h
        cases h
    show Function.update table bucket ((table bucket).map _) = table
    rw [hnone, Option.map_none, ← hnone, Function.update_eq_self]
  | _ => rfl

/-! ## One bucket -/

/-- Whether a command deletes a bucket. -/
def deletes (bucket : String) : TransportCommand → Bool
  | .delete other => other = bucket
  | _ => false

/-- The schema with which a command creates a bucket that does not exist. -/
def creates? (bucket : String) : TransportCommand → Option Schema
  | .create other schema => if other = bucket then some schema else none
  | _ => none

/-- The rows that a command writes to a bucket that exists. -/
def rowsFor (bucket : String) (now : Int64) : TransportCommand → List Row
  | .write other points => if other = bucket then points.map (·.toRow now) else []
  | _ => []

/-- What a command does to one bucket. -/
theorem act_apply (c : TransportCommand) (now : Int64) (table : Buckets) (bucket : String) :
    c.act now table bucket = if c.deletes bucket then none else match table bucket with
      | some b => some { b with rows := b.rows ++ c.rowsFor bucket now }
      | none => (c.creates? bucket).map fun schema => ⟨schema, []⟩ := by
  cases c with
  | create other schema =>
    show Function.update table other _ bucket = _
    rw [Buckets.update_apply]
    by_cases h : other = bucket
    · subst h
      cases table other <;> simp [deletes, creates?, rowsFor]
    · cases table bucket <;> simp [deletes, creates?, rowsFor, h]
  | delete other =>
    show Function.update table other none bucket = _
    rw [Buckets.update_apply]
    by_cases h : other = bucket
    · simp [deletes, h]
    · cases table bucket <;> simp [deletes, creates?, rowsFor, h]
  | write other points =>
    show Function.update table other _ bucket = _
    rw [Buckets.update_apply]
    by_cases h : other = bucket
    · subst h
      cases table other <;> simp [deletes, creates?, rowsFor]
    · cases table bucket <;> simp [deletes, creates?, rowsFor, h]
  | _ =>
    show table bucket = _
    cases table bucket <;> simp [deletes, creates?, rowsFor]

end TransportCommand

/-! ## Histories -/

/-- The commands since a bucket was last deleted. -/
def sinceDeletion (bucket : String) (steps : List (Int64 × TransportCommand)) :
    List (Int64 × TransportCommand) :=
  steps.rtakeWhile fun e => !e.2.deletes bucket

/-- The bucket that commands make which do not delete it: it has the schema of its first creation,
and the rows written from then on. -/
def Bucket.ofLife (bucket : String) (life : List (Int64 × TransportCommand)) : Option Bucket :=
  (life.findSome? fun e => e.2.creates? bucket).map fun schema =>
    ⟨schema, (life.dropWhile fun e => (e.2.creates? bucket).isNone).flatMap
      fun e => e.2.rowsFor bucket e.1⟩

/-- The bucket that commands make. -/
def Bucket.ofHistory (steps : List (Int64 × TransportCommand)) : Buckets := fun bucket =>
  ofLife bucket (sinceDeletion bucket steps)

namespace Bucket

open TransportCommand

variable {bucket : String} {life steps : List (Int64 × TransportCommand)} {now : Int64}
  {c : TransportCommand}

/-- Where a bucket is not deleted, one more command creates it or adds to it. -/
theorem ofLife_concat : ofLife bucket (life ++ [(now, c)]) = match ofLife bucket life with
    | some b => some { b with rows := b.rows ++ c.rowsFor bucket now }
    | none => (c.creates? bucket).map fun schema => ⟨schema, []⟩ := by
  have hrows : ∀ schema, c.creates? bucket = some schema → c.rowsFor bucket now = [] := by
    intro schema h
    cases c with
    | create => rfl
    | _ => cases h
  unfold ofLife
  rw [List.findSome?_append]
  cases hlife : life.findSome? fun e => e.2.creates? bucket with
  | some schema =>
    -- what the life drops ends before the command, which so comes after the rows there are
    have hdrop : life.dropWhile (fun e => (e.2.creates? bucket).isNone) ≠ [] := by
      intro hnil
      obtain ⟨e, he, hschema⟩ := List.exists_of_findSome?_eq_some hlife
      have hnone := List.dropWhile_eq_nil_iff.1 hnil e he
      rw [hschema] at hnone
      cases hnone
    rw [List.dropWhile_append, if_neg (by simpa using hdrop), List.flatMap_append,
      List.flatMap_singleton]
    rfl
  | none =>
    -- the life drops everything, and the command begins it
    have hnone := List.findSome?_eq_none_iff.1 hlife
    have hdrop : life.dropWhile (fun e => (e.2.creates? bucket).isNone) = [] :=
      List.dropWhile_eq_nil_iff.2 fun e he => by rw [hnone e he]; rfl
    rw [List.dropWhile_append, if_pos (by rw [hdrop]; rfl)]
    cases hc : c.creates? bucket with
    | none => simp [hc]
    | some schema => simp [hc, hrows schema hc]

theorem sinceDeletion_concat : sinceDeletion bucket (steps ++ [(now, c)]) =
    if c.deletes bucket then [] else sinceDeletion bucket steps ++ [(now, c)] := by
  unfold sinceDeletion
  rw [List.rtakeWhile_concat]
  cases c.deletes bucket <;> rfl

/-- **One more command** does to the bucket of a history what it does to the table. -/
theorem ofHistory_concat (steps : List (Int64 × TransportCommand)) (now : Int64)
    (c : TransportCommand) : ofHistory (steps ++ [(now, c)]) = c.act now (ofHistory steps) := by
  funext bucket
  rw [act_apply]
  unfold ofHistory
  rw [sinceDeletion_concat]
  split
  next => rfl
  next => exact ofLife_concat

end Bucket

/-! ## The store -/

namespace Session

variable {s : Session} {m : MemoryStore} {now : Int64}

theorem runTransport_memory {α : Type} (hm : s.transport = .memory m) {operation : Operation α}
    {result : Except TransportError α} {t : Transport}
    (h : operation (.memory m) = (result, t)) (answer : α → Answer) :
    s.runTransport operation answer =
      ((result.mapError .transport).map answer, { s with transport := t }) := by
  unfold runTransport
  rw [hm, h]

/-- What a plan selects is an answer of the table. -/
theorem selected_eq (m : MemoryStore) (plan : Plan) (now : Int64) :
    (((Transport.select m plan now).map Prod.fst).mapError .transport).map .output =
      TransportCommand.selected now (NameMap.get? m) plan := by
  unfold TransportCommand.selected Transport.select MemoryStore.query?
  cases NameMap.get? m plan.bucket <;> rfl

/-- What a command comes to in a session with a store in memory: the next table, an answer of the
table before, and no other change. -/
def Advances (s : Session) (m : MemoryStore) (now : Int64) (c : TransportCommand)
    (r : Except CommandError Answer × Session) : Prop :=
  ∃ m', r.2 = { s with transport := .memory m' } ∧
    NameMap.get? m' = c.act now (NameMap.get? m) ∧ c.Replies now (NameMap.get? m) r.1

theorem advances_create (hm : s.transport = .memory m) (bucket : String) (schema : Schema) :
    s.Advances m now (.create bucket schema)
      (s.performTransport now (.create bucket schema)) := by
  have hcreate : Transport.create bucket schema (.memory m) =
      (.ok (), .memory (MemoryStore.create m bucket schema)) := rfl
  have hrun : s.performTransport now (.create bucket schema) = _ :=
    runTransport_memory hm hcreate _
  rw [hrun]
  refine ⟨_, rfl, ?_, rfl⟩
  show _ = Function.update (NameMap.get? m) bucket _
  unfold MemoryStore.create NameMap.contains
  cases hb : NameMap.get? m bucket with
  | some b =>
    rw [Option.some_or, ← hb, Function.update_eq_self, hb]
    rfl
  | none =>
    funext other
    rw [if_neg (by simp), NameMap.get?_insert, Buckets.update_apply, Option.none_or]

theorem advances_delete (hm : s.transport = .memory m) (bucket : String) :
    s.Advances m now (.delete bucket) (s.performTransport now (.delete bucket)) := by
  have hdelete : Transport.delete bucket (.memory m) =
      (.ok (NameMap.contains m bucket), .memory (NameMap.erase m bucket)) := rfl
  have hrun : s.performTransport now (.delete bucket) = _ := runTransport_memory hm hdelete _
  rw [hrun]
  refine ⟨_, rfl, ?_, rfl⟩
  funext other
  show _ = Function.update (NameMap.get? m) bucket none other
  rw [NameMap.get?_erase, Buckets.update_apply]

theorem advances_write (hm : s.transport = .memory m) (bucket : String) (points : List Point) :
    s.Advances m now (.write bucket points) (s.performTransport now (.write bucket points)) := by
  cases hb : NameMap.get? m bucket with
  | none =>
    have hwrite : Transport.write bucket points now (.memory m) =
        (.error (Transport.noBucket bucket), .memory m) := by
      unfold Transport.write Transport.operate MemoryStore.write?
      simp only [hb, Option.map_none]
    have hrun : s.performTransport now (.write bucket points) = _ :=
      runTransport_memory hm hwrite _
    rw [hrun]
    refine ⟨m, rfl, ?_, ?_⟩
    · show _ = Function.update (NameMap.get? m) bucket (Option.map _ (NameMap.get? m bucket))
      rw [hb, Option.map_none, ← hb, Function.update_eq_self]
    · simp only [TransportCommand.Replies, hb]
      rfl
  | some b =>
    have hwrite : Transport.write bucket points now (.memory m) =
        (.ok true, .memory (NameMap.insert m bucket
          { b with rows := b.rows ++ points.map (·.toRow now) })) := by
      unfold Transport.write Transport.operate MemoryStore.write?
      simp only [hb, Option.map_some]
    have hrun : s.performTransport now (.write bucket points) = _ :=
      runTransport_memory hm hwrite _
    rw [hrun]
    refine ⟨_, rfl, ?_, ?_⟩
    · funext other
      show _ = Function.update (NameMap.get? m) bucket (Option.map _ (NameMap.get? m bucket)) other
      rw [hb, Option.map_some, NameMap.get?_insert, Buckets.update_apply]
    · simp only [TransportCommand.Replies, hb]
      rfl

/-- A listing has each bucket once. -/
theorem advances_list (hm : s.transport = .memory m) :
    s.Advances m now .list (s.performTransport now .list) := by
  have hlist : Transport.list (.memory m) = (.ok (MemoryStore.list m), .memory m) := rfl
  have hrun : s.performTransport now .list = _ := runTransport_memory hm hlist _
  rw [hrun]
  refine ⟨m, rfl, rfl, _, rfl, ?_, fun remote => ?_⟩
  · rw [MemoryStore.map_name_list]
    exact NameMap.nodup_names m
  · unfold MemoryStore.list
    rw [List.mem_map]
    constructor
    · rintro ⟨⟨name, b⟩, hb, rfl⟩
      exact ⟨b, NameMap.get?_eq_some_iff.2 hb, rfl⟩
    · obtain ⟨name, schema⟩ := remote
      rintro ⟨b, hb, hschema⟩
      exact ⟨(name, b), NameMap.get?_eq_some_iff.1 hb, by rw [← hschema]⟩

theorem advances_query (hm : s.transport = .memory m) (plan : Plan) :
    s.Advances m now (.query plan) (s.performTransport now (.query plan)) := by
  have hquery : Transport.query plan now (.memory m) = _ := Transport.operate_select rfl
  have hrun : s.performTransport now (.query plan) = _ := runTransport_memory hm hquery _
  rw [hrun, selected_eq]
  exact ⟨m, rfl, rfl, rfl⟩

theorem advances_queryText (hm : s.transport = .memory m) (bucket text : String) :
    s.Advances m now (.queryText bucket text)
      (s.performTransport now (.queryText bucket text)) := by
  cases hp : Pipeline.parse text with
  | ok p =>
    have hquery : Transport.queryText bucket text now (.memory m) =
        ((Transport.select m (p.toPlan (MemoryStore.kindOf m p.bucket)) now).map Prod.fst,
          .memory m) := Transport.operate_select (by rw [hp])
    have hrun : s.performTransport now (.queryText bucket text) = _ :=
      runTransport_memory hm hquery _
    rw [hrun, selected_eq]
    refine ⟨m, rfl, rfl, ?_⟩
    simp only [TransportCommand.Replies, hp]
    rfl
  | error e =>
    have hquery : Transport.queryText bucket text now (.memory m) =
        (.error (.api 400 e.message), .memory m) := by
      unfold Transport.queryText Transport.operate
      simp only [hp]
    have hrun : s.performTransport now (.queryText bucket text) = _ :=
      runTransport_memory hm hquery _
    rw [hrun]
    refine ⟨m, rfl, rfl, ?_⟩
    simp only [TransportCommand.Replies, hp]
    rfl

/-- **One command** takes a store in memory from one table to the next, and gives an answer of the
table; nothing else in the session changes. -/
theorem advances_perform (hm : s.transport = .memory m) (now : Int64) (c : TransportCommand) :
    s.Advances m now c (s.perform now (.transport c)) := by
  have hsame : s = { s with transport := .memory m } := by rw [← hm]
  show s.Advances m now c (s.performTransport now c)
  cases c with
  | create bucket schema => exact advances_create hm bucket schema
  | delete bucket => exact advances_delete hm bucket
  | write bucket points => exact advances_write hm bucket points
  | list => exact advances_list hm
  | query plan => exact advances_query hm plan
  | queryText bucket text => exact advances_queryText hm bucket text
  | ping =>
    have hping : Transport.ping (.memory m) = (.ok true, .memory m) := rfl
    have hrun : s.performTransport now .ping = _ := runTransport_memory hm hping _
    rw [hrun]
    exact ⟨m, rfl, rfl, rfl⟩
  | name =>
    refine ⟨m, hsame, rfl, ?_⟩
    show Except.ok (Answer.text s.transport.name) = _
    rw [hm]
    rfl
  | rowCount bucket =>
    refine ⟨m, hsame, rfl, ?_⟩
    show Except.ok (Answer.count (s.transport.rowCount bucket)) = _
    rw [hm]
    show Except.ok (Answer.count (MemoryStore.rowCount m bucket)) = Except.ok (Answer.count _)
    unfold MemoryStore.rowCount
    cases NameMap.get? m bucket <;> rfl

/-- A command that leaves the table as it is leaves the whole session as it is. -/
theorem Advances.eq_self {c : TransportCommand} {r : Except CommandError Answer × Session}
    (h : s.Advances m now c r) (hm : s.transport = .memory m)
    (hc : c.act now (NameMap.get? m) = NameMap.get? m) : r.2 = s := by
  obtain ⟨m', hr, htable, -⟩ := h
  have hstore : m' = m := NameMap.ext_get? fun name => by rw [htable, hc]
  rw [hr, hstore, ← hm]

/-- The commands of a session that go to its transport. -/
def transportSteps (steps : List (Int64 × TransportCommand)) : List (Int64 × Command) :=
  steps.map fun e => (e.1, .transport e.2)

theorem run_append (s : Session) (steps more : List (Int64 × Command)) :
    s.run (steps ++ more) = (s.run steps).run more := by
  induction steps generalizing s with
  | nil => rfl
  | cons e steps ih => exact ih (s.perform e.1 e.2).2

/-- **A run.** From its beginning a store in memory holds the buckets of the run's history. -/
theorem run_memory (hm : s.transport = .memory .empty) (steps : List (Int64 × TransportCommand)) :
    ∃ m, s.run (transportSteps steps) = { s with transport := .memory m } ∧
      NameMap.get? m = Bucket.ofHistory steps := by
  induction steps using List.reverseRecOn with
  | nil => exact ⟨.empty, by rw [← hm]; rfl, rfl⟩
  | append_singleton steps e ih =>
    obtain ⟨m, hrun, htable⟩ := ih
    obtain ⟨now, c⟩ := e
    obtain ⟨m', hstep, htable', -⟩ :=
      advances_perform (s := { s with transport := .memory m }) rfl now c
    refine ⟨m', ?_, ?_⟩
    · unfold transportSteps at hrun ⊢
      rw [List.map_append, run_append, hrun]
      exact hstep
    · rw [htable', htable, Bucket.ofHistory_concat]

theorem perform_offline (hs : s.transport = .offline) (now : Int64) (c : TransportCommand) :
    s.perform now (.transport c) = (c.deadReply, s) := by
  obtain ⟨engine, transport, registries, shares, handles⟩ := s
  obtain rfl : transport = .offline := hs
  cases c <;> rfl

theorem run_offline (hs : s.transport = .offline) (steps : List (Int64 × TransportCommand)) :
    s.run (transportSteps steps) = s := by
  induction steps with
  | nil => rfl
  | cons e steps ih =>
    show (s.perform e.1 (.transport e.2)).2.run _ = s
    rw [perform_offline hs]
    exact ih

/-- **The machine of a store in memory.** In whatever state a store in memory is, a command changes
it and is answered as the machine says, and one that is answered with an error leaves the whole
session as it was. After any commands from the beginning, each bucket is what its history says. A
store that plays dead answers all that it is asked to do with one error, and never changes. -/
theorem memory_machine (s : Session) :
    (∀ m, s.transport = .memory m → ∀ now c,
      s.Advances m now c (s.perform now (.transport c)) ∧
        ∀ e, (s.perform now (.transport c)).1 = .error e →
          (s.perform now (.transport c)).2 = s) ∧
    (s.transport = .memory .empty → ∀ steps, ∃ m,
      s.run (transportSteps steps) = { s with transport := .memory m } ∧
        NameMap.get? m = Bucket.ofHistory steps) ∧
    (s.transport = .offline → ∀ steps now c, s.run (transportSteps steps) = s ∧
      s.perform now (.transport c) = (c.deadReply, s)) := by
  refine ⟨fun m hm now c => ?_, run_memory, fun hs steps now c =>
    ⟨run_offline hs steps, perform_offline hs now c⟩⟩
  have hstep := advances_perform hm now c
  refine ⟨hstep, fun e he => hstep.eq_self hm ?_⟩
  obtain ⟨m', -, -, hreply⟩ := hstep
  rw [he] at hreply
  exact TransportCommand.act_of_error hreply

end Session

/-! ## A shelf that is taken down and put up again -/

/-- A session with a store. -/
def shelfSession (transport : Transport) : Session :=
  .start (.bind "host" "token" "organization") transport 1 false

def dust : Point := ⟨"dust", .empty, .ofList [("grams", .integer 3)], none⟩

/-- A bucket is created, written to, created once more, deleted, created anew and written to. -/
def shelfSteps : List (Int64 × TransportCommand) :=
  [(1, .create "shelf" (.untyped "old")), (2, .write "shelf" [dust]),
    (3, .create "shelf" (.untyped "new")), (4, .delete "shelf"),
    (5, .create "shelf" (.untyped "new")), (6, .write "shelf" [dust, dust])]

theorem memory_machine_shelf : ∃ m,
    (shelfSession (.memory .empty)).run (Session.transportSteps shelfSteps) =
      shelfSession (.memory m) ∧
    NameMap.get? m "shelf" = some ⟨.untyped "new", [dust.toRow 6, dust.toRow 6]⟩ ∧
    (shelfSession (.memory m)).perform 7 (.transport (.write "attic" [dust])) =
      (.error (.transport (Transport.noBucket "attic")), shelfSession (.memory m)) ∧
    (shelfSession .offline).perform 8 (.transport .list) =
      (.error (.transport Transport.offlineError), shelfSession .offline) := by
  obtain ⟨m, hrun, htable⟩ :=
    (Session.memory_machine (shelfSession (.memory .empty))).2.1 rfl shelfSteps
  obtain ⟨⟨-, -, -, hreply⟩, hsame⟩ :=
    (Session.memory_machine (shelfSession (.memory m))).1 m rfl 7 (.write "attic" [dust])
  have hattic : NameMap.get? m "attic" = none := by
    rw [htable]
    decide +kernel
  simp only [TransportCommand.Replies, hattic] at hreply
  refine ⟨m, hrun, ?_, Prod.ext hreply (hsame _ hreply), ?_⟩
  · rw [htable]
    decide +kernel
  · exact ((Session.memory_machine (shelfSession .offline)).2.2 rfl [] 8 .list).2

end TypedSeries
