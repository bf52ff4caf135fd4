import TypedSeries.Proofs.RequestTargets

/-!
# Deleting a bucket

A bucket is deleted by the identifier that the server gives for its name, so what goes is decided
by the answer to the look-up.

1. The look-up finds the first entry of exactly the name on the page it is answered with
   (`Client.found_eq_some_iff`), and none if the page lacks one or the status is 404
   (`Client.found_eq_none_iff`).
2. What a deletion comes to is decided by the status of its answer (`Client.removed_eq_true_iff`,
   `Client.removed_eq_false_iff`), and its target ends in the coded identifier
   (`Client.Hosted.target_of_deleteRequest`).

**Main.** `Client.delete_named`.
-/

namespace TypedSeries.Http

namespace Reply

/-- The status of a reply that is an answer. -/
def status? : Reply → Option Nat
  | .answer status _ => some status
  | _ => none

/-- A reply that tells of success. -/
def Succeeds (reply : Reply) : Prop :=
  ∃ status, reply.status? = some status ∧ isSuccess status = true

/-- A reply that gives a page on which an entry is the first of exactly a name. -/
def Names (reply : Reply) (name : String) (entry : Entry) : Prop :=
  ∃ before after, reply.Gives (before ++ entry :: after) ∧ entry.name = name ∧
    ∀ other ∈ before, other.name ≠ name

/-- A reply that tells that there is no bucket of a name: nothing is found, or no entry of a page
has exactly the name. -/
def Lacks (reply : Reply) (name : String) : Prop :=
  reply.status? = some 404 ∨ ∃ entries, reply.Gives entries ∧ ∀ entry ∈ entries, entry.name ≠ name

theorem names_iff {reply : Reply} {name : String} {entry : Entry} : reply.Names name entry ↔
    ∃ entries, reply.Gives entries ∧ entries.find? (·.name = name) = some entry := by
  constructor
  · rintro ⟨before, after, hgives, hname, hbefore⟩
    exact ⟨_, hgives, List.find?_eq_some_iff_append.2 ⟨by simpa using hname, before, after, rfl,
      by simpa using hbefore⟩⟩
  · rintro ⟨entries, hgives, hfind⟩
    obtain ⟨hname, before, after, rfl, hbefore⟩ := List.find?_eq_some_iff_append.1 hfind
    exact ⟨before, after, hgives, by simpa using hname, by simpa using hbefore⟩

theorem Names.unique {reply : Reply} {name : String} {entry other : Entry}
    (h : reply.Names name entry) (h' : reply.Names name other) : entry = other := by
  obtain ⟨entries, hgives, hfind⟩ := names_iff.1 h
  obtain ⟨entries', hgives', hfind'⟩ := names_iff.1 h'
  obtain rfl := hgives.eq hgives'
  exact Option.some.inj (hfind.symm.trans hfind')

theorem status?_eq_some_iff {reply : Reply} {status : Nat} :
    reply.status? = some status ↔ ∃ body, reply = .answer status body := by
  constructor
  · intro h
    cases reply with
    | answer status body =>
      cases h
      exact ⟨body, rfl⟩
    | _ => cases h
  · rintro ⟨body, rfl⟩
    rfl

end Reply

namespace Client

variable {c : Client} {s : Server} {t : Trace} {r : Request} {reply : Reply} {name : String}
  {entry : Entry}

open Conversation

/-! ## The look-up -/

/-- What the answer to a look-up says of a name. -/
def found (name : String) (answer : Nat × Body) : Except TransportError (Option Entry) :=
  if answer.1 = 404 then .ok none
  else (decodeAnswer pageOfSource? answer).bind fun page => .ok (page.find? (·.name = name))

theorem find_ok (hr : c.findRequest name = .ok r) (s : Server) (t : Trace) :
    ∃ events, c.find s name t = ((answerOf r (s.next t.exchanges r)).bind (found name),
      ⟨t.exchanges ++ [(r, s.next t.exchanges r)], events⟩) := by
  unfold findRequest at hr
  unfold find
  rw [hr]
  refine send_bind (fun answer => ?_) s "find_bucket" r t
  unfold found
  split
  · exact settles_pure none
  · exact settles_result_bind _ fun page => settles_pure _

theorem found_eq_ok_iff {hit : Option Entry} :
    (answerOf r reply).bind (found name) = .ok hit ↔
      (reply.status? = some 404 ∧ hit = none) ∨
        ∃ entries, reply.Gives entries ∧ entries.find? (·.name = name) = hit := by
  rw [answerOf_bind_eq_ok_iff]
  constructor
  · rintro ⟨status, body, rfl, h⟩
    unfold found at h
    split at h
    next hstatus => exact .inl ⟨congrArg some hstatus, (Except.ok.inj h).symm⟩
    next =>
      cases hpage : decodeAnswer pageOfSource? (status, body) with
      | error e =>
        rw [hpage] at h
        cases h
      | ok entries =>
        rw [hpage] at h
        obtain ⟨hstatus, hbody⟩ := decodeAnswer_eq_ok_iff.1 hpage
        exact .inr ⟨entries, ⟨status, body, rfl, hstatus, hbody⟩, Except.ok.inj h⟩
  · rintro (⟨hstatus, rfl⟩ | ⟨entries, ⟨status, body, rfl, hstatus, hbody⟩, rfl⟩)
    · obtain ⟨body, rfl⟩ := Reply.status?_eq_some_iff.1 hstatus
      exact ⟨404, body, rfl, rfl⟩
    · refine ⟨status, body, rfl, ?_⟩
      have hfound : status ≠ 404 := by
        rintro rfl
        cases hstatus
      rw [found, if_neg hfound, decodeAnswer_eq_ok_iff.2 ⟨hstatus, hbody⟩]
      rfl

theorem found_eq_some_iff :
    (answerOf r reply).bind (found name) = .ok (some entry) ↔ reply.Names name entry := by
  rw [found_eq_ok_iff, or_iff_right fun h => (nomatch h.2), Reply.names_iff]

theorem found_eq_none_iff :
    (answerOf r reply).bind (found name) = .ok none ↔ reply.Lacks name := by
  simp only [found_eq_ok_iff, List.find?_eq_none, decide_eq_true_eq, and_true, Reply.Lacks]

/-- Every organization can be asked for buckets, with any values of parameters. -/
theorem Usable.exists_bucketsRequest (hc : c.Usable) {parameters : List (String × String)}
    (hne : parameters ≠ []) (hnames : ∀ p ∈ parameters, Percent.encode p.1 = p.1.toList) :
    ∃ r, c.plain .get (target "/api/v2/buckets" parameters) = .ok r := by
  have htarget : Url.IsTarget "/api/v2/buckets".toList := ⟨⟨_, rfl⟩, by decide⟩
  obtain ⟨u, -, hr⟩ := hc.hosted.exists_request (isTarget_queryOf htarget hnames) .get
    (plainHeaders_sendable hc.token) ""
  rw [← Http.target_eq hne hnames] at hr
  exact ⟨_, hr⟩

/-- Every name can be put in the request of a look-up. -/
theorem Usable.exists_findRequest (hc : c.Usable) (name : String) :
    ∃ r, c.findRequest name = .ok r :=
  hc.exists_bucketsRequest (List.cons_ne_nil _ _) (encode_names ["orgID", "name"] rfl (by decide))

/-! ## The deletion -/

/-- The request that deletes the bucket of an identifier. -/
def deleteRequest (c : Client) (id : String) : Except RequestFault Request :=
  c.plain .delete ("/api/v2/buckets/" ++ String.ofList (Percent.encode id))

/-- The target of a deletion ends in the coded identifier, unless that is dots. -/
theorem Hosted.target_of_deleteRequest (hc : c.Hosted) (hbase : Url.IsBase c.base) {id : String}
    (hdot : id ≠ ".") (hdots : id ≠ "..") (hr : c.deleteRequest id = .ok r) :
    r.url.target = c.root ++ "/api/v2/buckets/".toList ++ Percent.encode id := by
  have hs : ∀ s ∈ ["api".toList, "v2".toList, "buckets".toList, Percent.encode id],
      Url.IsSegment s := by
    have hfixed : ∀ s ∈ ["api".toList, "v2".toList, "buckets".toList], Url.IsSegment s := by decide
    simpa [or_imp, forall_and, Url.isSegment_encode hdot hdots] using hfixed
  have htarget : "/api/v2/buckets/" ++ String.ofList (Percent.encode id) =
      String.ofList (Url.pathOf ["api".toList, "v2".toList, "buckets".toList, Percent.encode id] ++
        Url.marked '?' none) := by
    rw [← String.toList_inj]
    simp [Url.pathOf, Url.marked]
  obtain ⟨u, hu, rfl⟩ := plain_eq_ok hr
  rw [htarget] at hu
  have hplain := Url.isTarget_pathOf (List.cons_ne_nil _ _) hs
  have hsent := hc.target_eq hbase (List.cons_ne_nil _ _) hs
    (by rwa [Url.marked, List.append_nil]) hu
  show u.target = _
  rw [hsent]
  simp [Url.pathOf, Url.marked]

/-- Every identifier can be put in the request of a deletion. -/
theorem Usable.exists_deleteRequest (hc : c.Usable) (id : String) :
    ∃ r, c.deleteRequest id = .ok r := by
  have hpath : Url.PlainText "/api/v2/buckets/".toList := by decide
  have htarget : Url.IsTarget ("/api/v2/buckets/".toList ++ Percent.encode id) :=
    ⟨⟨_, rfl⟩, List.forall_mem_append.2 ⟨hpath, Url.plain_encode id⟩⟩
  obtain ⟨u, -, hr⟩ := hc.hosted.exists_request htarget .delete (plainHeaders_sendable hc.token) ""
  rw [String.ofList_append, String.ofList_toList] at hr
  exact ⟨_, hr⟩

/-- What the answer to a deletion says. -/
def removed (answer : Nat × Body) : Except TransportError Bool :=
  if answer.1 = 404 then .ok false else (accept answer).bind fun _ => .ok true

theorem removed_eq_true_iff : (answerOf r reply).bind removed = .ok true ↔ reply.Succeeds := by
  rw [answerOf_bind_eq_ok_iff]
  constructor
  · rintro ⟨status, body, rfl, h⟩
    unfold removed accept at h
    split_ifs at h with hlost hstatus
    · cases h
    · exact ⟨status, rfl, hstatus⟩
    · cases h
  · rintro ⟨status, hreply, hstatus⟩
    obtain ⟨body, rfl⟩ := Reply.status?_eq_some_iff.1 hreply
    have hfound : status ≠ 404 := by
      rintro rfl
      cases hstatus
    refine ⟨status, body, rfl, ?_⟩
    rw [removed, if_neg hfound, accept, if_pos hstatus]
    rfl

theorem removed_eq_false_iff :
    (answerOf r reply).bind removed = .ok false ↔ reply.status? = some 404 := by
  rw [answerOf_bind_eq_ok_iff]
  constructor
  · rintro ⟨status, body, rfl, h⟩
    unfold removed accept at h
    split_ifs at h with hlost hstatus
    · exact congrArg some hlost
    · cases h
    · cases h
  · intro hreply
    obtain ⟨body, rfl⟩ := Reply.status?_eq_some_iff.1 hreply
    exact ⟨404, body, rfl, rfl⟩

/-- A deletion that has found an entry makes one request, for its identifier. -/
theorem delete_of_find {t₁ : Trace} (hfind : c.find s name t = (.ok (some entry), t₁))
    (hr : c.deleteRequest entry.id = .ok r) : ∃ events, c.delete s name t =
      ((answerOf r (s.next t₁.exchanges r)).bind removed,
        ⟨t₁.exchanges ++ [(r, s.next t₁.exchanges r)], events⟩) := by
  unfold deleteRequest at hr
  unfold delete
  rw [bind_apply, hfind]
  dsimp only
  rw [hr]
  refine send_bind (fun answer => ?_) s "delete_bucket" r t₁
  unfold removed
  split
  · exact settles_pure false
  · exact settles_result_bind _ fun _ => settles_log_bind _ (settles_pure true)

theorem delete_of_find_none {t₁ : Trace} (hfind : c.find s name t = (.ok none, t₁)) :
    c.delete s name t = (.ok false, t₁) := by
  unfold delete
  rw [bind_apply, hfind]
  rfl

theorem delete_of_find_error {t₁ : Trace} {e : TransportError}
    (hfind : c.find s name t = (.error e, t₁)) : c.delete s name t = (.error e, t₁) := by
  unfold delete
  rw [bind_apply, hfind]

/-! ## Deleting by name -/

/-- What deleting the bucket of a name makes between two traces: a look-up by the name, and at most
one deletion, if and only if the look-up names an entry. It is by the coded identifier of the first
such entry. The outcome is yes exactly if the deletion succeeds, and no exactly if the look-up tells
that there is no such bucket or the deletion is answered with 404. -/
structure Deletion (c : Client) (s : Server) (name : String) (before after : Trace)
    (lookup : Request) (reply : Reply) (deletions : Exchanges)
    (outcome : Except TransportError Bool) : Prop where
  made : after.exchanges = before.exchanges ++ (lookup, reply) :: deletions
  reply_eq : reply = s.next before.exchanges lookup
  looks : lookup.method = .get
  reads : Url.IsBase c.base → lookup.Reads (c.root ++ "/api/v2/buckets".toList)
    [("orgID", c.organization), ("name", name)]
  atMostOne : deletions.length ≤ 1
  ne_nil : (∃ entry, reply.Names name entry) → deletions ≠ []
  deletes : ∀ e ∈ deletions, e.1.method = .delete ∧
    e.2 = s.next (before.exchanges ++ [(lookup, reply)]) e.1
  targets : ∀ e ∈ deletions, ∃ entry, reply.Names name entry ∧
    (Url.IsBase c.base → entry.id ≠ "." → entry.id ≠ ".." →
      e.1.url.target = c.root ++ "/api/v2/buckets/".toList ++ Percent.encode entry.id)
  eq_true_iff : outcome = .ok true ↔ ∃ e ∈ deletions, e.2.Succeeds
  eq_false_iff : outcome = .ok false ↔
    reply.Lacks name ∨ ∃ e ∈ deletions, e.2.status? = some 404
  direct : s.Direct → (s.wire after.requests).map Prod.fst =
    before.requests ++ lookup :: deletions.map Prod.fst

theorem Usable.lookup_reads (hc : c.Usable) (hr : c.findRequest name = .ok r) :
    r.method = .get ∧ (Url.IsBase c.base → r.Reads (c.root ++ "/api/v2/buckets".toList)
      [("orgID", c.organization), ("name", name)]) := by
  refine ⟨?_, fun hbase => ?_⟩
  · obtain ⟨u, -, rfl⟩ := plain_eq_ok hr
    rfl
  · have hasks := hc.hosted.asks_find hbase name (.unreachable "") []
    rw [hr] at hasks
    exact hasks.reads _ (List.mem_singleton_self _)

/-- Without an entry of the name the look-up is all that is made. -/
theorem Usable.deletion_of_unnamed (hc : c.Usable) (hr : c.findRequest name = .ok r)
    {outcome : Except TransportError Bool} {events : List Event}
    (hunnamed : ∀ entry, (answerOf r (s.next t.exchanges r)).bind (found name) ≠ .ok (some entry))
    (htrue : outcome ≠ .ok true) (hfalse : outcome = .ok false ↔
      (answerOf r (s.next t.exchanges r)).bind (found name) = .ok none)
    (hdelete : c.delete s name t =
      (outcome, ⟨t.exchanges ++ [(r, s.next t.exchanges r)], events⟩)) :
    c.Deletion s name t (c.delete s name t).2 r (s.next t.exchanges r) []
      (c.delete s name t).1 := by
  have hmade : (c.delete s name t).2.exchanges = t.exchanges ++ [(r, s.next t.exchanges r)] := by
    rw [hdelete]
  exact {
    made := hmade
    reply_eq := rfl
    looks := (hc.lookup_reads hr).1
    reads := (hc.lookup_reads hr).2
    atMostOne := Nat.zero_le 1
    ne_nil := fun ⟨entry, hentry⟩ => absurd (found_eq_some_iff.2 hentry) (hunnamed entry)
    deletes := List.forall_mem_nil _
    targets := List.forall_mem_nil _
    eq_true_iff := by simpa [hdelete] using htrue
    eq_false_iff := by simpa [hdelete, found_eq_none_iff] using hfalse
    direct := (s.wire_of_made hmade).1 }

/-- An entry of the name is deleted by its identifier. -/
theorem Usable.deletion_of_named (hc : c.Usable) (hr : c.findRequest name = .ok r)
    {events : List Event} (hnames : (s.next t.exchanges r).Names name entry)
    (hfind : c.find s name t =
      (.ok (some entry), ⟨t.exchanges ++ [(r, s.next t.exchanges r)], events⟩)) :
    ∃ deletion, c.Deletion s name t (c.delete s name t).2 r (s.next t.exchanges r) [deletion]
      (c.delete s name t).1 := by
  obtain ⟨q, hq⟩ := hc.exists_deleteRequest entry.id
  obtain ⟨events', hdelete⟩ := delete_of_find hfind hq
  have hmethod : q.method = .delete := by
    obtain ⟨u, -, rfl⟩ := plain_eq_ok hq
    rfl
  have hlacks : ¬ (s.next t.exchanges r).Lacks name := fun h => by
    have hnone := (found_eq_none_iff (r := r)).2 h
    rw [found_eq_some_iff.2 hnames] at hnone
    cases hnone
  have hmade := congrArg (fun p => p.2.exchanges) hdelete
  rw [List.append_assoc] at hmade
  exact ⟨_, {
    made := hmade
    reply_eq := rfl
    looks := (hc.lookup_reads hr).1
    reads := (hc.lookup_reads hr).2
    atMostOne := Nat.le_refl 1
    ne_nil := fun _ => List.cons_ne_nil _ _
    deletes := List.forall_mem_singleton.2 ⟨hmethod, rfl⟩
    targets := List.forall_mem_singleton.2 ⟨entry, hnames, fun hbase hdot hdots =>
      hc.hosted.target_of_deleteRequest hbase hdot hdots hq⟩
    eq_true_iff := by rw [hdelete, removed_eq_true_iff]; simp
    eq_false_iff := by rw [hdelete, removed_eq_false_iff]; simp [hlacks]
    direct := (s.wire_of_made hmade).1 }⟩

/-- **Deleting.** A client that can make requests looks a bucket up by its name, once, and deletes
what the answer names, once. -/
theorem delete_named (hc : c.Usable) (s : Server) (name : String) (t : Trace) :
    ∃ lookup reply deletions, c.Deletion s name t (c.delete s name t).2 lookup reply deletions
      (c.delete s name t).1 := by
  obtain ⟨lookup, hlookup⟩ := hc.exists_findRequest name
  obtain ⟨events, hfind⟩ := find_ok hlookup s t
  refine ⟨lookup, s.next t.exchanges lookup, ?_⟩
  cases hlook : (answerOf lookup (s.next t.exchanges lookup)).bind (found name) with
  | error e =>
    rw [hlook] at hfind
    exact ⟨[], hc.deletion_of_unnamed hlookup (by simp [hlook]) (by simp) (by simp [hlook])
      (delete_of_find_error hfind)⟩
  | ok look =>
    rw [hlook] at hfind
    cases look with
    | none =>
      exact ⟨[], hc.deletion_of_unnamed hlookup (by simp [hlook]) (by simp) (by simp [hlook])
        (delete_of_find_none hfind)⟩
    | some entry =>
      obtain ⟨deletion, hdeletion⟩ :=
        hc.deletion_of_named hlookup (found_eq_some_iff.1 hlook) hfind
      exact ⟨[deletion], hdeletion⟩

end Client

/-! ## A page with names that are almost the same -/

/-- A page with a name that another begins with, and with that other name twice. -/
def roomEntries : List Entry := [⟨"0", "room", none⟩, ⟨"r/1", "rooms", none⟩, ⟨"2", "rooms", none⟩]

/-- A server that answers with the page and then with success. -/
def roomsServer : Server :=
  .ofReplies [.answer 200 (.whole (pageDocument roomEntries).toText), .answer 204 (.whole "")]

theorem usable_knotted : (Client.ofEngine knottedEngine).Usable :=
  ⟨⟨⟨"http".toList, some "localhost".toList, some 8086, ['/'], none, none⟩, by decide⟩,
    by decide⟩

theorem delete_named_rooms :
    (Client.ofEngine knottedEngine).Usable ∧
      ((Client.ofEngine knottedEngine).delete roomsServer "rooms" .empty).1 = .ok true ∧
      ∃ lookup deletion,
        ((Client.ofEngine knottedEngine).delete roomsServer "rooms" .empty).2.exchanges =
          [lookup, deletion] ∧
        lookup.1.Reads "/api/v2/buckets".toList [("orgID", "organization"), ("name", "rooms")] ∧
        deletion.1.method = .delete ∧
        deletion.1.url.target = "/api/v2/buckets/r%2F1".toList := by
  have hbase : Url.IsBase (Client.ofEngine knottedEngine).base := by decide
  have hroot : (Client.ofEngine knottedEngine).root = [] := by decide
  obtain ⟨lookup, reply, deletions, hdeletion⟩ :=
    Client.delete_named usable_knotted roomsServer "rooms" .empty
  obtain rfl := hdeletion.reply_eq
  have hgives : (roomsServer.next [] lookup).Gives roomEntries :=
    ⟨200, _, Server.next_ofReplies _ [] lookup, by decide, decodeBody_pageDocument roomEntries⟩
  have hnames : (roomsServer.next [] lookup).Names "rooms" ⟨"r/1", "rooms", none⟩ :=
    ⟨[⟨"0", "room", none⟩], [⟨"2", "rooms", none⟩], hgives, rfl, by decide⟩
  obtain ⟨deletion, rfl⟩ := List.length_eq_one_iff.1 (Nat.le_antisymm hdeletion.atMostOne
    (List.length_pos_of_ne_nil (hdeletion.ne_nil ⟨_, hnames⟩)))
  obtain ⟨hmethod, hreply⟩ := hdeletion.deletes deletion (List.mem_singleton_self _)
  obtain ⟨entry, hentry, htarget⟩ := hdeletion.targets deletion (List.mem_singleton_self _)
  obtain rfl := hentry.unique hnames
  have hreads := hdeletion.reads hbase
  have htarget := htarget hbase (by decide) (by decide)
  rw [hroot] at hreads htarget
  refine ⟨usable_knotted, hdeletion.eq_true_iff.2 ⟨deletion, List.mem_singleton_self _, ?_⟩, _,
    deletion, hdeletion.made, hreads, hmethod, htarget⟩
  rw [hreply, roomsServer, Server.next_ofReplies]
  exact ⟨204, rfl, by decide⟩

end TypedSeries.Http
