import TypedSeries.Proofs.BucketPages
import TypedSeries.Proofs.LineFraming
import TypedSeries.Proofs.TargetPaths

/-!
# Targets of operations

A server takes a target apart at its question mark, its ampersands and its equals signs and decodes
the pieces. Whatever organization a client speaks for and whatever the names of buckets are, it
finds the path and the parameters of the operation there, and nothing else.

1. The base of a client has no slashes at its end (`dropSlashes_append`).
2. A request made of a path and parameters reads as these, behind the root of the client
   (`Client.Hosted.reads_of_request`).
3. Each operation makes the one request that is its own (`Client.exchanges_find`); a listing makes
   one for each page, and a health check goes on to the credentials exactly if the server is well
   (`Client.exchanges_ping`).

**Main.** `Client.targets_read_back`.
-/

namespace TypedSeries.Http

/-- What is read of a target: its path and its parameters. -/
def readTarget? (target : List Char) : Option (List Char × List (String × String)) := do
  let (path, query) := cut '?' target
  return (path, ← readQuery? (← query))

/-- A request whose target reads as a path and parameters. -/
def Request.Reads (r : Request) (path : List Char) (parameters : List (String × String)) : Prop :=
  readTarget? r.url.target = some (path, parameters)

/-- A reply by which a server is well. -/
def Reply.Passes (reply : Reply) : Prop :=
  ∃ status body, reply = .answer status body ∧ isSuccess status = true ∧
    decodeBody healthOfSource? body = .ok "pass"

theorem readTarget?_queryOf {path : List Char} (hpath : '?' ∉ path)
    {parameters : List (String × String)} (hne : parameters ≠ []) :
    readTarget? (path ++ '?' :: queryOf parameters) = some (path, parameters) := by
  rw [readTarget?, cut_append_cons hpath]
  simp [readQuery?_queryOf hne]

/-! ## Slashes behind a host -/

theorem dropSlashes_append (s : String) (n : Nat) :
    dropSlashes (s ++ String.ofList (List.replicate n '/')) = dropSlashes s := by
  have hslashes : ∀ c ∈ List.replicate n '/', decide (c = '/') = true := fun c hc =>
    decide_eq_true (List.eq_of_mem_replicate hc)
  rw [dropSlashes, String.toList_append, String.toList_ofList, List.reverse_append,
    List.reverse_replicate, List.dropWhile_append_of_pos hslashes]
  rfl

theorem getLast?_dropSlashes (s : String) : (dropSlashes s).toList.getLast? ≠ some '/' := by
  intro hlast
  have hhead := List.head?_dropWhile_not (fun c => decide (c = '/')) s.toList.reverse
  rw [dropSlashes, String.toList_ofList, List.getLast?_reverse] at hlast
  rw [hlast] at hhead
  cases hhead

namespace Client

variable {c : Client} {s : Server} {t : Trace} {r : Request}

/-! ## One request -/

theorem encode_names {parameters : List (String × String)} (names : List String)
    (h : parameters.map Prod.fst = names)
    (hnames : ∀ name ∈ names, Percent.encode name = name.toList) :
    ∀ p ∈ parameters, Percent.encode p.1 = p.1.toList :=
  fun _ hp => hnames _ (h ▸ List.mem_map_of_mem hp)

section Requests

variable {m : Method} {path : String} {segments : List (List Char)}
  {parameters headers : List (String × String)}

/-- A request made of a path and parameters reads as these. -/
theorem Hosted.reads_of_request (hc : c.Hosted) (hbase : Url.IsBase c.base)
    (hpath : path.toList = Url.pathOf segments) (hne : segments ≠ [])
    (hs : ∀ s ∈ segments, Url.IsSegment s) (hparameters : parameters ≠ [])
    (hnames : ∀ p ∈ parameters, Percent.encode p.1 = p.1.toList) {body : String}
    (hr : c.request m (target path parameters) headers body = .ok r) :
    r.Reads (c.root ++ path.toList) parameters := by
  have htarget : Url.IsTarget (Url.pathOf segments ++ Url.marked '?' (some (queryOf parameters))) :=
    isTarget_queryOf (Url.isTarget_pathOf hne hs) hnames
  obtain ⟨u, hu, -, rfl⟩ := request_eq_ok hr
  rw [Http.target_eq hparameters hnames, hpath] at hu
  have hsent := hc.target_eq hbase hne hs htarget hu
  rw [Option.map_some, escapeWhere_queryOf, ← hpath] at hsent
  have hmark : '?' ∉ c.root ++ path.toList := fun hmem =>
    (List.mem_append.1 hmem).elim (hc.mark_not_mem_root hbase) fun hmem =>
      (Url.mem_pathOf hs (hpath ▸ hmem)).2.2 rfl
  show readTarget? u.target = _
  rw [hsent]
  exact readTarget?_queryOf hmark hparameters

/-- What an operation makes whose one request has a path and parameters: that request, unless the
token cannot be sent. -/
structure Asks (c : Client) (made : Exchanges) (path : String)
    (parameters : List (String × String)) : Prop where
  atMostOne : made.length ≤ 1
  ne_nil : isHeaderText c.token = true → made ≠ []
  reads : ∀ e ∈ made, e.1.Reads (c.root ++ path.toList) parameters

theorem Hosted.asks_of_request (hc : c.Hosted) (hbase : Url.IsBase c.base)
    (hpath : path.toList = Url.pathOf segments) (hne : segments ≠ [])
    (hs : ∀ s ∈ segments, Url.IsSegment s) (hparameters : parameters ≠ [])
    (hnames : ∀ p ∈ parameters, Percent.encode p.1 = p.1.toList)
    (hheaders : isHeaderText c.token = true → headers.all (fun h => isHeaderText h.2) = true)
    (body : String) (s : Server) (before : Exchanges) :
    c.Asks (s.exchanged before (c.request m (target path parameters) headers body)) path
      parameters := by
  cases hr : c.request m (target path parameters) headers body with
  | error f =>
    refine ⟨Nat.zero_le 1, fun htoken => ?_, List.forall_mem_nil _⟩
    have htarget : Url.IsTarget (path.toList ++ '?' :: queryOf parameters) :=
      isTarget_queryOf (hpath ▸ Url.isTarget_pathOf hne hs) hnames
    obtain ⟨u, -, hok⟩ := hc.exists_request htarget m (hheaders htoken) body
    rw [Http.target_eq hparameters hnames, hok] at hr
    cases hr
  | ok r =>
    exact ⟨Nat.le_refl 1, fun _ => List.cons_ne_nil _ _, List.forall_mem_singleton.2
      (hc.reads_of_request hbase hpath hne hs hparameters hnames hr)⟩

/-- The headers of a request without a body can be sent if the token can. -/
theorem plainHeaders_sendable (htoken : isHeaderText c.token = true) :
    [c.authorization, ("accept", "*/*")].all (fun h => isHeaderText h.2) = true := by
  rw [List.all_cons, isHeaderText_authorization htoken]
  decide

end Requests

/-! ## The requests of operations -/

/-- The request that runs query text. -/
def queryRequest (c : Client) (query : String) : Except RequestFault Request :=
  c.withJson .post (target "/api/v2/query" [("orgID", c.organization)]) "application/csv"
    (queryBody query)

/-- The request that looks a bucket up by its name. -/
def findRequest (c : Client) (name : String) : Except RequestFault Request :=
  c.plain .get (target "/api/v2/buckets" [("orgID", c.organization), ("name", name)])

/-- The request for the health of the server. -/
def healthRequest (c : Client) : Except RequestFault Request :=
  c.request .get "/health" [("accept", "*/*")] ""

/-- The request that tries token and organization. -/
def credentialsRequest (c : Client) : Except RequestFault Request :=
  c.plain .get (target "/api/v2/buckets" [("orgID", c.organization), ("limit", "1")])

open Conversation

theorem exchanges_queryText (c : Client) (s : Server) (bucket query : String) (t : Trace) :
    (c.queryText s bucket query t).2.exchanges =
      t.exchanges ++ s.exchanged t.exchanges (c.queryRequest query) := by
  unfold queryText
  rw [bind_apply]
  exact (exchanges_bind (fun answer => (quiet_result _).bind fun body => (quiet_result _).bind
    fun text => (quiet_result _).bind fun rows => quiet_pure _) _ _).trans (exchanges_send s _ _ _)

theorem exchanges_find (c : Client) (s : Server) (name : String) (t : Trace) :
    (c.find s name t).2.exchanges =
      t.exchanges ++ s.exchanged t.exchanges (c.findRequest name) := by
  refine (exchanges_bind (fun answer => ?_) _ t).trans (exchanges_send s _ _ t)
  split
  · exact quiet_pure none
  · exact (quiet_result _).bind fun page => quiet_pure _

/-! ## Health -/

/-- What a reply to the health request says of the health of the server. -/
def healthOf (r : Request) (reply : Reply) : Except TransportError String :=
  (answerOf r reply).bind fun answer =>
    ((accept answer).mapError healthError).bind (decodeBody healthOfSource?)

theorem healthOf_eq_ok_iff {reply : Reply} : healthOf r reply = .ok "pass" ↔ reply.Passes := by
  unfold healthOf Reply.Passes
  rw [answerOf_bind_eq_ok_iff]
  refine exists_congr fun status => exists_congr fun body => and_congr_right fun _ => ?_
  rw [accept]
  split
  next hstatus => exact (and_iff_right hstatus).symm
  next hstatus =>
    refine iff_of_false (fun h => ?_) fun h => hstatus h.1
    cases h

/-- The check of the credentials, made of a server that is well. -/
def checkCredentials (c : Client) (s : Server) : Conversation Bool := do
  let answer ← send s "check_org" c.credentialsRequest
  let _ ← (accept answer).mapError c.credentialsError
  return true

theorem ping_ok (hr : c.healthRequest = .ok r) (s : Server) (t : Trace) :
    ∃ events, c.ping s t = match healthOf r (s.next t.exchanges r) with
      | .error e => (.error e, ⟨t.exchanges ++ [(r, s.next t.exchanges r)], events⟩)
      | .ok status =>
        if status ≠ "pass" then
          (.ok false, ⟨t.exchanges ++ [(r, s.next t.exchanges r)], events⟩)
        else c.checkCredentials s ⟨t.exchanges ++ [(r, s.next t.exchanges r)], events⟩ := by
  obtain ⟨events, hsent⟩ := send_ok s "health" r t
  unfold healthRequest at hr
  unfold ping healthOf
  rw [hr, bind_apply, hsent]
  cases answerOf r (s.next t.exchanges r) with
  | error e => exact ⟨events, rfl⟩
  | ok answer =>
    dsimp only
    rw [bind_apply, result_apply, Except.bind]
    cases (accept answer).mapError healthError with
    | error e => exact ⟨events, rfl⟩
    | ok body =>
      dsimp only [Except.bind]
      rw [bind_apply, result_apply]
      cases decodeBody healthOfSource? body with
      | error e => exact ⟨events, rfl⟩
      | ok status =>
        dsimp only
        split
        · exact ⟨_, rfl⟩
        · exact ⟨events, rfl⟩

/-- A health check goes on to the credentials if and only if the server is well. -/
theorem exchanges_ping (c : Client) (s : Server) (t : Trace) : ∃ check,
    (c.ping s t).2.exchanges =
      t.exchanges ++ (s.exchanged t.exchanges c.healthRequest ++ check) ∧
    ((∃ e ∈ s.exchanged t.exchanges c.healthRequest, e.2.Passes) →
      ∃ before, check = s.exchanged before c.credentialsRequest) ∧
    ((∀ e ∈ s.exchanged t.exchanges c.healthRequest, ¬ e.2.Passes) → check = []) := by
  cases hr : c.healthRequest with
  | error f =>
    unfold healthRequest at hr
    refine ⟨[], ?_, fun ⟨_, he, _⟩ => (nomatch he), fun _ => rfl⟩
    rw [ping, hr]
    exact (List.append_nil t.exchanges).symm
  | ok r =>
    obtain ⟨events, hping⟩ := ping_ok hr s t
    unfold Server.exchanged
    rw [hping]
    simp only [List.mem_singleton, exists_eq_left, forall_eq, ← healthOf_eq_ok_iff (r := r)]
    rcases healthOf r (s.next t.exchanges r) with e | status
    · exact ⟨[], rfl, nofun, fun _ => rfl⟩
    dsimp only
    by_cases hpass : status = "pass"
    · rw [if_neg (not_not_intro hpass), checkCredentials, exchanges_bind fun answer =>
        (quiet_result _).bind fun _ => quiet_pure true, exchanges_send, List.append_assoc]
      exact ⟨_, rfl, fun _ => ⟨_, rfl⟩, fun h => (h (congrArg _ hpass)).elim⟩
    · rw [if_pos hpass]
      exact ⟨[], rfl, fun h => (hpass (Except.ok.inj h)).elim, fun _ => rfl⟩

/-- The health request, which bears no token, is made to the path of the health. -/
theorem Hosted.exists_health (hc : c.Hosted) (hbase : Url.IsBase c.base) :
    ∃ r, c.healthRequest = .ok r ∧ r.url.target = c.root ++ "/health".toList := by
  have hs : ∀ s ∈ ["health".toList], Url.IsSegment s := by decide
  have htarget : Url.IsTarget (Url.pathOf ["health".toList] ++ Url.marked '?' none) :=
    ⟨⟨_, rfl⟩, by decide⟩
  have hheaders : [("accept", "*/*")].all (fun h => isHeaderText h.2) = true := by decide
  obtain ⟨u, hu, hr⟩ := hc.exists_request htarget .get hheaders ""
  have hsent := hc.target_eq hbase (List.cons_ne_nil _ _) hs htarget hu
  exact ⟨_, hr, hsent.trans (List.append_nil _)⟩

/-! ## All operations -/

/-- A request about the buckets of a server reads as its parameters. -/
theorem Hosted.asks_buckets (hc : c.Hosted) (hbase : Url.IsBase c.base)
    {parameters : List (String × String)} (hne : parameters ≠ [])
    (hnames : ∀ p ∈ parameters, Percent.encode p.1 = p.1.toList) (s : Server)
    (before : Exchanges) :
    c.Asks (s.exchanged before (c.plain .get (target "/api/v2/buckets" parameters)))
      "/api/v2/buckets" parameters := by
  have hpath : "/api/v2/buckets".toList =
    Url.pathOf ["api".toList, "v2".toList, "buckets".toList] := by decide
  exact hc.asks_of_request hbase hpath (List.cons_ne_nil _ _) (by decide) hne hnames
    plainHeaders_sendable "" s before

theorem Hosted.asks_write (hc : c.Hosted) (hbase : Url.IsBase c.base) (bucket : String)
    (points : List Point) (s : Server) (before : Exchanges) :
    c.Asks (s.exchanged before (c.writeRequest bucket points)) "/api/v2/write"
      [("orgID", c.organization), ("bucket", bucket), ("precision", "ns")] := by
  have hpath : "/api/v2/write".toList =
    Url.pathOf ["api".toList, "v2".toList, "write".toList] := by decide
  refine hc.asks_of_request hbase hpath (List.cons_ne_nil _ _) (by decide) (List.cons_ne_nil _ _)
    (encode_names ["orgID", "bucket", "precision"] rfl (by decide)) (fun htoken => ?_) _ s before
  rw [List.all_cons, isHeaderText_authorization htoken]
  decide

theorem Hosted.asks_query (hc : c.Hosted) (hbase : Url.IsBase c.base) (query : String)
    (s : Server) (before : Exchanges) :
    c.Asks (s.exchanged before (c.queryRequest query)) "/api/v2/query"
      [("orgID", c.organization)] := by
  have hpath : "/api/v2/query".toList =
    Url.pathOf ["api".toList, "v2".toList, "query".toList] := by decide
  refine hc.asks_of_request hbase hpath (List.cons_ne_nil _ _) (by decide) (List.cons_ne_nil _ _)
    (encode_names ["orgID"] rfl (by decide)) (fun htoken => ?_) _ s before
  rw [List.all_cons, isHeaderText_authorization htoken]
  decide

theorem Hosted.asks_find (hc : c.Hosted) (hbase : Url.IsBase c.base) (name : String) (s : Server)
    (before : Exchanges) :
    c.Asks (s.exchanged before (c.findRequest name)) "/api/v2/buckets"
      [("orgID", c.organization), ("name", name)] :=
  hc.asks_buckets hbase (List.cons_ne_nil _ _) (encode_names ["orgID", "name"] rfl (by decide)) s
    before

theorem Hosted.asks_page (hc : c.Hosted) (hbase : Url.IsBase c.base) (offset : Nat) (s : Server)
    (before : Exchanges) :
    c.Asks (s.exchanged before (c.pageRequest offset)) "/api/v2/buckets"
      [("orgID", c.organization), ("limit", "100"), ("offset", offset.repr)] :=
  hc.asks_buckets hbase (List.cons_ne_nil _ _) (encode_pageParameters (_, _, _)) s before

theorem Hosted.asks_credentials (hc : c.Hosted) (hbase : Url.IsBase c.base) (s : Server)
    (before : Exchanges) :
    c.Asks (s.exchanged before c.credentialsRequest) "/api/v2/buckets"
      [("orgID", c.organization), ("limit", "1")] :=
  hc.asks_buckets hbase (List.cons_ne_nil _ _) (encode_names ["orgID", "limit"] rfl (by decide)) s
    before

theorem Hosted.list_reads (hc : c.Hosted) (hbase : Url.IsBase c.base) (s : Server) (t : Trace) :
    ∃ made, (c.list s t).2.exchanges = t.exchanges ++ made ∧
      (isHeaderText c.token = true → made ≠ []) ∧
      ∀ asked ∈ made, ∃ offset : Nat, asked.1.Reads (c.root ++ "/api/v2/buckets".toList)
        [("orgID", c.organization), ("limit", "100"), ("offset", offset.repr)] := by
  obtain ⟨made, hmade, hfirst, hasked, -⟩ := list_made c s t
  refine ⟨made, hmade, fun htoken hnil => ?_, fun asked hmem => ?_⟩
  · have hne := (hc.asks_page hbase 0 s t.exchanges).ne_nil htoken
    cases hr : c.pageRequest 0 with
    | error f =>
      rw [hr] at hne
      exact hne rfl
    | ok r =>
      rw [hnil, hr] at hfirst
      cases hfirst
  · obtain ⟨offset, hr⟩ := hasked asked hmem
    refine ⟨offset, (hc.asks_page hbase offset s []).reads (asked.1, s.next [] asked.1) ?_⟩
    rw [hr]
    exact List.mem_singleton_self _

theorem Hosted.ping_reads (hc : c.Hosted) (hbase : Url.IsBase c.base) (s : Server) (t : Trace) :
    ∃ health reply check, (c.ping s t).2.exchanges = t.exchanges ++ (health, reply) :: check ∧
      health.url.target = c.root ++ "/health".toList ∧
      (reply.Passes → c.Asks check "/api/v2/buckets"
        [("orgID", c.organization), ("limit", "1")]) ∧
      (¬ reply.Passes → check = []) := by
  obtain ⟨health, hr, htarget⟩ := hc.exists_health hbase
  obtain ⟨check, hmade, hpass, hfail⟩ := exchanges_ping c s t
  rw [hr] at hmade hpass hfail
  simp only [Server.exchanged, List.mem_singleton, exists_eq_left, forall_eq] at hpass hfail
  refine ⟨health, s.next t.exchanges health, check, hmade, htarget, fun hpasses => ?_, hfail⟩
  obtain ⟨before, rfl⟩ := hpass hpasses
  exact hc.asks_credentials hbase s before

/-- Slashes behind an engine's host make no difference, and each request of its client, taken apart
and decoded, gives the path of the operation and exactly its parameters, with the organization and
the bucket as they are. In front of the path stands what path the base has of its own, which is none
for a scheme and a host alone. -/
structure TargetsReadBack (e : Engine) (c : Client) : Prop where
  noSlash : c.base.toList.getLast? ≠ some '/'
  slashes : ∀ n, ofEngine { e with host := e.host ++ String.ofList (List.replicate n '/') } = c
  root : Url.IsBare c.base → c.root = []
  write : ∀ s t bucket points, points ≠ [] → ∃ made,
    (c.write s bucket points t).2.exchanges = t.exchanges ++ made ∧
      c.Asks made "/api/v2/write"
        [("orgID", e.organization), ("bucket", bucket), ("precision", "ns")]
  queryText : ∀ s t bucket query, ∃ made,
    (c.queryText s bucket query t).2.exchanges = t.exchanges ++ made ∧
      c.Asks made "/api/v2/query" [("orgID", e.organization)]
  find : ∀ s t name, ∃ made, (c.find s name t).2.exchanges = t.exchanges ++ made ∧
    c.Asks made "/api/v2/buckets" [("orgID", e.organization), ("name", name)]
  page : ∀ s t offset, ∃ made, (c.page s offset t).2.exchanges = t.exchanges ++ made ∧
    c.Asks made "/api/v2/buckets"
      [("orgID", e.organization), ("limit", "100"), ("offset", offset.repr)]
  list : ∀ s t, ∃ made, (c.list s t).2.exchanges = t.exchanges ++ made ∧
    (isHeaderText c.token = true → made ≠ []) ∧
    ∀ asked ∈ made, ∃ offset : Nat, asked.1.Reads (c.root ++ "/api/v2/buckets".toList)
      [("orgID", e.organization), ("limit", "100"), ("offset", offset.repr)]
  ping : ∀ s t, ∃ health reply check,
    (c.ping s t).2.exchanges = t.exchanges ++ (health, reply) :: check ∧
      health.url.target = c.root ++ "/health".toList ∧
      (reply.Passes → c.Asks check "/api/v2/buckets"
        [("orgID", e.organization), ("limit", "1")]) ∧
      (¬ reply.Passes → check = [])

/-- **Reading targets back.** The targets of an engine's client read back if its base names a host
and has neither a query nor a fragment. -/
theorem targets_read_back (e : Engine) (hbase : Url.IsBase (ofEngine e).base)
    (hc : (ofEngine e).Hosted) : TargetsReadBack e (ofEngine e) where
  noSlash := getLast?_dropSlashes e.host
  slashes n := by
    rw [ofEngine, dropSlashes_append]
    rfl
  root := hc.root_eq_nil hbase
  write s t bucket points hne :=
    ⟨_, exchanges_write _ s bucket hne t, hc.asks_write hbase bucket points s _⟩
  queryText s t bucket query :=
    ⟨_, exchanges_queryText _ s bucket query t, hc.asks_query hbase query s _⟩
  find s t name := ⟨_, exchanges_find _ s name t, hc.asks_find hbase name s _⟩
  page s t offset := ⟨_, exchanges_page _ s offset t, hc.asks_page hbase offset s _⟩
  list s t := hc.list_reads hbase s t
  ping s t := hc.ping_reads hbase s t

/-- An engine whose organization has every character that means something in a target. -/
def injectingEngine : Engine :=
  .bind "http://localhost:8086//" "token" "a&bucket=b#c?d%26+ e\nü"

theorem hosted_injecting : (ofEngine injectingEngine).Hosted :=
  ⟨⟨"http".toList, some "localhost".toList, some 8086, ['/'], none, none⟩, by decide⟩

theorem targets_read_back_injecting :
    Url.IsBase (ofEngine injectingEngine).base ∧ (ofEngine injectingEngine).Hosted ∧
      Url.IsBare (ofEngine injectingEngine).base ∧
      ∃ r reply, ((ofEngine injectingEngine).write (.ofReplies []) "x&precision=s"
          [⟨"m", .empty, .ofList [("v", .text "1")], none⟩] .empty).2.exchanges = [(r, reply)] ∧
        r.Reads "/api/v2/write".toList [("orgID", injectingEngine.organization),
          ("bucket", "x&precision=s"), ("precision", "ns")] := by
  have hbase : Url.IsBase (ofEngine injectingEngine).base := by decide
  have hbare : Url.IsBare (ofEngine injectingEngine).base :=
    ⟨"http".toList, "localhost:8086".toList, by decide⟩
  have htargets := targets_read_back injectingEngine hbase hosted_injecting
  obtain ⟨made, hmade, hasks⟩ := htargets.write (.ofReplies []) .empty "x&precision=s"
    [⟨"m", .empty, .ofList [("v", .text "1")], none⟩] (List.cons_ne_nil _ _)
  refine ⟨hbase, hosted_injecting, hbare, ?_⟩
  obtain ⟨e, rfl⟩ := List.length_eq_one_iff.1 (Nat.le_antisymm hasks.atMostOne
    (List.length_pos_of_ne_nil (hasks.ne_nil (by decide))))
  have hreads := hasks.reads e (List.mem_singleton_self e)
  rw [htargets.root hbare] at hreads
  exact ⟨e.1, e.2, hmade, hreads⟩

end Client

end TypedSeries.Http
