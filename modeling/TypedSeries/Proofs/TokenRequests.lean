import TypedSeries.Proofs.Conversations
import TypedSeries.Proofs.HealthAddress

/-!
# Requests of two tokens

Two clients of one server that differ in their tokens, run side by side.

1. `Request.hideToken` leaves out the value of an authorization. A server that replies the same to
   requests that are the same without it is `Server.Blind`.
2. Conversations are `Conversation.Alike` if from traces that agree without tokens they give one
   result and traces that agree again, in which no request for the health of the server bears an
   authorization.
3. A token only goes into the authorization of a request (`Client.request_hideToken`), so each
   operation of a client is alike for both.
-/

namespace TypedSeries.Http

/-! ## Tokens left out -/

/-- A header, without its value if it is an authorization. -/
def hideAuthorization (h : String × String) : String × String :=
  if h.1 = "authorization" then (h.1, "") else h

/-- A request without the value of its authorization. -/
def Request.hideToken (r : Request) : Request :=
  { r with headers := r.headers.map hideAuthorization }

/-- A server that does not look at authorizations. -/
def Server.Blind (s : Server) : Prop :=
  ∀ before r, s.hop before r = s.hop (before.map Request.hideToken) r.hideToken

namespace Request

theorem fst_hideAuthorization (h : String × String) : (hideAuthorization h).1 = h.1 := by
  unfold hideAuthorization
  split <;> rfl

theorem hideToken_without (r : Request) (names : List String) :
    (r.without names).hideToken = r.hideToken.without names := by
  unfold hideToken without
  dsimp only
  rw [List.filter_map]
  simp only [Function.comp_def, fst_hideAuthorization]

theorem hideToken_referred (r : Request) (previous : Url) :
    (r.referred previous).hideToken = r.hideToken.referred previous := by
  have hurl : r.hideToken.url = r.url := rfl
  unfold referred
  rw [hurl]
  split
  · rfl
  · rw [← hideToken_without]
    unfold hideToken
    dsimp only
    rw [List.map_append]
    rfl

theorem hideToken_moved (r : Request) (kind : Redirection) (place : Url) :
    (r.moved kind place).hideToken = r.hideToken.moved kind place := by
  unfold moved
  split
  · rfl
  · rw [← hideToken_without]
    rfl

/-- A redirection does with a request what it does with it without its token. -/
theorem hideToken_redirected (r : Request) (kind : Redirection) (place : Url) :
    (r.redirected kind place).hideToken = r.hideToken.redirected kind place := by
  have hurl : r.hideToken.url = r.url := rfl
  unfold redirected
  dsimp only
  rw [← hideToken_moved, hurl, ← hideToken_referred, ← hideToken_without]
  split <;> rfl

end Request

/-! ## Traces side by side -/

/-- A request to the health address below a base does not say who asks. -/
def Request.HealthOpen (base : String) (r : Request) : Prop :=
  r.method = .get → Url.parse (base ++ "/health") = .ok r.url → r.Unsigned

/-- No request to the health address below a base says who asks, and none that it is redirected to
does. -/
def Server.HealthOpen (s : Server) (base : String) (requests : List Request) : Prop :=
  ∀ before r after, requests = before ++ r :: after → r.method = .get →
    Url.parse (base ++ "/health") = .ok r.url →
      ∀ e ∈ (s.follow maxRedirects (s.wire before) r).1, e.1.Unsigned

def Exchanges.hideTokens (es : Exchanges) : Exchanges := es.map fun e => (e.1.hideToken, e.2)

def Wire.hideTokens (w : Wire) : Wire := w.map fun e => (e.1.hideToken, e.2)

/-- Traces of the same requests but for tokens, with the same replies and events, and without an
authorization for the health address below a base. -/
structure Trace.Alike (base : String) (t t' : Trace) : Prop where
  exchanges : t.exchanges.hideTokens = t'.exchanges.hideTokens
  events : t.events = t'.events
  healthOpen : ∀ e ∈ t.exchanges, e.1.HealthOpen base

theorem Exchanges.requests_eq {es es' : Exchanges} (h : es.hideTokens = es'.hideTokens) :
    (es.map Prod.fst).map Request.hideToken = (es'.map Prod.fst).map Request.hideToken := by
  have hrequests := congrArg (List.map Prod.fst) h
  simpa only [Exchanges.hideTokens, List.map_map, Function.comp_def] using hrequests

theorem Trace.Alike.noteAll {base : String} {t t' : Trace} (h : t.Alike base t')
    (es : List Event) : (t.noteAll es).Alike base (t'.noteAll es) :=
  ⟨h.exchanges, congrArg (· ++ es) h.events, h.healthOpen⟩

namespace Server.Blind

variable {s : Server} (hs : s.Blind)

include hs

theorem hop_eq {sent sent' : Wire} {r r' : Request} (hsent : sent.hideTokens = sent'.hideTokens)
    (hr : r.hideToken = r'.hideToken) :
    s.hop (sent.map Prod.fst) r = s.hop (sent'.map Prod.fst) r' := by
  have hbefore : (sent.map Prod.fst).map Request.hideToken =
      (sent'.map Prod.fst).map Request.hideToken := by
    have h := congrArg (List.map Prod.fst) hsent
    simpa only [Wire.hideTokens, List.map_map, Function.comp_def] using h
  rw [hs, hs (sent'.map Prod.fst), hbefore, hr]

/-- Requests that are the same but for tokens take the same turns but for tokens. -/
theorem follow_eq (left : Nat) {sent sent' : Wire} {r r' : Request}
    (hsent : sent.hideTokens = sent'.hideTokens) (hr : r.hideToken = r'.hideToken) :
    (s.follow left sent r).1.hideTokens = (s.follow left sent' r').1.hideTokens ∧
      (s.follow left sent r).2 = (s.follow left sent' r').2 := by
  have hone : ∀ hop : Hop, Wire.hideTokens [(r, hop)] = Wire.hideTokens [(r', hop)] := fun hop =>
    congrArg (fun q => [(q, hop)]) hr
  have hhop := hs.hop_eq hsent hr
  induction left generalizing sent sent' r r' with
  | zero =>
    cases h : s.hop (sent.map Prod.fst) r with
    | reply reply =>
      rw [follow_of_reply h, follow_of_reply (hhop ▸ h)]
      exact ⟨hone _, rfl⟩
    | redirect kind place =>
      have hurl : r.hideToken.url = r'.hideToken.url := congrArg Request.url hr
      rw [follow_zero_of_redirect h, follow_zero_of_redirect (hhop ▸ h)]
      exact ⟨hone _, congrArg (Reply.astray · .endless) hurl⟩
  | succ left ih =>
    cases h : s.hop (sent.map Prod.fst) r with
    | reply reply =>
      rw [follow_of_reply h, follow_of_reply (hhop ▸ h)]
      exact ⟨hone _, rfl⟩
    | redirect kind place =>
      have hsent' : Wire.hideTokens (sent ++ [(r, .redirect kind place)]) =
          Wire.hideTokens (sent' ++ [(r', .redirect kind place)]) := by
        unfold Wire.hideTokens at hsent ⊢
        rw [List.map_append, List.map_append, hsent]
        exact congrArg _ (hone _)
      have hmoved : (r.redirected kind place).hideToken = (r'.redirected kind place).hideToken := by
        rw [Request.hideToken_redirected, Request.hideToken_redirected, hr]
      obtain ⟨honward, hreply⟩ := ih hsent' hmoved (fun _ => congrArg (fun q => [(q, _)]) hmoved)
        (hs.hop_eq hsent' hmoved)
      rw [follow_of_redirect h, follow_of_redirect (hhop ▸ h)]
      refine ⟨?_, congrArg (Reply.elsewhere place) hreply⟩
      show (r.hideToken, _) :: Wire.hideTokens _ = (r'.hideToken, _) :: Wire.hideTokens _
      rw [hr, honward]

/-- **The wire** after requests that are the same but for tokens is the same but for tokens. -/
theorem wire_eq {requests requests' : List Request}
    (h : requests.map Request.hideToken = requests'.map Request.hideToken) :
    (s.wire requests).hideTokens = (s.wire requests').hideTokens := by
  induction requests using List.reverseRecOn generalizing requests' with
  | nil => rw [List.map_eq_nil_iff.1 h.symm]
  | append_singleton requests r ih =>
    rw [List.map_append] at h
    obtain ⟨first, last, rfl, hfirst, hlast⟩ := List.map_eq_append_iff.1 h.symm
    obtain ⟨r', rfl, hr⟩ := List.map_eq_singleton_iff.1 hlast
    have hsent := ih hfirst.symm
    rw [wire_concat, wire_concat]
    unfold Wire.hideTokens at hsent ⊢
    rw [List.map_append, List.map_append, hsent]
    exact congrArg _ (hs.follow_eq maxRedirects hsent hr.symm).1

theorem next_eq {es es' : Exchanges} {r r' : Request} (hes : es.hideTokens = es'.hideTokens)
    (hr : r.hideToken = r'.hideToken) : s.next es r = s.next es' r' := by
  have hcount : es.countP (·.2.isAnswer) = es'.countP (·.2.isAnswer) := by
    have h := congrArg (List.countP fun e : Request × Reply => e.2.isAnswer) hes
    simpa only [Exchanges.hideTokens, List.countP_map, Function.comp_def] using h
  unfold Server.next
  rw [(hs.follow_eq maxRedirects (hs.wire_eq (Exchanges.requests_eq hes)) hr).2, hcount]

end Server.Blind

/-! ## Conversations side by side -/

namespace Conversation

variable {α : Type} {base : String}

/-- From traces that are alike, one result and traces that are alike. -/
def Alike (base : String) (a a' : Conversation α) : Prop := Respects (Trace.Alike base) a a'

theorem alike_log (e : Event) : Alike base (log e) (log e) := fun _ _ ht => ⟨rfl, ht.noteAll [e]⟩

theorem alike_exchange {s : Server} (hs : s.Blind) {r r' : Request}
    (hr : r.hideToken = r'.hideToken) (hopen : r.HealthOpen base) :
    Alike base (exchange s r) (exchange s r') := by
  intro t t' ht
  have hreply := hs.next_eq ht.exchanges hr
  refine ⟨congrArg Except.ok hreply, ?_, ht.events, fun e he => ?_⟩
  · show Exchanges.hideTokens (t.exchanges ++ _) = Exchanges.hideTokens (t'.exchanges ++ _)
    have hexchanges := ht.exchanges
    unfold Exchanges.hideTokens at hexchanges ⊢
    rw [List.map_append, List.map_append, hexchanges, hreply, List.map_cons, List.map_cons, hr]
  · rcases List.mem_append.1 he with he | he
    · exact ht.healthOpen e he
    · rw [List.mem_singleton.1 he]
      exact hopen

end Conversation

/-! ## Requests side by side -/

/-- Requests that are the same but for tokens, if they can be made, and bear no authorization to
the health address. -/
structure RequestsAlike (base : String) (r r' : Except RequestFault Request) : Prop where
  same : r.map Request.hideToken = r'.map Request.hideToken
  healthOpen : ∀ q, r = .ok q → q.HealthOpen base

namespace Client

/-- The same client with another token. -/
def withToken (c : Client) (token : String) : Client := { c with token }

variable {c : Client} {token : String}

@[simp] theorem withToken_organization : (c.withToken token).organization = c.organization := rfl

@[simp] theorem createBody_withToken (name : String) (schema : Schema) :
    (c.withToken token).createBody name schema = c.createBody name schema := rfl

theorem isHeaderText_authorization (h : isHeaderText c.token = true) :
    isHeaderText c.authorization.2 = true := by
  have hscheme : isHeaderText "Token " = true := by decide
  show ("Token " ++ c.token).toList.all _ = true
  rw [String.toList_append, List.all_append, Bool.and_eq_true]
  exact ⟨hscheme, h⟩

/-- A token goes into no part of a request but its headers. -/
theorem request_hideToken (m : Method) (target body : String)
    {headers headers' : List (String × String)}
    (hvalid : headers.all (fun h => isHeaderText h.2) = headers'.all fun h => isHeaderText h.2)
    (hsame : headers.map hideAuthorization = headers'.map hideAuthorization) :
    (c.request m target headers body).map Request.hideToken =
      ((c.withToken token).request m target headers' body).map Request.hideToken := by
  simp only [request, withToken, hvalid]
  split
  next => rfl
  next u _ =>
    have hheaders : (headers ++ [userAgent]).map hideAuthorization =
        (headers' ++ [userAgent]).map hideAuthorization := by
      rw [List.map_append, List.map_append, hsame]
    split_ifs
    · rfl
    · rfl
    · rfl
    · exact congrArg (fun hs => Except.ok (Request.mk m u hs body)) hheaders

variable (hc : isHeaderText c.token = true) (ht : isHeaderText token = true)

include hc ht in
/-- Requests that bear the tokens. A listing of buckets is not at the health address. -/
theorem authorized_alike {m : Method} {target : String} (body : String)
    (headers : List (String × String))
    (hopen : m = .get → ∀ u, Url.parse (c.base ++ target) = .ok u → u.host ≠ none →
      Url.parse (c.base ++ "/health") ≠ .ok u) :
    RequestsAlike c.base (c.request m target (c.authorization :: headers) body)
      ((c.withToken token).request m target ((c.withToken token).authorization :: headers)
        body) where
  same := by
    refine request_hideToken m target body ?_ rfl
    rw [List.all_cons, List.all_cons, isHeaderText_authorization hc,
      isHeaderText_authorization (c := c.withToken token) ht]
  healthOpen := by
    rintro q hq hget hhealth
    obtain ⟨u, hu, hhost, rfl⟩ := request_eq_ok hq
    exact absurd hhealth (hopen hget u hu hhost)

include hc ht in
theorem plain_listing_alike {parameters : List (String × String)} (hne : parameters ≠ [])
    (h : ∀ name ∈ parameters.map Prod.fst, Url.PlainText name.toList) :
    RequestsAlike c.base (c.plain .get (target "/api/v2/buckets" parameters))
      ((c.withToken token).plain .get (target "/api/v2/buckets" parameters)) := by
  unfold plain
  refine authorized_alike hc ht "" [("accept", "*/*")] fun _ u hu hhost hhealth => ?_
  cases parameters with
  | nil => exact hne rfl
  | cons p ps => exact Url.health_ne c.base (Url.isTarget_listing h) hhealth hhost hu

include hc ht in
theorem post_alike (target body : String) (headers : List (String × String)) :
    RequestsAlike c.base (c.request .post target (c.authorization :: headers) body)
      ((c.withToken token).request .post target ((c.withToken token).authorization :: headers)
        body) :=
  authorized_alike hc ht body headers fun h => nomatch h

include hc ht in
theorem withJson_alike (target accept : String) (body : Json) :
    RequestsAlike c.base (c.withJson .post target accept body)
      ((c.withToken token).withJson .post target accept body) :=
  post_alike hc ht target body.toText _

include hc ht in
theorem plain_delete_alike (target : String) : RequestsAlike c.base (c.plain .delete target)
    ((c.withToken token).plain .delete target) :=
  authorized_alike hc ht "" [("accept", "*/*")] fun h => nomatch h

theorem health_alike : RequestsAlike c.base (c.request .get "/health" [("accept", "*/*")] "")
    ((c.withToken token).request .get "/health" [("accept", "*/*")] "") where
  same := request_hideToken .get "/health" "" rfl rfl
  healthOpen := by
    rintro q hq - -
    obtain ⟨u, -, -, rfl⟩ := request_eq_ok hq
    exact (by decide : ∀ h ∈ [("accept", "*/*"), userAgent], h.1 ≠ "authorization")

/-! ## Operations -/

variable {s : Server} (hs : s.Blind)

/-- What an answer means depends on the address it came from, which shows no token. -/
theorem answerOf_congr {r r' : Request} (h : r.hideToken = r'.hideToken) (reply : Reply) :
    answerOf r reply = answerOf r' reply := by
  have hurl : r.hideToken.url = r'.hideToken.url := congrArg Request.url h
  change r.url = r'.url at hurl
  unfold answerOf
  rw [hurl]

include hs in
theorem answerTo_alike {base : String} {r r' : Except RequestFault Request}
    (h : RequestsAlike base r r') : Conversation.Alike base (answerTo s r) (answerTo s r') := by
  have hsame := h.same
  cases r with
  | error f =>
    cases r' with
    | error f' =>
      obtain rfl : f = f' := Except.error.inj hsame
      exact respects_pure _
    | ok q' => cases hsame
  | ok q =>
    cases r' with
    | error f' => cases hsame
    | ok q' =>
      have hq : q.hideToken = q'.hideToken := Except.ok.inj hsame
      refine (Conversation.alike_exchange hs hq (h.healthOpen q rfl)).bind fun reply => ?_
      rw [answerOf_congr hq]
      exact respects_pure _

include hs in
theorem send_alike {base : String} (operation : String) {r r' : Except RequestFault Request}
    (h : RequestsAlike base r r') :
    Conversation.Alike base (send s operation r) (send s operation r') := by
  refine (Conversation.alike_log _).bind fun _ => (answerTo_alike hs h).bind fun result => ?_
  cases result with
  | ok answer => exact respects_pure answer
  | error e => exact (Conversation.alike_log _).bind fun _ => respects_throw e

include hc ht hs

theorem ping_alike : Conversation.Alike c.base (c.ping s) ((c.withToken token).ping s) := by
  have hcheck : RequestsAlike c.base
      (c.plain .get (target "/api/v2/buckets" [("orgID", c.organization), ("limit", "1")]))
      ((c.withToken token).plain .get
        (target "/api/v2/buckets" [("orgID", c.organization), ("limit", "1")])) :=
    plain_listing_alike hc ht (List.cons_ne_nil _ _)
      (by decide : ∀ name ∈ ["orgID", "limit"], Url.PlainText name.toList)
  unfold ping
  rw [withToken_organization]
  refine (send_alike hs _ health_alike).bind fun answer => ?_
  refine (respects_result _).bind fun body => ?_
  refine (respects_result _).bind fun status => ?_
  split
  · exact (Conversation.alike_log _).bind fun _ => respects_pure false
  · exact (send_alike hs _ hcheck).bind fun answer => (respects_result _).bind fun _ =>
      respects_pure true

theorem write_alike (bucket : String) (points : List Point) :
    Conversation.Alike c.base (c.write s bucket points)
      ((c.withToken token).write s bucket points) := by
  unfold write
  rw [withToken_organization]
  split
  · exact respects_pure true
  · exact (send_alike hs _ (post_alike hc ht _ _ _)).bind fun answer =>
      (respects_result _).bind fun _ => (Conversation.alike_log _).bind fun _ =>
        respects_pure true

theorem queryText_alike (bucket query : String) :
    Conversation.Alike c.base (c.queryText s bucket query)
      ((c.withToken token).queryText s bucket query) := by
  unfold queryText
  rw [withToken_organization]
  refine (Conversation.alike_log _).bind fun _ => ?_
  refine (send_alike hs _ (withJson_alike hc ht _ _ _)).bind fun answer => ?_
  refine (respects_result _).bind fun body => ?_
  refine (respects_result _).bind fun text => ?_
  exact (respects_result _).bind fun rows => respects_pure _

theorem create_alike (name : String) (schema : Schema) :
    Conversation.Alike c.base (c.create s name schema)
      ((c.withToken token).create s name schema) := by
  unfold create
  rw [createBody_withToken]
  refine (send_alike hs _ (withJson_alike hc ht _ _ _)).bind fun answer => ?_
  split
  · exact (Conversation.alike_log _).bind fun _ => respects_pure ()
  · exact (respects_result _).bind fun _ => (Conversation.alike_log _).bind fun _ =>
      respects_pure ()

theorem find_alike (name : String) :
    Conversation.Alike c.base (c.find s name) ((c.withToken token).find s name) := by
  have hfind : RequestsAlike c.base
      (c.plain .get (target "/api/v2/buckets" [("orgID", c.organization), ("name", name)]))
      ((c.withToken token).plain .get
        (target "/api/v2/buckets" [("orgID", c.organization), ("name", name)])) :=
    plain_listing_alike hc ht (List.cons_ne_nil _ _)
      (by decide : ∀ name ∈ ["orgID", "name"], Url.PlainText name.toList)
  unfold find
  rw [withToken_organization]
  refine (send_alike hs _ hfind).bind fun answer => ?_
  split
  · exact respects_pure none
  · exact (respects_result _).bind fun page => respects_pure _

theorem delete_alike (name : String) :
    Conversation.Alike c.base (c.delete s name) ((c.withToken token).delete s name) := by
  unfold delete
  refine (find_alike hc ht hs name).bind fun found => ?_
  cases found with
  | none => exact respects_pure false
  | some entry =>
    refine (send_alike hs _ (plain_delete_alike hc ht _)).bind fun answer => ?_
    split
    · exact respects_pure false
    · exact (respects_result _).bind fun _ => (Conversation.alike_log _).bind fun _ =>
        respects_pure true

theorem page_alike (offset : Nat) :
    Conversation.Alike c.base (c.page s offset) ((c.withToken token).page s offset) := by
  have hpage : RequestsAlike c.base
      (c.plain .get (target "/api/v2/buckets"
        [("orgID", c.organization), ("limit", pageSize.repr), ("offset", offset.repr)]))
      ((c.withToken token).plain .get (target "/api/v2/buckets"
        [("orgID", c.organization), ("limit", pageSize.repr), ("offset", offset.repr)])) :=
    plain_listing_alike hc ht (List.cons_ne_nil _ _)
      (by decide : ∀ name ∈ ["orgID", "limit", "offset"], Url.PlainText name.toList)
  unfold page
  rw [withToken_organization]
  exact (send_alike hs _ hpage).bind fun answer => respects_result _

theorem entriesFrom_alike (pages offset : Nat) : Conversation.Alike c.base
    (c.entriesFrom s pages offset) ((c.withToken token).entriesFrom s pages offset) := by
  induction pages generalizing offset with
  | zero => exact respects_throw _
  | succ pages ih =>
    unfold entriesFrom
    refine (page_alike hc ht hs offset).bind fun entries => ?_
    split
    · exact respects_pure entries
    · exact (ih _).bind fun more => respects_pure _

theorem list_alike : Conversation.Alike c.base (c.list s) ((c.withToken token).list s) := by
  unfold list
  exact (entriesFrom_alike hc ht hs _ _).bind fun entries => respects_pure _

end Client

end TypedSeries.Http
