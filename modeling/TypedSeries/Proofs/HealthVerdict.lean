import TypedSeries.Proofs.BucketDeletion

/-!
# The verdict on a store's health

Whether a store is well is decided by the replies to two requests. The one asks for the health of
the server and does not say who asks; the other lists a bucket of the organization, with the token,
and is made only of a server that is well.

1. What the two replies come to is said by their judges, `healthOf` and `credentialsOf`; a judge
   gives a result exactly for the replies that tell it (`Client.healthOf_eq_ok_iff_tells`,
   `Client.credentialsOf_eq_ok_iff`).
2. A result is lost with the connection exactly if no answer has come, for want of a connection
   or of time, or one with a status that closes the store to the caller, and these are not the same
   for both (`Client.isLost_healthOf_iff`, `Client.isLost_credentialsOf_iff`).

**Main.** `Store.healthy_verdict`.
-/

namespace TypedSeries

namespace Http

namespace Reply

/-- A reply by which a server tells its status: a success whose JSON has it. -/
def Tells (reply : Reply) (status : String) : Prop :=
  ∃ code text document, reply = .answer code (.whole text) ∧ isSuccess code = true ∧
    Source.parse (dropMark text) = some document ∧
    document.slots ["status"] = some [some (.text (some status))]

/-- A reply that tells of no connection, at the request's own address or at one to which it has been
redirected. -/
def Refuses (reply : Reply) : Prop :=
  ∃ cause, reply = .refused cause ∨ ∃ place, reply = .astray place (.refused cause)

/-- A reply by which the store is not there for the caller: there is no connection, no answer in
time, or an answer with one of the statuses that say so. -/
def Shuts (reply : Reply) (closing : Nat → Prop) : Prop :=
  reply = .silent ∨ reply.Refuses ∨ ∃ status, reply.status? = some status ∧ closing status

/-- A success whose body is still awaited when time runs out. -/
def Stalls (reply : Reply) : Prop :=
  ∃ status, reply = .answer status .stalled ∧ isSuccess status = true

variable {status : Nat} {body : Body} {closing : Nat → Prop}

theorem shuts_answer_iff : (answer status body).Shuts closing ↔ closing status := by
  simp [Shuts, Refuses, status?]

theorem stalls_answer_iff :
    (answer status body).Stalls ↔ body = .stalled ∧ isSuccess status = true := by
  constructor
  · rintro ⟨_, h, hstatus⟩
    cases h
    exact ⟨rfl, hstatus⟩
  · rintro ⟨rfl, hstatus⟩
    exact ⟨status, rfl, hstatus⟩

end Reply

/-- The statuses that close a store whose health is asked for. -/
def ClosesHealth (status : Nat) : Prop := status = 401 ∨ status = 403 ∨ 500 ≤ status

/-- The statuses that close a store to an organization or a token. -/
def ClosesCredentials (status : Nat) : Prop := status ∈ [400, 401, 403, 404]

theorem not_closesHealth {status : Nat} (h : isSuccess status = true) : ¬ ClosesHealth status := by
  simp only [isSuccess, Bool.and_eq_true, decide_eq_true_eq] at h
  unfold ClosesHealth
  omega

theorem not_closesCredentials {status : Nat} (h : isSuccess status = true) :
    ¬ ClosesCredentials status := by
  intro hmem
  simp only [isSuccess, Bool.and_eq_true, decide_eq_true_eq] at h
  simp only [ClosesCredentials, List.mem_cons, List.not_mem_nil, or_false] at hmem
  omega

theorem healthOfSource?_eq_some_iff {document : Source} {status : String} :
    healthOfSource? document = some status ↔
      document.slots ["status"] = some [some (.text (some status))] := by
  unfold healthOfSource?
  split
  next source hslots =>
    rw [hslots]
    cases source <;> simp [Source.text?]
  next hother => exact iff_of_false nofun fun h => hother _ h

theorem decodeBody_whole {α : Type} {ofSource? : Source → Option α} (text : String) :
    decodeBody ofSource? (.whole text) =
      match (Source.parse (dropMark text)).bind ofSource? with
      | some x => .ok x
      | none => .error (.decode .notAsExpected) := rfl

theorem decodeBody_eq_ok_iff {α : Type} {ofSource? : Source → Option α} {body : Body} {x : α} :
    decodeBody ofSource? body = .ok x ↔ ∃ text document, body = .whole text ∧
      Source.parse (dropMark text) = some document ∧ ofSource? document = some x := by
  cases body with
  | whole text =>
    simp only [decodeBody_whole, Body.whole.injEq, exists_and_left, exists_eq_left',
      ← Option.bind_eq_some_iff]
    cases (Source.parse (dropMark text)).bind ofSource? <;> simp
  | broken => exact iff_of_false nofun (by simp)
  | stalled => exact iff_of_false nofun (by simp)

/-- A result that is missing because the store is not there for the caller. -/
def IsLost {α : Type} (result : Except TransportError α) : Prop :=
  ∃ e, result = .error e ∧ e.isConnection = true

section IsLost

variable {α : Type} {e : TransportError}

@[simp] theorem not_isLost_ok (a : α) : ¬ IsLost (.ok a) := nofun

@[simp] theorem isLost_error :
    IsLost (.error e : Except TransportError α) ↔ e.isConnection = true :=
  ⟨fun ⟨_, h, he⟩ => Except.error.inj h ▸ he, fun he => ⟨e, rfl, he⟩⟩

/-- Reading a body loses a result only where time runs out. -/
theorem isLost_decodeBody {ofSource? : Source → Option α} {body : Body} :
    IsLost (decodeBody ofSource? body) ↔ body = .stalled := by
  cases body with
  | whole text =>
    rw [decodeBody_whole]
    split <;> simp [TransportError.isConnection]
  | broken => exact iff_of_false (fun ⟨_, h, he⟩ => by cases h; cases he) nofun
  | stalled => exact iff_of_true ⟨_, rfl, rfl⟩ rfl

end IsLost

namespace Client

variable {c : Client} {r : Request} {reply : Reply} {s : Server} {e : TransportError}

open Conversation

/-- Without an answer it is the lack of a connection or of time that shuts a store, whoever would
have judged the answer. -/
theorem isLost_or_answer {α : Type} (judge : Nat × Body → Except TransportError α) (r : Request)
    (reply : Reply) (closing : Nat → Prop) :
    ((IsLost ((answerOf r reply).bind judge) ↔ reply.Shuts closing) ∧ ¬ reply.Stalls) ∨
      ∃ status body, reply = .answer status body := by
  cases reply with
  | answer status body => exact .inr ⟨status, body, rfl⟩
  | astray place loss =>
    cases loss <;> simp [answerOf, lossError, noConnection, noAnswer, Except.bind,
      TransportError.isConnection, Reply.Shuts, Reply.Refuses, Reply.Stalls, Reply.status?]
  | _ =>
    simp [answerOf, noConnection, noAnswer, Except.bind, TransportError.isConnection, Reply.Shuts,
      Reply.Refuses, Reply.Stalls, Reply.status?]

/-! ## The judge of the health request -/

theorem healthOf_answer (r : Request) (status : Nat) (body : Body) :
    healthOf r (.answer status body) =
      if isSuccess status then decodeBody healthOfSource? body
      else .error (healthError (refusal status body)) := by
  show ((accept (status, body)).mapError healthError).bind _ = _
  rw [accept]
  split <;> rfl

theorem healthOf_eq_ok_iff_tells {status : String} :
    healthOf r reply = .ok status ↔ reply.Tells status := by
  cases reply with
  | answer code body =>
    rw [healthOf_answer]
    simp only [Reply.Tells, Reply.answer.injEq]
    split
    next hcode =>
      simp only [decodeBody_eq_ok_iff, healthOfSource?_eq_some_iff]
      constructor
      · rintro ⟨text, document, rfl, hparse, hslots⟩
        exact ⟨code, text, document, ⟨rfl, rfl⟩, hcode, hparse, hslots⟩
      · rintro ⟨_, text, document, ⟨-, rfl⟩, -, hparse, hslots⟩
        exact ⟨text, document, rfl, hparse, hslots⟩
    next hcode =>
      refine iff_of_false nofun ?_
      rintro ⟨_, _, _, ⟨rfl, -⟩, hsuccess, -⟩
      exact hcode hsuccess
  | _ => exact iff_of_false nofun fun ⟨_, _, _, h, _⟩ => nomatch h

/-- A refusal of the health request tells of the connection if its status closes the store. -/
theorem isConnection_healthError_refusal (status : Nat) (body : Body) :
    (healthError (refusal status body)).isConnection = true ↔ ClosesHealth status := by
  unfold refusal ClosesHealth
  split
  next hstatus => exact iff_of_true rfl (hstatus.imp_right .inl)
  next hstatus =>
    unfold healthError
    dsimp only
    split
    next hlarge => exact iff_of_true rfl (.inr (.inr hlarge))
    next hlarge =>
      refine iff_of_false Bool.false_ne_true fun h => ?_
      exact h.elim (fun h => hstatus (.inl h)) fun h => h.elim (fun h => hstatus (.inr h)) hlarge

theorem isLost_healthOf_iff :
    IsLost (healthOf r reply) ↔ reply.Shuts ClosesHealth ∨ reply.Stalls := by
  rcases isLost_or_answer _ r reply ClosesHealth with ⟨hshuts, hstalls⟩ | ⟨status, body, rfl⟩
  · rw [or_iff_left hstalls]
    exact hshuts
  rw [Reply.shuts_answer_iff, Reply.stalls_answer_iff, healthOf_answer]
  split
  next hstatus =>
    rw [isLost_decodeBody, or_iff_right (not_closesHealth hstatus), and_iff_left hstatus]
  next hstatus =>
    rw [isLost_error, isConnection_healthError_refusal, or_iff_left fun h => hstatus h.2]

/-- A refusal with any other status is an error that has it. -/
theorem healthOf_refused {status : Nat} {body : Body} (hreply : reply = .answer status body)
    (hstatus : isSuccess status = false) (hopen : ¬ ClosesHealth status) :
    healthOf r reply = .error (.api status (refusalText body)) := by
  unfold ClosesHealth at hopen
  rw [hreply, healthOf_answer, hstatus, if_neg Bool.false_ne_true, refusal, if_neg (by omega),
    healthError, if_neg (by omega)]

/-! ## The judge of the credentials -/

/-- What a reply to the check of the credentials says. -/
def credentialsOf (c : Client) (r : Request) (reply : Reply) : Except TransportError Bool :=
  (answerOf r reply).bind fun answer =>
    ((accept answer).mapError c.credentialsError).bind fun _ => .ok true

theorem credentialsOf_answer (c : Client) (r : Request) (status : Nat) (body : Body) :
    c.credentialsOf r (.answer status body) =
      if isSuccess status then .ok true
      else .error (c.credentialsError (refusal status body)) := by
  show ((accept (status, body)).mapError c.credentialsError).bind _ = _
  rw [accept]
  split <;> rfl

theorem credentialsOf_eq_ok_iff {healthy : Bool} :
    c.credentialsOf r reply = .ok healthy ↔ healthy = true ∧ reply.Succeeds := by
  cases reply with
  | answer status body =>
    rw [credentialsOf_answer]
    split
    next hstatus =>
      exact ⟨fun h => ⟨(Except.ok.inj h).symm, status, rfl, hstatus⟩, fun h => h.1 ▸ rfl⟩
    next hstatus =>
      refine iff_of_false nofun ?_
      rintro ⟨-, _, h, hsuccess⟩
      exact hstatus (Option.some.inj h ▸ hsuccess)
  | _ => exact iff_of_false nofun fun ⟨_, _, h, _⟩ => nomatch h

/-- A refusal of the credentials tells of the connection if its status closes the store. -/
theorem isConnection_credentialsError_refusal (c : Client) (status : Nat) (body : Body) :
    (c.credentialsError (refusal status body)).isConnection = true ↔
      ClosesCredentials status := by
  unfold refusal ClosesCredentials
  split
  next hstatus => rcases hstatus with rfl | rfl <;> exact iff_of_true rfl (by decide)
  next hstatus =>
    unfold credentialsError
    dsimp only
    split
    next hlost => rcases hlost with rfl | rfl <;> exact iff_of_true rfl (by decide)
    next hlost =>
      refine iff_of_false Bool.false_ne_true fun h => ?_
      simp only [List.mem_cons, List.not_mem_nil, or_false] at h
      omega

theorem isLost_credentialsOf_iff :
    IsLost (c.credentialsOf r reply) ↔ reply.Shuts ClosesCredentials := by
  rcases isLost_or_answer _ r reply ClosesCredentials with ⟨hshuts, -⟩ | ⟨status, body, rfl⟩
  · exact hshuts
  rw [Reply.shuts_answer_iff, credentialsOf_answer]
  split
  next hstatus => exact iff_of_false (not_isLost_ok true) (not_closesCredentials hstatus)
  next => rw [isLost_error, isConnection_credentialsError_refusal]

/-- A refusal with any other status is an error that has it. -/
theorem credentialsOf_refused {status : Nat} {body : Body} (hreply : reply = .answer status body)
    (hstatus : isSuccess status = false) (hopen : ¬ ClosesCredentials status) :
    c.credentialsOf r reply = .error (.api status (refusalText body)) := by
  simp only [ClosesCredentials, List.mem_cons, List.not_mem_nil, or_false] at hopen
  rw [hreply, credentialsOf_answer, hstatus, if_neg Bool.false_ne_true, refusal, if_neg (by omega),
    credentialsError, if_neg (by omega)]

/-! ## The two requests -/

/-- The request for the health of a server can be made, and does not say who asks. -/
theorem Usable.exists_healthRequest (hc : c.Usable) :
    ∃ r, c.healthRequest = .ok r ∧ r.method = .get ∧ r.Unsigned := by
  have htarget : Url.IsTarget "/health".toList := ⟨⟨_, rfl⟩, by decide⟩
  have hheaders : [("accept", "*/*")].all (fun h => isHeaderText h.2) = true := by decide
  obtain ⟨u, -, hr⟩ := hc.hosted.exists_request htarget .get hheaders ""
  rw [String.ofList_toList] at hr
  have hunsigned : ∀ h ∈ [("accept", "*/*"), userAgent], h.1 ≠ "authorization" := by decide
  exact ⟨_, hr, rfl, hunsigned⟩

theorem Hosted.target_of_healthRequest (hc : c.Hosted) (hbase : Url.IsBase c.base)
    (hr : c.healthRequest = .ok r) : r.url.target = c.root ++ "/health".toList := by
  obtain ⟨r', hr', htarget⟩ := hc.exists_health hbase
  obtain rfl := Except.ok.inj (hr.symm.trans hr')
  exact htarget

/-- The request that tries organization and token can be made. -/
theorem Usable.exists_credentialsRequest (hc : c.Usable) :
    ∃ r, c.credentialsRequest = .ok r ∧ r.method = .get ∧ c.authorization ∈ r.headers := by
  have hmade : ∃ r, c.credentialsRequest = .ok r := hc.exists_bucketsRequest
    (List.cons_ne_nil _ _) (encode_names ["orgID", "limit"] rfl (by decide))
  obtain ⟨r, hr⟩ := hmade
  obtain ⟨u, -, rfl⟩ := plain_eq_ok hr
  exact ⟨_, hr, rfl, List.mem_cons_self⟩

theorem checkCredentials_ok (hr : c.credentialsRequest = .ok r) (s : Server) (t : Trace) :
    ∃ events, c.checkCredentials s t = (c.credentialsOf r (s.next t.exchanges r),
      ⟨t.exchanges ++ [(r, s.next t.exchanges r)], events⟩) := by
  unfold checkCredentials
  rw [hr]
  exact send_bind (fun answer => settles_result_bind _ fun _ => settles_pure true) s "check_org" r t

/-! ## Both replies -/

section Verdict

variable {health check : Request} {first second : Reply} {healthy : Bool}

/-- What the replies to the two requests come to. -/
def verdictOf (c : Client) (health check : Request) (first second : Reply) :
    Except TransportError Bool :=
  match healthOf health first with
  | .error e => .error e
  | .ok status => if status ≠ "pass" then .ok false else c.credentialsOf check second

theorem verdictOf_eq_ok_iff : c.verdictOf health check first second = .ok healthy ↔
    (healthy = true ∧ first.Tells "pass" ∧ second.Succeeds) ∨
      (healthy = false ∧ ∃ status, status ≠ "pass" ∧ first.Tells status) := by
  simp only [← healthOf_eq_ok_iff_tells (r := health), verdictOf]
  cases healthOf health first with
  | error e => simp
  | ok status =>
    simp only [Except.ok.injEq, exists_eq_right']
    split
    next hstatus => simp [hstatus, eq_comm]
    next hstatus => simp [credentialsOf_eq_ok_iff, not_not.1 hstatus]

theorem verdictOf_eq_error_iff : c.verdictOf health check first second = .error e ↔
    healthOf health first = .error e ∨
      (first.Tells "pass" ∧ c.credentialsOf check second = .error e) := by
  simp only [← healthOf_eq_ok_iff_tells (r := health), verdictOf]
  cases healthOf health first with
  | error e => simp
  | ok status =>
    simp only [Except.ok.injEq]
    split
    next hstatus => simp [hstatus]
    next hstatus => simp [not_not.1 hstatus]

/-- The replies for which the verdict is that the store is not there for the caller. -/
theorem isLost_verdictOf_iff :
    IsLost (c.verdictOf health check first second) ↔
      first.Shuts ClosesHealth ∨ first.Stalls ∨
        (first.Tells "pass" ∧ second.Shuts ClosesCredentials) := by
  rw [← or_assoc, ← isLost_healthOf_iff (r := health),
    ← isLost_credentialsOf_iff (c := c) (r := check)]
  simp only [IsLost, verdictOf_eq_error_iff, or_and_right, exists_or, and_assoc, exists_and_left]

/-- The health request is made, and the other behind a pass. -/
theorem ping_eq (hhealth : c.healthRequest = .ok health) (hcheck : c.credentialsRequest = .ok check)
    (s : Server) (t : Trace) :
    let first := s.next t.exchanges health
    let second := s.next (t.exchanges ++ [(health, first)]) check
    ∃ asked events, c.ping s t = (c.verdictOf health check first second,
        ⟨t.exchanges ++ (health, first) :: asked, events⟩) ∧
      (first.Tells "pass" → asked = [(check, second)]) ∧ (¬ first.Tells "pass" → asked = []) := by
  dsimp only
  simp only [← healthOf_eq_ok_iff_tells (r := health)]
  obtain ⟨events, hping⟩ := ping_ok hhealth s t
  rw [hping, verdictOf]
  cases healthOf health (s.next t.exchanges health) with
  | error e => exact ⟨[], events, rfl, nofun, fun _ => rfl⟩
  | ok status =>
    dsimp only
    split
    next hstatus =>
      exact ⟨[], events, rfl, fun h => absurd (Except.ok.inj h) hstatus, fun _ => rfl⟩
    next hstatus =>
      obtain ⟨events', hchecked⟩ := checkCredentials_ok hcheck s
        ⟨t.exchanges ++ [(health, s.next t.exchanges health)], events⟩
      rw [hchecked, List.append_assoc, not_not.1 hstatus]
      exact ⟨_, events', rfl, fun _ => rfl, fun h => absurd rfl h⟩

end Verdict

end Client

end Http

theorem StoreError.exists_ofTransport_eq_connection_iff {e : TransportError} :
    (∃ reason, ofTransport e = .connection reason) ↔ e.isConnection = true := by
  constructor
  · rintro ⟨reason, h⟩
    unfold ofTransport at h
    split at h
    next hlost => exact hlost
    next => split at h <;> cases h
  · intro h
    exact ⟨e.message, if_pos h⟩

namespace Store

open Http

variable {α : Type} {result : Except TransportError α}

/-- A store gives the verdict of its client. -/
theorem healthy_http (engine : Engine) (registry : Registry) (c : Client) (server : Server)
    (trace : Trace) : ∃ events,
    healthy ⟨engine, .http c server trace, registry⟩ =
      ((c.ping server trace).1.mapError .ofTransport, ⟨engine,
        .http c server ⟨(c.ping server trace).2.exchanges, events⟩, registry⟩) := by
  unfold healthy
  rw [bind_apply, onTransport_apply, Transport.ping, Transport.operate_http]
  rcases c.ping server trace with ⟨e | verdict, after⟩
  · exact ⟨after.events, rfl⟩
  · exact ⟨_, rfl⟩

theorem mapError_eq_ok_iff {a : α} :
    result.mapError StoreError.ofTransport = .ok a ↔ result = .ok a := by
  cases result <;> simp [Except.mapError]

theorem mapError_eq_connection_iff :
    (∃ reason, result.mapError StoreError.ofTransport = .error (.connection reason)) ↔
      IsLost result := by
  cases result with
  | ok a => exact iff_of_false (fun ⟨_, h⟩ => nomatch h) (not_isLost_ok a)
  | error e => simp [Except.mapError, StoreError.exists_ofTransport_eq_connection_iff]

/-- What a verdict on the health of a server is by the replies `first` and `second` to two requests.
The one, for its health, does not say who asks. The other, for a bucket of the organization, is made
if and only if the first tells that the health passes.

The verdict is yes exactly if both are well, and no exactly if the health is told as anything else.
It is an error of the connection exactly if there is no connection or no answer in time, if the
server is closed to the caller by the status of either reply, or if time runs out amid the reply on
its health. A refusal with any other status is an error that has the status. -/
structure Verdict (c : Client) (server : Server) (before : Trace) (health check : Request)
    (first second : Reply) (asked : Exchanges) (verdict : Except StoreError Bool) : Prop where
  health_get : health.method = .get
  health_unsigned : health.Unsigned
  health_target : Url.IsBase c.base → health.url.target = c.root ++ "/health".toList
  first_eq : first = server.next before.exchanges health
  check_get : check.method = .get
  check_signed : c.authorization ∈ check.headers
  check_reads : Url.IsBase c.base → check.Reads (c.root ++ "/api/v2/buckets".toList)
    [("orgID", c.organization), ("limit", "1")]
  second_eq : second = server.next (before.exchanges ++ [(health, first)]) check
  asked_of_pass : first.Tells "pass" → asked = [(check, second)]
  asked_of_not_pass : ¬ first.Tells "pass" → asked = []
  direct : server.Direct → (server.wire (before.requests ++ health :: asked.map Prod.fst)).map
    Prod.fst = before.requests ++ health :: asked.map Prod.fst
  eq_true_iff : verdict = .ok true ↔ first.Tells "pass" ∧ second.Succeeds
  eq_false_iff : verdict = .ok false ↔ ∃ status, status ≠ "pass" ∧ first.Tells status
  connection_iff : (∃ reason, verdict = .error (.connection reason)) ↔
    first.Shuts ClosesHealth ∨ first.Stalls ∨ (first.Tells "pass" ∧ second.Shuts ClosesCredentials)
  first_refused : ∀ status body, first = .answer status body → isSuccess status = false →
    ¬ ClosesHealth status → verdict = .error (.api status (refusalText body))
  second_refused : first.Tells "pass" → ∀ status body, second = .answer status body →
    isSuccess status = false → ¬ ClosesCredentials status →
      verdict = .error (.api status (refusalText body))

/-- **The verdict on a store's health.** A store whose client can make requests gives a verdict by
the replies to one or two of them. -/
theorem healthy_verdict {c : Client} (hc : c.Usable) (engine : Engine) (registry : Registry)
    (server : Server) (trace : Trace) :
    ∃ health check first second asked events,
      let store : Store := ⟨engine, .http c server trace, registry⟩
      (healthy store).2 = ⟨engine,
        .http c server ⟨trace.exchanges ++ (health, first) :: asked, events⟩, registry⟩ ∧
      Verdict c server trace health check first second asked (healthy store).1 := by
  obtain ⟨health, hhealth, hget, hunsigned⟩ := hc.exists_healthRequest
  obtain ⟨check, hcheck, hget', hsigned⟩ := hc.exists_credentialsRequest
  obtain ⟨asked, events, hping, hpass, hrest⟩ := Client.ping_eq hhealth hcheck server trace
  obtain ⟨events', hhealthy⟩ := healthy_http engine registry c server trace
  rw [hping] at hhealthy
  refine ⟨health, check, server.next trace.exchanges health,
    server.next (trace.exchanges ++ [(health, server.next trace.exchanges health)]) check, asked,
    events', congrArg Prod.snd hhealthy, ?_⟩
  rw [hhealthy]
  exact {
    health_get := hget
    health_unsigned := hunsigned
    health_target := fun hbase => hc.hosted.target_of_healthRequest hbase hhealth
    first_eq := rfl
    check_get := hget'
    check_signed := hsigned
    check_reads := fun hbase => by
      have hasks := hc.hosted.asks_credentials hbase server trace.exchanges
      rw [hcheck] at hasks
      exact hasks.reads _ (List.mem_singleton_self _)
    second_eq := rfl
    asked_of_pass := hpass
    asked_of_not_pass := hrest
    direct := fun hdirect => hdirect.wire_eq _
    eq_true_iff := by
      rw [mapError_eq_ok_iff, Client.verdictOf_eq_ok_iff]
      simp
    eq_false_iff := by
      rw [mapError_eq_ok_iff, Client.verdictOf_eq_ok_iff]
      simp
    connection_iff := by rw [mapError_eq_connection_iff, Client.isLost_verdictOf_iff]
    first_refused := fun status body hfirst hstatus hopen => by
      rw [Client.verdictOf_eq_error_iff.2 (.inl (Client.healthOf_refused hfirst hstatus hopen))]
      rfl
    second_refused := fun hpassing status body hsecond hstatus hopen => by
      rw [Client.verdictOf_eq_error_iff.2
        (.inr ⟨hpassing, Client.credentialsOf_refused hsecond hstatus hopen⟩)]
      rfl }

/-! ## A server that is well and does not know the organization -/

/-- A server that passes and then answers that it finds nothing. -/
def strangeServer : Server :=
  .ofReplies [.answer 200 (.whole "\x7b\"name\":\"influxdb\",\"status\":\"pass\"\x7d"),
    .answer 404 (.whole "\x7b\"message\":\"organization not found\"\x7d")]

theorem healthy_verdict_strange : (Client.ofEngine knottedEngine).Usable ∧
    ∃ health check events reason,
      let client := Client.ofEngine knottedEngine
      healthy ⟨knottedEngine, .http client strangeServer .empty, .empty⟩ =
        (.error (.connection reason),
          ⟨knottedEngine, .http client strangeServer ⟨[health, check], events⟩, .empty⟩) ∧
      health.1.url.target = "/health".toList ∧
      check.1.Reads "/api/v2/buckets".toList [("orgID", "organization"), ("limit", "1")] := by
  have hbase : Url.IsBase (Client.ofEngine knottedEngine).base := by decide
  have hroot : (Client.ofEngine knottedEngine).root = [] := by decide
  obtain ⟨health, check, first, second, asked, events, hstate, hverdict⟩ :=
    healthy_verdict usable_knotted knottedEngine .empty strangeServer .empty
  obtain rfl := hverdict.first_eq
  obtain rfl := hverdict.second_eq
  have hdecoded : decodeBody healthOfSource?
      (.whole "\x7b\"name\":\"influxdb\",\"status\":\"pass\"\x7d") = .ok "pass" := by
    decide +kernel
  have hpass : (strangeServer.next [] health).Tells "pass" := by
    rw [strangeServer, Server.next_ofReplies]
    exact Client.healthOf_eq_ok_iff_tells.1 ((Client.healthOf_answer health 200 _).trans hdecoded)
  have hcloses : ClosesCredentials 404 := List.mem_of_getLast? rfl
  have hstatus : (strangeServer.next [(health, strangeServer.next [] health)] check).status? =
      some 404 := by
    rw [strangeServer, Server.next_ofReplies]
    rfl
  obtain ⟨reason, herror⟩ := hverdict.connection_iff.2
    (.inr (.inr ⟨hpass, .inr (.inr ⟨404, hstatus, hcloses⟩)⟩))
  have htarget := hverdict.health_target hbase
  have hreads := hverdict.check_reads hbase
  rw [hroot] at htarget hreads
  rw [hverdict.asked_of_pass hpass] at hstate
  exact ⟨usable_knotted, _, _, events, reason, Prod.ext herror hstate, htarget, hreads⟩

end Store

end TypedSeries
