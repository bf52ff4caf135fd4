import TypedSeries.Http.Client
import TypedSeries.Proofs.Actions
import TypedSeries.Proofs.Redirections

/-!
# Conversations

What can be said of conversations without following them.

1. `Server.ofHops`: a server that gives replies and redirections of a list one after the other,
   whatever it is asked; `Server.ofReplies` gives replies alone.
2. A client can make a request exactly from a target that is an address
   (`Client.request_eq_ok`, `Client.request_eq`).
3. A request that can be made is made once (`Client.send_ok`), nothing else is
   (`Client.exchanges_send`), and steps without one leave the requests as they are
   (`Conversation.exchanges_bind`). If its answer settles the result, the conversation is known
   (`Client.send_bind`).
4. `Conversation.Returns`: a property of every result. It is decided by the last step.
5. `Conversation.Heedless`: what has been logged changes nothing.
-/

namespace TypedSeries.Http

/-! ## Servers and requests -/

/-- A server that gives each reply or redirection of a list once, in order, and is silent after
them. -/
def Server.ofHops (hops : List Hop) : Server :=
  ⟨fun before _ => (hops[before.length]?).getD (.reply .silent), hops.length⟩

/-- A server that gives each reply of a list once, in order, and is silent after them. -/
def Server.ofReplies (replies : List Reply) : Server := .ofHops (replies.map .reply)

theorem Server.hop_ofReplies (replies : List Reply) (before : List Request) (r : Request) :
    (ofReplies replies).hop before r = .reply ((replies[before.length]?).getD .silent) := by
  show ((replies.map Hop.reply)[before.length]?).getD _ = _
  rw [List.getElem?_map]
  cases replies[before.length]? <;> rfl

theorem Server.direct_ofReplies (replies : List Reply) : (ofReplies replies).Direct :=
  fun before r => ⟨_, hop_ofReplies replies before r⟩

/-- Replies of a list come in order, and all of them count. -/
theorem Server.next_ofReplies (replies : List Reply) (before : Exchanges) (r : Request) :
    (ofReplies replies).next before r = (replies[before.length]?).getD .silent := by
  rw [next_of_reply (hop_ofReplies replies _ r), (direct_ofReplies replies).wire_eq,
    List.length_map]
  refine ite_eq_right_iff.2 fun ⟨hanswer, hspan⟩ => ?_
  have hspan : replies.length ≤ before.length := by
    refine Nat.le_trans ?_ (Nat.le_trans hspan List.countP_le_length)
    exact Nat.le_of_eq (List.length_map Hop.reply).symm
  rw [List.getElem?_eq_none hspan] at hanswer
  cases hanswer

/-- What is exchanged for a request, if it can be made, after the exchanges before. -/
def Server.exchanged (s : Server) (before : Exchanges) : Except RequestFault Request → Exchanges
  | .ok r => [(r, s.next before r)]
  | .error _ => []

/-- A request that can be made has the parts it was put together from. -/
theorem Client.request_eq_ok {c : Client} {m : Method} {target : String}
    {headers : List (String × String)} {body : String} {r : Request}
    (h : c.request m target headers body = .ok r) :
    ∃ u, Url.parse (c.base ++ target) = .ok u ∧ u.host ≠ none ∧
      r = ⟨m, u, headers ++ [userAgent], body⟩ := by
  unfold request at h
  split at h
  next => cases h
  next u hu =>
    split_ifs at h with hhost
    exact ⟨u, hu, fun hnone => hhost (hnone ▸ rfl), (Except.ok.inj h).symm⟩

theorem Client.plain_eq_ok {c : Client} {m : Method} {target : String} {r : Request}
    (h : c.plain m target = .ok r) : ∃ u, Url.parse (c.base ++ target) = .ok u ∧
      r = ⟨m, u, [c.authorization, ("accept", "*/*"), userAgent], ""⟩ := by
  unfold plain at h
  obtain ⟨u, hu, -, rfl⟩ := request_eq_ok h
  exact ⟨u, hu, rfl⟩

theorem Client.request_eq {c : Client} {m : Method} {target : String}
    {headers : List (String × String)} {u : Url} (hu : Url.parse (c.base ++ target) = .ok u)
    (hhost : u.host.isNone = false) (hhttp : u.isHttp = true)
    (hheaders : headers.all (fun h => isHeaderText h.2) = true) (body : String) :
    c.request m target headers body = .ok ⟨m, u, headers ++ [userAgent], body⟩ := by
  simp only [request, hu, hhttp, hheaders, hhost]
  rfl

namespace Client

theorem answerTo_ok (s : Server) (r : Request) (t : Trace) :
    answerTo s (.ok r) t = (.ok (answerOf r (s.next t.exchanges r)),
      { t with exchanges := t.exchanges ++ [(r, s.next t.exchanges r)] }) := rfl

/-- A request that can be made is made once, and its reply judged. -/
theorem send_ok (s : Server) (operation : String) (r : Request) (t : Trace) :
    ∃ events, send s operation (.ok r) t = (answerOf r (s.next t.exchanges r),
      ⟨t.exchanges ++ [(r, s.next t.exchanges r)], events⟩) := by
  unfold send
  rw [bind_apply]
  dsimp only [Conversation.log, Trace.note, Trace.noteAll]
  rw [bind_apply, answerTo_ok]
  dsimp only
  cases answerOf r (s.next t.exchanges r) <;> exact ⟨_, rfl⟩

theorem exchanges_send (s : Server) (operation : String) (r : Except RequestFault Request)
    (t : Trace) :
    (send s operation r t).2.exchanges = t.exchanges ++ s.exchanged t.exchanges r := by
  cases r with
  | error f => exact (List.append_nil t.exchanges).symm
  | ok r =>
    obtain ⟨events, hsent⟩ := send_ok s operation r t
    rw [hsent]
    rfl

end Client

/-! ## Answers -/

theorem decodeAnswer_eq_ok_iff {α : Type} {ofSource? : Source → Option α} {status : Nat}
    {body : Body} {x : α} : decodeAnswer ofSource? (status, body) = .ok x ↔
      isSuccess status = true ∧ decodeBody ofSource? body = .ok x := by
  show (accept (status, body)).bind (decodeBody ofSource?) = _ ↔ _
  rw [accept]
  split
  next hstatus => exact (and_iff_right hstatus).symm
  next hstatus => exact ⟨nofun, fun h => (hstatus h.1).elim⟩

/-- Only an answer gives a result. -/
theorem Client.answerOf_bind_eq_ok_iff {α : Type} {r : Request} {reply : Reply}
    {judge : Nat × Body → Except TransportError α} {x : α} :
    (answerOf r reply).bind judge = .ok x ↔
      ∃ status body, reply = .answer status body ∧ judge (status, body) = .ok x := by
  constructor
  · intro h
    cases reply with
    | answer status body => exact ⟨status, body, rfl, h⟩
    | _ => cases h
  · rintro ⟨status, body, rfl, h⟩
    exact h

/-! ## Results -/

namespace Conversation

variable {α β : Type}

/-- Every result of a conversation has a property. -/
def Returns (P : α → Prop) (a : Conversation α) : Prop := ∀ t x, (a t).1 = .ok x → P x

theorem returns_pure {P : α → Prop} {x : α} (h : P x) : Returns P (pure x) := by
  intro t y hy
  cases hy
  exact h

theorem Returns.bind {P : β → Prop} {a : Conversation α} {f : α → Conversation β}
    (hf : ∀ x, Returns P (f x)) : Returns P (a >>= f) := by
  intro t y hy
  rw [bind_apply] at hy
  generalize a t = p at hy
  obtain ⟨e | x, t'⟩ := p
  · cases hy
  · exact hf x t' y hy

/-! ## Steps without requests -/

/-- A conversation that makes no request. -/
def Quiet (a : Conversation α) : Prop := ∀ t, (a t).2.exchanges = t.exchanges

theorem quiet_pure (x : α) : Quiet (pure x) := fun _ => rfl

theorem quiet_log (e : Event) : Quiet (log e) := fun _ => rfl

theorem result_apply (result : Except TransportError α) (t : Trace) :
    (liftM result : Conversation α) t = (result, t) := by
  cases result <;> rfl

theorem quiet_result (result : Except TransportError α) :
    Quiet (liftM result : Conversation α) :=
  fun t => by rw [result_apply]

/-- The requests of a conversation that ends without one. -/
theorem exchanges_bind {f : α → Conversation β} (hf : ∀ x, Quiet (f x)) (a : Conversation α)
    (t : Trace) : ((a >>= f) t).2.exchanges = (a t).2.exchanges := by
  rw [bind_apply]
  obtain ⟨e | x, t'⟩ := a t
  · rfl
  · exact hf x t'

theorem Quiet.bind {a : Conversation α} {f : α → Conversation β} (ha : Quiet a)
    (hf : ∀ x, Quiet (f x)) : Quiet (a >>= f) :=
  fun t => (exchanges_bind hf a t).trans (ha t)

/-- A conversation that makes no request and always has one result. -/
def Settles (a : Conversation α) (result : Except TransportError α) : Prop :=
  ∀ t, ∃ events, a t = (result, ⟨t.exchanges, events⟩)

theorem settles_pure (x : α) : Settles (pure x) (.ok x) := fun t => ⟨t.events, rfl⟩

theorem settles_result (result : Except TransportError α) :
    Settles (liftM result : Conversation α) result :=
  fun t => ⟨t.events, result_apply result t⟩

theorem settles_log_bind (e : Event) {f : Unit → Conversation α}
    {result : Except TransportError α} (hf : Settles (f ()) result) :
    Settles (log e >>= f) result :=
  fun t => hf (t.note e)

theorem settles_result_bind (result : Except TransportError α) {f : α → Conversation β}
    {g : α → Except TransportError β} (hf : ∀ x, Settles (f x) (g x)) :
    Settles ((liftM result : Conversation α) >>= f) (result.bind g) := by
  intro t
  rw [bind_apply, result_apply]
  cases result with
  | error e => exact ⟨t.events, rfl⟩
  | ok x => exact hf x t

end Conversation

/-- A conversation of one request, whose answer settles the rest. -/
theorem Client.send_bind {α : Type} {f : Nat × Body → Conversation α}
    {judge : Nat × Body → Except TransportError α}
    (hf : ∀ answer, (f answer).Settles (judge answer)) (s : Server) (operation : String)
    (r : Request) (t : Trace) :
    ∃ events, (send s operation (.ok r) >>= f) t =
      ((answerOf r (s.next t.exchanges r)).bind judge,
        ⟨t.exchanges ++ [(r, s.next t.exchanges r)], events⟩) := by
  obtain ⟨events, hsent⟩ := send_ok s operation r t
  rw [bind_apply, hsent]
  cases answerOf r (s.next t.exchanges r) with
  | error e => exact ⟨events, rfl⟩
  | ok answer => exact hf answer _

/-! ## What has been logged -/

/-- A conversation goes by the exchanges before it, whatever has been logged. -/
def Conversation.Heedless {α : Type} (a : Conversation α) : Prop :=
  Respects (fun t t' => t.exchanges = t'.exchanges) a a

theorem Conversation.heedless_log (e : Event) : Heedless (log e) := fun _ _ ht => ⟨rfl, ht⟩

theorem Conversation.heedless_exchange (s : Server) (r : Request) : Heedless (exchange s r) := by
  intro t t' ht
  have hreply : s.next t.exchanges r = s.next t'.exchanges r := by rw [ht]
  refine ⟨congrArg Except.ok hreply, ?_⟩
  show t.exchanges ++ [(r, s.next t.exchanges r)] = t'.exchanges ++ [(r, s.next t'.exchanges r)]
  rw [hreply, ht]

namespace Client

open Conversation

theorem heedless_send (s : Server) (operation : String) (r : Except RequestFault Request) :
    Heedless (send s operation r) := by
  have hanswer : Heedless (answerTo s r) := by
    cases r with
    | error f => exact respects_pure _
    | ok r => exact (heedless_exchange s r).bind fun _ => respects_pure _
  refine (heedless_log _).bind fun _ => hanswer.bind fun result => ?_
  cases result with
  | ok answer => exact respects_pure answer
  | error e => exact (heedless_log _).bind fun _ => respects_throw e

theorem heedless_entriesFrom (c : Client) (s : Server) (pages offset : Nat) :
    Heedless (c.entriesFrom s pages offset) := by
  induction pages generalizing offset with
  | zero => exact respects_throw _
  | succ pages ih =>
    unfold entriesFrom
    refine ((heedless_send s _ _).bind fun answer => respects_result _).bind fun entries => ?_
    split
    · exact respects_pure entries
    · exact (ih _).bind fun more => respects_pure _

theorem heedless_list (c : Client) (s : Server) : Heedless (c.list s) :=
  (heedless_entriesFrom c s _ _).bind fun _ => respects_pure _

theorem heedless_create (c : Client) (s : Server) (name : String) (schema : Schema) :
    Heedless (c.create s name schema) := by
  refine (heedless_send s _ _).bind fun answer => ?_
  split
  · exact (heedless_log _).bind fun _ => respects_pure ()
  · exact (respects_result _).bind fun _ => (heedless_log _).bind fun _ => respects_pure ()

end Client

end TypedSeries.Http
