import Mathlib.Data.List.Forall2
import Mathlib.Logic.Relation
import TypedSeries.Proofs.RequestParameters
import TypedSeries.Proofs.SchemaText

/-!
# Pages of buckets

A listing asks for page after page until one is not full.

1. The request for a page asks for as many entries as a page holds, from the offset on
   (`Client.asksFor_of_pageRequest`), and can be made for every offset if for one
   (`Client.exists_pageRequest`).
2. A server that holds a list answers with the pages of the list, so the listing goes through the
   list page by page (`Client.entriesFrom_of_lists`).
3. With any server a listing goes from full page to full page, and fails exactly if a page it comes
   to fails: every page takes an answer that counts, so the pages do not run out
   (`Client.entriesFrom_eq_error_iff`).

**Main.** `Client.list_pages`.
-/

namespace TypedSeries.Http

/-- A request for so many entries of a listing, from an offset on. -/
def Request.AsksFor (r : Request) (limit offset : Nat) : Prop :=
  r.method = .get ∧ ∃ parameters, r.parameters? = some parameters ∧
    parameters.lookup "limit" = some limit.repr ∧ parameters.lookup "offset" = some offset.repr

/-- A server that holds a list of buckets and answers each request for a part of it with that
part. -/
def Server.Lists (s : Server) (buckets : List Entry) : Prop :=
  ∀ before r limit offset, r.AsksFor limit offset → ∃ status body,
    s.hop before r = .reply (.answer status body) ∧ isSuccess status = true ∧
      decodeBody pageOfSource? body = .ok ((buckets.drop offset).take limit)

/-- A reply that gives a page of buckets. -/
def Reply.Gives (reply : Reply) (entries : List Entry) : Prop :=
  ∃ status body, reply = .answer status body ∧ isSuccess status = true ∧
    decodeBody pageOfSource? body = .ok entries

theorem Reply.gives_iff {r : Request} {reply : Reply} {entries : List Entry} :
    (Client.answerOf r reply).bind (decodeAnswer pageOfSource?) = .ok entries ↔
      reply.Gives entries := by
  simp only [Client.answerOf_bind_eq_ok_iff, decodeAnswer_eq_ok_iff, Reply.Gives]

theorem Reply.Gives.eq {reply : Reply} {entries entries' : List Entry} (h : reply.Gives entries)
    (h' : reply.Gives entries') : entries = entries' := by
  obtain ⟨status, body, rfl, -, hbody⟩ := h
  obtain ⟨_, _, heq, -, hbody'⟩ := h'
  cases heq
  exact Except.ok.inj (hbody.symm.trans hbody')

/-- How many of the exchanges of a trace were answered. -/
def Trace.answers (t : Trace) : Nat := t.exchanges.countP (·.2.isAnswer)

namespace Client

variable {c : Client} {s : Server} {t t' : Trace} {r : Request} {buckets : List Entry}
  {offset pages : Nat}

/-! ## One page -/

theorem encode_pageParameters (values : String × String × String) :
    ∀ p ∈ [("orgID", values.1), ("limit", values.2.1), ("offset", values.2.2)],
      Percent.encode p.1 = p.1.toList := by
  simp only [List.mem_cons, List.not_mem_nil, or_false, forall_eq_or_imp, forall_eq]
  decide

theorem asksFor_of_pageRequest (hbase : Url.IsBase c.base) (hr : c.pageRequest offset = .ok r) :
    r.AsksFor pageSize offset := by
  have hparameters := parameters?_of_request hbase ⟨⟨_, rfl⟩, by decide⟩ (by decide)
    (List.cons_ne_nil _ _) (encode_pageParameters (_, _, _)) hr
  obtain ⟨u, -, rfl⟩ := plain_eq_ok hr
  exact ⟨rfl, _, hparameters, rfl, rfl⟩

theorem exists_pageRequest (h : ∃ r, c.pageRequest 0 = .ok r) (offset : Nat) :
    ∃ r, c.pageRequest offset = .ok r := by
  obtain ⟨r, hr⟩ := h
  exact exists_request ⟨⟨_, rfl⟩, by decide⟩ (List.cons_ne_nil _ _)
    (encode_pageParameters (_, _, _)) (List.cons_ne_nil _ _) (encode_pageParameters (_, _, _)) hr

/-- A server that holds a list answers a request that counts with a page of the list. -/
theorem page_of_lists (hs : s.Lists buckets) (hbase : Url.IsBase c.base)
    (hr : c.pageRequest offset = .ok r) (hcount : t.answers < s.span) :
    ∃ t', c.page s offset t = (.ok ((buckets.drop offset).take pageSize), t') ∧
      ∃ reply, t'.exchanges = t.exchanges ++ [(r, reply)] ∧ reply.isAnswer = true := by
  obtain ⟨status, body, hreply, hstatus, hbody⟩ :=
    hs ((s.wire t.requests).map Prod.fst) r _ _ (asksFor_of_pageRequest hbase hr)
  have hnext : s.next t.exchanges r = .answer status body := by
    rw [Server.next_of_reply hreply]
    exact if_neg fun h => Nat.not_le.2 hcount h.2
  obtain ⟨events, hpage⟩ := page_ok hr s t
  rw [hnext, Reply.gives_iff.2 ⟨status, body, rfl, hstatus, hbody⟩] at hpage
  exact ⟨_, hpage, _, rfl, rfl⟩

theorem answers_concat {reply : Reply} (h : t'.exchanges = t.exchanges ++ [(r, reply)])
    (hr : reply.isAnswer = true) : t'.answers = t.answers + 1 := by
  rw [Trace.answers, h, List.countP_append, List.countP_singleton, hr]
  rfl

/-! ## Page after page -/

theorem entriesFrom_succ (c : Client) (s : Server) (pages offset : Nat) (t : Trace) :
    c.entriesFrom s (pages + 1) offset t = match c.page s offset t with
      | (.error e, t) => (.error e, t)
      | (.ok entries, t) =>
        if entries.length < pageSize then (.ok entries, t)
        else match c.entriesFrom s pages (offset + entries.length) t with
          | (.error e, t) => (.error e, t)
          | (.ok more, t) => (.ok (entries ++ more), t) := by
  rw [entriesFrom, bind_apply]
  rcases c.page s offset t with ⟨e | entries, t'⟩
  · rfl
  dsimp only
  split
  · rfl
  · rw [bind_apply]
    rcases c.entriesFrom s pages (offset + entries.length) t' with ⟨e | more, t''⟩ <;> rfl

/-- The full pages of a list, from an offset on. -/
def fullPages (buckets : List Entry) (offset : Nat) : Nat := (buckets.length - offset) / pageSize

/-- The offsets of all its pages: one that is not full comes last. -/
def offsets (buckets : List Entry) (offset : Nat) : List Nat :=
  (List.range (fullPages buckets offset + 1)).map fun i => offset + pageSize * i

theorem fullPages_of_le (h : pageSize ≤ buckets.length - offset) :
    fullPages buckets offset = fullPages buckets (offset + pageSize) + 1 := by
  rw [fullPages, fullPages, Nat.div_eq_sub_div (by decide) h, Nat.sub_sub]

theorem offsets_of_lt (h : buckets.length - offset < pageSize) :
    offsets buckets offset = [offset] := by
  rw [offsets, fullPages, Nat.div_eq_of_lt h]
  rfl

theorem offsets_of_le (h : pageSize ≤ buckets.length - offset) :
    offsets buckets offset = offset :: offsets buckets (offset + pageSize) := by
  rw [offsets, fullPages_of_le h, List.range_succ_eq_map, List.map_cons, List.map_map]
  refine congrArg (offset :: ·) (List.map_congr_left fun i _ => ?_)
  rw [Function.comp_apply, Nat.mul_succ, Nat.add_comm (pageSize * i), Nat.add_assoc]

/-- The listing of a list from an offset on: every page is asked for once, in order. -/
theorem entriesFrom_of_lists (hs : s.Lists buckets) (hbase : Url.IsBase c.base)
    (hfirst : ∃ r, c.pageRequest 0 = .ok r) (hpages : fullPages buckets offset < pages)
    (hcount : t.answers + fullPages buckets offset < s.span) :
    ∃ t', c.entriesFrom s pages offset t = (.ok (buckets.drop offset), t') ∧
      ∃ made, t'.exchanges = t.exchanges ++ made ∧
        List.Forall₂ (fun r o => r.AsksFor pageSize o) (made.map Prod.fst)
          (offsets buckets offset) := by
  induction pages generalizing offset t with
  | zero => exact absurd hpages (Nat.not_lt_zero _)
  | succ pages ih =>
    obtain ⟨r, hr⟩ := exists_pageRequest hfirst offset
    have hasks := asksFor_of_pageRequest hbase hr
    obtain ⟨t₁, hpage, reply, hmade, hanswer⟩ := page_of_lists (t := t) hs hbase hr (by omega)
    have hlength : (buckets.drop offset).length = buckets.length - offset := List.length_drop
    rw [entriesFrom_succ, hpage]
    dsimp only
    -- a page is full as long as a page is left, and what is left then starts after it
    by_cases hlast : buckets.length - offset < pageSize
    · rw [List.take_of_length_le (by omega), if_pos (by omega), offsets_of_lt hlast]
      exact ⟨t₁, rfl, _, hmade, .cons hasks .nil⟩
    · have hle := Nat.not_lt.1 hlast
      have hfull : ((buckets.drop offset).take pageSize).length = pageSize := by
        rw [List.length_take]
        omega
      have hturn := fullPages_of_le hle
      have hanswers := answers_concat hmade hanswer
      have hpages' : fullPages buckets (offset + pageSize) < pages := by omega
      have hcount' : t₁.answers + fullPages buckets (offset + pageSize) < s.span := by omega
      obtain ⟨t₂, hmore, made, hmade₂, hall⟩ := ih (t := t₁) hpages' hcount'
      rw [hfull, if_neg (Nat.lt_irrefl _), hmore, offsets_of_le hle]
      refine ⟨t₂, ?_, (r, reply) :: made, ?_, .cons hasks hall⟩
      · dsimp only
        rw [← List.drop_drop, List.take_append_drop]
      · rw [hmade₂, hmade, List.append_assoc]
        rfl

/-! ## Failures -/

theorem answers_lt_of_next (h : (s.next t.exchanges r).isAnswer = true) : t.answers < s.span := by
  unfold Server.next at h
  dsimp only at h
  split at h
  next => cases h
  next hnot => exact Nat.lt_of_not_le fun hle => hnot ⟨h, hle⟩

theorem page_of_fault {f : RequestFault} (hr : c.pageRequest offset = .error f) (s : Server)
    (t : Trace) : (c.page s offset t).1 = .error (.request f) := by
  unfold pageRequest at hr
  unfold page
  rw [hr]
  rfl

/-- A page takes an answer that counts. -/
theorem answers_of_page {entries : List Entry} (h : c.page s offset t = (.ok entries, t')) :
    t.answers < s.span ∧ t'.answers = t.answers + 1 := by
  cases hr : c.pageRequest offset with
  | error f =>
    have hfault := page_of_fault hr s t
    rw [h] at hfault
    cases hfault
  | ok r =>
    obtain ⟨events, hpage⟩ := page_ok hr s t
    rw [h] at hpage
    obtain ⟨hentries, rfl⟩ := Prod.mk.inj hpage
    have hanswer : (s.next t.exchanges r).isAnswer = true := by
      cases hreply : s.next t.exchanges r with
      | answer status body => rfl
      | _ =>
        rw [hreply] at hentries
        cases hentries
    exact ⟨answers_lt_of_next hanswer, answers_concat rfl hanswer⟩

/-- From a full page a listing goes on to the offset after it. -/
def Turns (c : Client) (s : Server) (here next : Nat × Trace) : Prop :=
  ∃ entries, c.page s here.1 here.2 = (.ok entries, next.2) ∧ pageSize ≤ entries.length ∧
    next.1 = here.1 + entries.length

/-- A listing comes to nothing after a page that fails or is not full. -/
theorem page_eq_error_iff {e : TransportError}
    (hlast : ∀ entries, (c.page s offset t).1 = .ok entries → entries.length < pageSize) :
    c.page s offset t = (.error e, t') ↔
      ∃ here, Relation.ReflTransGen (c.Turns s) (offset, t) here ∧
        c.page s here.1 here.2 = (.error e, t') := by
  refine ⟨fun h => ⟨_, .refl, h⟩, ?_⟩
  rintro ⟨here, hrun, h⟩
  rcases hrun.cases_head with rfl | ⟨next, ⟨entries, hpage, hfull, -⟩, -⟩
  · exact h
  · exact absurd (hlast entries (congrArg Prod.fst hpage)) (Nat.not_lt.2 hfull)

/-- A full page is followed by the listing from the offset after it. -/
theorem turns_of_full {entries : List Entry} {t₁ : Trace} {here : Nat × Trace}
    (hpage : c.page s offset t = (.ok entries, t₁)) (hfull : pageSize ≤ entries.length) :
    Relation.ReflTransGen (c.Turns s) (offset, t) here ↔
      here = (offset, t) ∨
        Relation.ReflTransGen (c.Turns s) (offset + entries.length, t₁) here := by
  constructor
  · intro hrun
    rcases hrun.cases_head with rfl | ⟨⟨offset', t₂⟩, ⟨entries', hpage', -, rfl⟩, hrest⟩
    · exact .inl rfl
    · obtain ⟨hentries, rfl⟩ := Prod.mk.inj (hpage.symm.trans hpage')
      obtain rfl := Except.ok.inj hentries
      exact .inr hrest
  · rintro (rfl | hrest)
    · exact .refl
    · exact .head ⟨entries, hpage, hfull, rfl⟩ hrest

/-- A listing fails exactly if a page fails that it comes to, and as that page does. -/
theorem entriesFrom_eq_error_iff {e : TransportError} (hpages : s.span - t.answers < pages) :
    c.entriesFrom s pages offset t = (.error e, t') ↔
      ∃ here, Relation.ReflTransGen (c.Turns s) (offset, t) here ∧
        c.page s here.1 here.2 = (.error e, t') := by
  induction pages generalizing offset t with
  | zero => exact absurd hpages (Nat.not_lt_zero _)
  | succ pages ih =>
    rw [entriesFrom_succ]
    rcases hpage : c.page s offset t with ⟨e' | entries, t₁⟩
    · rw [← page_eq_error_iff, hpage]
      intro entries h
      rw [hpage] at h
      cases h
    dsimp only
    split
    next hshort =>
      rw [← page_eq_error_iff, hpage]
      intro entries' h
      rw [hpage] at h
      exact Except.ok.inj h ▸ hshort
    next hfull =>
      -- the page took an answer, so there is a page to go on with if there is an answer
      have hanswers := answers_of_page hpage
      have hrest : c.entriesFrom s pages (offset + entries.length) t₁ = (.error e, t') ↔
          ∃ here, Relation.ReflTransGen (c.Turns s) (offset, t) here ∧
            c.page s here.1 here.2 = (.error e, t') := by
        rw [ih (by omega)]
        refine exists_congr fun here => ?_
        rw [turns_of_full hpage (Nat.not_lt.1 hfull), or_and_right, or_iff_right]
        rintro ⟨rfl, h⟩
        cases hpage.symm.trans h
      rw [← hrest]
      rcases c.entriesFrom s pages (offset + entries.length) t₁ with ⟨e' | more, t₂⟩
      · rfl
      · constructor <;> intro h <;> cases h

/-! ## What a listing makes -/

theorem exchanges_page (c : Client) (s : Server) (offset : Nat) (t : Trace) :
    (c.page s offset t).2.exchanges =
      t.exchanges ++ s.exchanged t.exchanges (c.pageRequest offset) := by
  rw [← exchanges_send s "list_buckets"]
  exact Conversation.exchanges_bind (fun _ => Conversation.quiet_result _) _ t

/-- The exchanges of a listing from an offset on that comes to its end, with the entries of its
pages: all pages are full but the last. -/
inductive Listing (c : Client) : Nat → Exchanges → List Entry → Prop
  | last {offset r reply entries} (hr : c.pageRequest offset = .ok r)
      (hreply : reply.Gives entries) (hshort : entries.length < pageSize) :
      Listing c offset [(r, reply)] entries
  | turn {offset r reply entries made more} (hr : c.pageRequest offset = .ok r)
      (hreply : reply.Gives entries) (hfull : pageSize ≤ entries.length)
      (hrest : Listing c (offset + entries.length) made more) :
      Listing c offset ((r, reply) :: made) (entries ++ more)

theorem not_listing_nil {entries : List Entry} : ¬ c.Listing offset [] entries := nofun

theorem Listing.gives {reply : Reply} {made : Exchanges} {all : List Entry}
    (h : c.Listing offset ((r, reply) :: made) all) : ∃ entries, reply.Gives entries := by
  cases h with
  | last _ hreply _ => exact ⟨_, hreply⟩
  | turn _ hreply _ _ => exact ⟨_, hreply⟩

/-- The entries of a listing whose first page is known. -/
theorem listing_cons_iff {reply : Reply} {made : Exchanges} {entries all : List Entry}
    (hr : c.pageRequest offset = .ok r) (hreply : reply.Gives entries) :
    c.Listing offset ((r, reply) :: made) all ↔
      (entries.length < pageSize ∧ made = [] ∧ all = entries) ∨
      (pageSize ≤ entries.length ∧
        ∃ more, c.Listing (offset + entries.length) made more ∧ all = entries ++ more) := by
  constructor
  · intro h
    cases h with
    | last _ hreply' hshort => exact .inl ⟨hreply.eq hreply' ▸ hshort, rfl, hreply'.eq hreply⟩
    | turn _ hreply' hfull hrest =>
      obtain rfl := hreply.eq hreply'
      exact .inr ⟨hfull, _, hrest, rfl⟩
  · rintro (⟨hshort, rfl, rfl⟩ | ⟨hfull, more, hrest, rfl⟩)
    · exact .last hr hreply hshort
    · exact .turn hr hreply hfull hrest

/-- A listing makes requests for pages alone, the first for the page at its offset, and it gives
entries exactly if it comes to its end. -/
theorem entriesFrom_made (hpages : s.span - t.answers < pages) :
    ∃ made, (c.entriesFrom s pages offset t).2.exchanges = t.exchanges ++ made ∧
      made.head?.map Prod.fst = (c.pageRequest offset).toOption ∧
      (∀ e ∈ made, ∃ offset, c.pageRequest offset = .ok e.1) ∧
      ∀ all, (c.entriesFrom s pages offset t).1 = .ok all ↔ c.Listing offset made all := by
  induction pages generalizing offset t with
  | zero => exact absurd hpages (Nat.not_lt_zero _)
  | succ pages ih =>
    rw [entriesFrom_succ]
    cases hr : c.pageRequest offset with
    | error f =>
      have hresult := page_of_fault hr s t
      have hmade := exchanges_page c s offset t
      rcases hpage : c.page s offset t with ⟨e | entries, t₁⟩
      · rw [hpage, hr] at hmade
        exact ⟨[], hmade, rfl, List.forall_mem_nil _,
          fun all => ⟨nofun, fun h => (not_listing_nil h).elim⟩⟩
      · rw [hpage] at hresult
        cases hresult
    | ok r =>
      obtain ⟨events, hpage⟩ := page_ok hr s t
      cases hgives : (answerOf r (s.next t.exchanges r)).bind (decodeAnswer pageOfSource?) with
      | error e =>
        rw [hgives] at hpage
        rw [hpage]
        refine ⟨[(r, s.next t.exchanges r)], rfl, rfl, by simpa using ⟨_, hr⟩,
          fun all => ⟨nofun, fun h => ?_⟩⟩
        obtain ⟨entries, hreply⟩ := h.gives
        cases hgives.symm.trans (Reply.gives_iff.2 hreply)
      | ok entries =>
        have hreply := Reply.gives_iff.1 hgives
        rw [hgives] at hpage
        have hanswers := answers_of_page hpage
        rw [hpage]
        dsimp only
        split
        next hshort =>
          refine ⟨[(r, s.next t.exchanges r)], rfl, rfl, by simpa using ⟨_, hr⟩, fun all => ?_⟩
          rw [listing_cons_iff hr hreply, or_iff_left fun h => Nat.not_lt.2 h.1 hshort]
          exact ⟨fun h => ⟨hshort, rfl, (Except.ok.inj h).symm⟩, fun h => h.2.2 ▸ rfl⟩
        next hfull =>
          obtain ⟨made, hmade, -, hasked, hall⟩ :=
            @ih ⟨t.exchanges ++ [(r, s.next t.exchanges r)], events⟩ (offset + entries.length)
              (by omega)
          generalize c.entriesFrom s pages _ _ = p at hmade hall ⊢
          refine ⟨(r, s.next t.exchanges r) :: made, ?_, rfl,
            List.forall_mem_cons.2 ⟨⟨_, hr⟩, hasked⟩, fun all => ?_⟩
          · rw [← List.append_cons] at hmade
            obtain ⟨e | more, t₂⟩ := p <;> exact hmade
          · rw [listing_cons_iff hr hreply, or_iff_right fun h => hfull h.1,
              and_iff_right (Nat.not_lt.1 hfull)]
            simp only [← hall]
            obtain ⟨e | more, t₂⟩ := p
            · exact ⟨nofun, fun ⟨_, h, _⟩ => nomatch h⟩
            · exact ⟨fun h => ⟨more, rfl, (Except.ok.inj h).symm⟩,
                fun ⟨_, h, hall⟩ => hall ▸ Except.ok.inj h ▸ rfl⟩

theorem list_made (c : Client) (s : Server) (t : Trace) :
    ∃ made, (c.list s t).2.exchanges = t.exchanges ++ made ∧
      made.head?.map Prod.fst = (c.pageRequest 0).toOption ∧
      (∀ e ∈ made, ∃ offset, c.pageRequest offset = .ok e.1) ∧
      ∀ buckets, (c.list s t).1 = .ok buckets ↔
        ∃ all, c.Listing 0 made all ∧ buckets = all.map Entry.toRemote := by
  have hpages : s.span - t.answers < s.span + 1 := by omega
  obtain ⟨made, hmade, hfirst, hasked, hall⟩ := @entriesFrom_made c s t 0 _ hpages
  rw [list_apply]
  generalize c.entriesFrom s (s.span + 1) 0 t = p at hmade hall ⊢
  refine ⟨made, ?_, hfirst, hasked, fun buckets => ?_⟩
  · obtain ⟨e | all, t'⟩ := p <;> exact hmade
  · simp only [← hall]
    obtain ⟨e | all, t'⟩ := p
    · exact ⟨nofun, fun ⟨_, h, _⟩ => nomatch h⟩
    · exact ⟨fun h => ⟨all, rfl, (Except.ok.inj h).symm⟩,
        fun ⟨_, h, hbuckets⟩ => hbuckets ▸ Except.ok.inj h ▸ rfl⟩

/-! ## The listing -/

/-- **Listing buckets.** Let a client's base have neither a query nor a fragment, and let it be able
to ask for the first page. From a server that holds a list, with enough answers that count, it gets
the list, each entry once and in order, by one request for each full page and one more, at the
offsets of these pages. From any server it gets an error exactly if, going from full page to full
page, it comes to a page that fails, and the error is that page's. -/
theorem list_pages (hbase : Url.IsBase c.base) (hfirst : ∃ r, c.pageRequest 0 = .ok r) :
    (∀ s buckets t, s.Lists buckets → t.answers + buckets.length / pageSize + 1 ≤ s.span →
      ∃ t', c.list s t = (.ok (buckets.map Entry.toRemote), t') ∧
        ∃ made, t'.exchanges = t.exchanges ++ made ∧
          List.Forall₂ (fun r offset => r.AsksFor pageSize offset) (made.map Prod.fst)
            ((List.range (buckets.length / pageSize + 1)).map (pageSize * ·))) ∧
    ∀ s t e t', c.list s t = (.error e, t') ↔
      ∃ here, Relation.ReflTransGen (c.Turns s) (0, t) here ∧
        c.page s here.1 here.2 = (.error e, t') := by
  constructor
  · intro s buckets t hs hspan
    have hturns : fullPages buckets 0 = buckets.length / pageSize := rfl
    have hpages : fullPages buckets 0 < s.span + 1 := by omega
    have hcount : t.answers + fullPages buckets 0 < s.span := by omega
    obtain ⟨t', hentries, made, hmade, hall⟩ := entriesFrom_of_lists hs hbase hfirst hpages hcount
    refine ⟨t', ?_, made, hmade, ?_⟩
    · rw [list_apply, hentries]
      rfl
    · simpa only [offsets, hturns, Nat.zero_add] using hall
  · intro s t e t'
    have hpages : s.span - t.answers < s.span + 1 := by omega
    rw [← entriesFrom_eq_error_iff hpages, list_apply]
    rcases c.entriesFrom s (s.span + 1) 0 t with ⟨e' | entries, t₁⟩
    · constructor <;> intro h <;> cases h <;> rfl
    · constructor <;> intro h <;> cases h

end Client

/-! ## A server with a list -/

/-- The limit and the offset that a request names. -/
def Request.part? (r : Request) : Option (Nat × Nat) := do
  let parameters ← r.parameters?
  let limit ← parameters.lookup "limit"
  let offset ← parameters.lookup "offset"
  return (← readDigits limit.toList, ← readDigits offset.toList)

theorem Request.AsksFor.part? {r : Request} {limit offset : Nat} (h : r.AsksFor limit offset) :
    r.part? = some (limit, offset) := by
  obtain ⟨-, parameters, hparameters, hlimit, hoffset⟩ := h
  simp [Request.part?, hparameters, hlimit, hoffset, readDigits_decimalDigits]

/-- A server that gives parts of a list as they are asked for. -/
def Server.ofEntries (buckets : List Entry) (span : Nat) : Server :=
  ⟨fun _ r => match r.part? with
    | some (limit, offset) =>
      .reply (.answer 200 (.whole (pageDocument ((buckets.drop offset).take limit)).toText))
    | none => .reply (.answer 404 (.whole "")), span⟩

theorem Server.lists_ofEntries (buckets : List Entry) (span : Nat) :
    (ofEntries buckets span).Lists buckets := by
  intro before r limit offset h
  refine ⟨200, _, ?_, by decide, decodeBody_pageDocument _⟩
  unfold ofEntries
  dsimp only
  rw [h.part?]

/-- One bucket more than a page holds. -/
def manyBuckets : List Entry := (List.range 101).map fun i => ⟨i.repr, "room" ++ i.repr, none⟩

theorem list_pages_manyBuckets :
    Url.IsBase (Client.ofEngine knottedEngine).base ∧
      (∃ r, (Client.ofEngine knottedEngine).pageRequest 0 = .ok r) ∧
      (Server.ofEntries manyBuckets 2).Lists manyBuckets ∧
      ∃ t', (Client.ofEngine knottedEngine).list (.ofEntries manyBuckets 2) .empty =
          (.ok (manyBuckets.map Entry.toRemote), t') ∧
        List.Forall₂ (fun r offset => r.AsksFor 100 offset) (t'.exchanges.map Prod.fst)
          [0, 100] := by
  have hbase : Url.IsBase (Client.ofEngine knottedEngine).base := by decide +kernel
  have hlists := Server.lists_ofEntries manyBuckets 2
  obtain ⟨t', hlist, made, hmade, hall⟩ :=
    (Client.list_pages hbase pageRequest_knotted).1 _ _ .empty hlists (by decide)
  refine ⟨hbase, pageRequest_knotted, hlists, t', hlist, ?_⟩
  rw [hmade]
  exact hall

end TypedSeries.Http
