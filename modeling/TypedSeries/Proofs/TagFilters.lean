import TypedSeries.Proofs.FilterMeaning

/-!
# Filters on tags

An empty tag is left out of what is written and is read back as the empty text. Between the two a
filter does not see it.

1. A stored row whose record has an empty tag satisfies no filter on the tag, and every other stored
   row satisfies the filters that its record meets (`RecordType.satisfies_tag_iff`).
2. So a select with one filter on a tag gives the records that have text in the tag and meet the
   filter (`Session.perform_query_tag`).

**Main.** `Session.query_by_tag`: such a select, run as text or as it is, finds a record exactly if
the text of its tag satisfies the filter, but for the empty text.
-/

namespace TypedSeries

/-! ## One stored row -/

theorem Predicate.meets_iff {q : Predicate} {row : Row} {v : Value}
    (hv : row.get? q.column = some v) : q.Meets row ↔ q.Says v := by
  unfold Meets
  rw [hv]
  exact ⟨fun ⟨_, hw, hsays⟩ => Option.some.inj hw ▸ hsays, fun hsays => ⟨v, rfl, hsays⟩⟩

namespace RecordType

variable {t : RecordType} {f : Field} {row : Row} {v : Value} {q : Predicate}

/-- A tag is text. -/
theorem eq_text_of_tag (hf : f ∈ t.fields) (hr : f.role = .tag) (hk : v.kind = f.kind) :
    v = .text v.toText := by
  have hstring : v.kind = .string := hk.trans (t.wellFormed.tagsText f hf hr)
  cases v with
  | text s => rfl
  | _ => cases hstring

theorem get?_storedColumn_of_empty (time : Int64) (hf : f ∈ t.fields) (hr : f.role = .tag)
    (hv : row.get? f.name = some (.text "")) :
    (storedRow t time row).get? (Bucket.storedColumn t.schema f.name) = none := by
  have hown := get?_storedRow time hf hv
  rw [hr] at hown
  rw [storedColumn_eq hf, hr, if_neg (by decide), hown]
  exact if_pos rfl

/-- A filter on a tag looks for what an empty tag has not left behind. -/
theorem satisfies_tag_iff (time : Int64) (hf : f ∈ t.fields) (hr : f.role = .tag)
    (hv : row.get? f.name = some v) (hk : v.kind = f.kind)
    (hq : q.column = f.name ∧ q.kind = f.kind ∧ q.value.kind = f.kind) :
    Bucket.satisfies t.schema (storedRow t time row) q = true ↔
      row.get? f.name ≠ some (.text "") ∧ q.Meets row := by
  by_cases hempty : row.get? f.name = some (.text "")
  · unfold Bucket.satisfies
    rw [hq.1, get?_storedColumn_of_empty time hf hr hempty]
    simp [hempty]
  · have htext : v.toText ≠ "" := by
      intro he
      rw [eq_text_of_tag hf hr hk, he] at hv
      exact hempty hv
    rw [satisfies_storedRow_iff time hf hv hk hq fun _ => htext]
    exact ⟨fun h => ⟨hempty, h⟩, And.right⟩

end RecordType

/-! ## Selects by a tag -/

namespace Session

variable {s : Session} {key : String} {place : Nat} {h : Handle} {p : Plan} {f : Field}
  {q : Predicate} {steps : List (Int64 × Command)}

/-- A select by a tag gives the records in its range that have text in the tag and meet the
filter. -/
theorem perform_query_tag (hs : s.Reachable) (hb : s.Holds h.name ⟨h.recordType.schema, []⟩)
    (hc : s.RespectsRun h.declaration steps)
    (hk : (s.run steps).handles.get? key = some (place, h)) (hp : h.declaration.Selects p)
    (hf : f ∈ h.declaration.fields) (hr : f.role = .tag) (hq : p.predicates = [q])
    (hname : q.column = f.name) (now : Int64) :
    ((s.run steps).perform now (.handle key (.query p))).1 = .ok (.records
      (((s.history h.declaration steps).filter fun e => p.range.start now ≤ e.1 ∧ e.1 ≤ now ∧
        e.2.get? f.name ≠ some (.text "") ∧ q.Meets e.2).map Prod.snd)) := by
  have hft : f ∈ h.recordType.fields := h.fields_eq ▸ hf
  obtain ⟨g, hg, hcol, hkind, hvalue⟩ := hp.predicate (hq ▸ List.mem_singleton_self q)
  have hgf : g = f := RecordType.field_ext hft (h.fields_eq ▸ hg) (hcol.symm.trans hname)
  subst hgf
  have htag : ∀ e ∈ s.history h.declaration steps,
      (Bucket.satisfies h.recordType.schema (storedRow h.recordType e.1 e.2) q = true ↔
        e.2.get? g.name ≠ some (.text "") ∧ q.Meets e.2) := by
    intro e he
    obtain ⟨v, hv, hvk⟩ := (isRecord_of_mem_history h.declared he).holds g hg
    exact RecordType.satisfies_tag_iff e.1 hft hr hv hvk ⟨hcol, hkind, hvalue⟩
  rw [perform_query_run hs hb hc hk hp now]
  refine congrArg (fun es => Except.ok (Answer.records (List.map Prod.snd es))) ?_
  refine List.filter_congr fun e he => decide_eq_decide.2 ?_
  rw [hq, List.forall_mem_singleton, htag e he]

/-- **Filters on a tag.** After any run that writes to a bucket of records, at first empty, through
handles of their declaration only, a select with one filter on a tag gives the records in its range
that have text in the tag and meet the filter, and if the tag's name is plain it gives them run as
text too. So a record is found as the text of its tag says, but for an empty text that satisfies
the filter. -/
theorem query_by_tag (hs : s.Reachable) (hb : s.Holds h.name ⟨h.recordType.schema, []⟩)
    (hc : s.RespectsRun h.declaration steps)
    (hk : (s.run steps).handles.get? key = some (place, h)) (hp : h.declaration.Selects p)
    (hf : f ∈ h.declaration.fields) (hr : f.role = .tag) {op : Operator} {text : String}
    (hq : p.predicates = [f.compareWith op (.text text)]) (now : Int64) :
    let filter := f.compareWith op (.text text)
    let records := ((s.history h.declaration steps).filter fun e =>
      p.range.start now ≤ e.1 ∧ e.1 ≤ now ∧ e.2.get? f.name ≠ some (.text "") ∧
        filter.Meets e.2).map Prod.snd
    ((s.run steps).perform now (.handle key (.query p))).1 = .ok (.records records) ∧
      (PlainName f.name →
        ((s.run steps).perform now (.handle key (.execute p))).1 = .ok (.records records)) ∧
      ∀ e ∈ s.history h.declaration steps, p.range.start now ≤ e.1 → e.1 ≤ now →
        ∀ tag, e.2.get? f.name = some (.text tag) →
          ((e.2 ∈ records ↔ filter.Says (.text tag)) ↔ (tag = "" → ¬ filter.Says (.text tag))) := by
  intro filter records
  have hquery : ((s.run steps).perform now (.handle key (.query p))).1 = .ok (.records records) :=
    perform_query_tag hs hb hc hk hp hf hr hq rfl now
  have hsame (hplain : PlainName f.name) : (s.run steps).perform now (.handle key (.execute p)) =
      (s.run steps).perform now (.handle key (.query p)) := by
    refine perform_execute_of_holds hk (holds_history hs hb hc) rfl hp fun q hmem => ?_
    rw [hq] at hmem
    rw [List.mem_singleton.1 hmem]
    exact hplain
  refine ⟨hquery, fun hplain => (congrArg Prod.fst (hsame hplain)).trans hquery,
    fun e he hstart hend tag htag => ?_⟩
  have hmem : e.2 ∈ records ↔ tag ≠ "" ∧ filter.Says (.text tag) := by
    have hmeets : filter.Meets e.2 ↔ filter.Says (.text tag) := Predicate.meets_iff htag
    constructor
    · intro h
      obtain ⟨e', he', hrow⟩ := List.mem_map.1 h
      have hkept := of_decide_eq_true (List.mem_filter.1 he').2
      rw [hrow, hmeets, htag] at hkept
      exact ⟨fun h => hkept.2.2.1 (h ▸ rfl), hkept.2.2.2⟩
    · rintro ⟨hne, hsays⟩
      refine List.mem_map_of_mem (List.mem_filter.2 ⟨he, decide_eq_true ⟨hstart, hend, ?_, ?_⟩⟩)
      · rw [htag]
        simpa using hne
      · exact hmeets.2 hsays
  rw [hmem]
  by_cases hempty : tag = "" <;> simp [hempty]

end Session

/-- Rooms outside the wing `x`. -/
def otherWings : Plan :=
  roomType.handle.declaration.select.filterBy
    (Field.compareWith ⟨"wing", .string, .tag⟩ .notEqual (.text "x"))

theorem wing_mem_fields : ⟨"wing", .string, .tag⟩ ∈ roomType.handle.declaration.fields := by
  decide +kernel

theorem selects_otherWings : roomType.handle.declaration.Selects otherWings :=
  .filterBy .all wing_mem_fields .notEqual rfl

/-- A room of the west wing is outside `x`, and rooms of no wing are passed over. -/
theorem query_otherWings :
    roomSession.Reachable ∧ roomSession.Holds roomType.handle.name ⟨roomType.schema, []⟩ ∧
      roomSession.RespectsRun roomType.handle.declaration roomSteps ∧
      roomType.handle.declaration.Selects otherWings ∧ PlainName "wing" ∧
      ((roomSession.run roomSteps).perform Int64.maxValue
        (.handle "rooms" (.execute otherWings))).1 =
          .ok (.records [roomRow 10 "west" (.zero true)]) := by
  have hplain : PlainName "wing" := by decide +kernel
  have hquery := Session.query_by_tag reachable_roomSession holds_roomSession
    respectsRun_roomSteps handle_roomSteps selects_otherWings wing_mem_fields rfl rfl
    Int64.maxValue
  rw [history_roomSteps] at hquery
  refine ⟨reachable_roomSession, holds_roomSession, respectsRun_roomSteps, selects_otherWings,
    hplain, (hquery.2.1 hplain).trans ?_⟩
  exact congrArg (fun rows => Except.ok (Answer.records rows)) (by decide +kernel)

/-- The empty text is outside the wing `x`, but the room that has it as its wing is not found. -/
theorem query_misses_emptyWing :
    (Int64.maxValue, roomRow 10 "" (.zero true)) ∈
        roomSession.history roomType.handle.declaration roomSteps ∧
      otherWings.range.start Int64.maxValue ≤ Int64.maxValue ∧
      (roomRow 10 "" (.zero true)).get? "wing" = some (.text "") ∧
      (Field.compareWith ⟨"wing", .string, .tag⟩ .notEqual (.text "x")).Says (.text "") ∧
      ∃ rows, ((roomSession.run roomSteps).perform Int64.maxValue
        (.handle "rooms" (.query otherWings))).1 = .ok (.records rows) ∧
          roomRow 10 "" (.zero true) ∉ rows := by
  have hquery := Session.perform_query_tag reachable_roomSession holds_roomSession
    respectsRun_roomSteps handle_roomSteps selects_otherWings wing_mem_fields rfl rfl rfl
    Int64.maxValue
  rw [history_roomSteps] at hquery ⊢
  exact ⟨by simp, by decide +kernel, by decide +kernel, by decide +kernel, _, hquery,
    by decide +kernel⟩

end TypedSeries
