import TypedSeries.Proofs.Conversations
import TypedSeries.Proofs.LineText

/-!
# Where the lines of a batch end

A body of lines is cut at its line feeds outside quoted values, and a batch should come out as one
line for each record.

1. `Line.step` follows a text character by character: measurement and tags, then fields, where a
   quote right after an equals sign opens a value. `Line.frames` cuts at the line feeds met outside
   such values, and `Line.scan` is where a text without any leads.
2. Escaping lets a name stay where it is (`Line.scan_escape`), unless a backslash at its end takes
   the delimiter behind it away (`Point.Separable`), and a quoted value ends at its own quote. No
   escape helps against a line feed in a name.
3. So the line of a point leads from its start to its end exactly if none of its names holds a line
   feed (`Line.scan_line`), and a batch is cut into its lines exactly if no point of it does.

**Main.** `Handle.addAll_sends_lines`: what a batch of records sends to a server, and when that is
one line for each record.
-/

namespace TypedSeries

namespace Line

/-! ## Cutting a text -/

/-- The part of a line up to its first bare space, or the part behind it. -/
inductive Section where
  | head
  | fields
deriving DecidableEq

/-- Where a reader of a line is: at a character of a section, right behind a bare equals sign of the
fields, or in a quoted value. -/
inductive Place where
  | plain (s : Section) (escaped : Bool)
  | value
  | quoted (escaped : Bool)
deriving DecidableEq

/-- The character that leads out of a section, unless a backslash stands before it. -/
def Section.exit : Section → Char
  | head => ' '
  | fields => '='

/-- What comes after a section's exit. -/
def Section.next : Section → Place
  | head => .plain .fields false
  | fields => .value

/-- The start of a line. -/
def Place.start : Place := .plain .head false

def Place.inQuotes : Place → Bool
  | quoted _ => true
  | _ => false

/-- Where one more character leads that does not end the line. -/
def step : Place → Char → Place
  -- Outside quotes a backslash keeps just the next character from leading out; if that is a
  -- backslash too, it does the same to the one behind it.
  | .plain s false, c => if c = s.exit then s.next else .plain s (c = '\\')
  | .plain s true, c => .plain s (c = '\\')
  | .value, c => if c = '"' then .quoted false else .plain .fields (c = '\\')
  | .quoted false, c => if c = '"' then .plain .fields false else .quoted (c = '\\')
  | .quoted true, _ => .quoted false

/-- A line feed outside a quoted value ends the line. -/
def endsLine (q : Place) (c : Char) : Bool := c = '\n' && !q.inQuotes

/-- The lines of a text that is read from a place on. -/
def framesFrom : Place → List Char → List (List Char)
  | _, [] => [[]]
  | q, c :: cs =>
    if endsLine q c then [] :: framesFrom .start cs
    else (framesFrom (step q c) cs).modifyHead (c :: ·)

/-- The lines of a text. -/
def frames : List Char → List (List Char) := framesFrom .start

/-- How many line feeds a text that is read from a place on has outside quoted values. -/
def feedsFrom : Place → List Char → Nat
  | _, [] => 0
  | q, c :: cs => if endsLine q c then feedsFrom .start cs + 1 else feedsFrom (step q c) cs

/-- How many line feeds a text has outside quoted values. -/
def feeds : List Char → Nat := feedsFrom .start

/-- Where a text leads that has no line feed outside quoted values. -/
def scan : Place → List Char → Option Place
  | q, [] => some q
  | q, c :: cs => if endsLine q c then none else scan (step q c) cs

theorem length_framesFrom (q : Place) (cs : List Char) :
    (framesFrom q cs).length = feedsFrom q cs + 1 := by
  induction cs generalizing q with
  | nil => rfl
  | cons c cs ih =>
    rw [framesFrom, feedsFrom]
    split
    · rw [List.length_cons, ih]
    · rw [List.length_modifyHead, ih]

theorem scan_cons {q q' : Place} {c : Char} (hc : endsLine q c = false) (hstep : step q c = q')
    (cs : List Char) : scan q (c :: cs) = scan q' cs := by
  rw [scan, if_neg (by rw [hc]; decide), hstep]

theorem scan_append (q : Place) (cs ds : List Char) :
    scan q (cs ++ ds) = (scan q cs).bind (scan · ds) := by
  induction cs generalizing q with
  | nil => rfl
  | cons c cs ih =>
    rw [List.cons_append, scan, scan]
    split
    · rfl
    · exact ih _

/-- A text without a bare line feed stands at the front of the line it is in. -/
theorem framesFrom_append {q q' : Place} {w : List Char} (h : scan q w = some q')
    (rest : List Char) : framesFrom q (w ++ rest) = (framesFrom q' rest).modifyHead (w ++ ·) := by
  induction w generalizing q with
  | nil =>
    cases h
    exact (congrFun List.modifyHead_id _).symm
  | cons c w ih =>
    rw [scan] at h
    split at h
    next => cases h
    next hc =>
      rw [List.cons_append, framesFrom, if_neg hc, ih h, List.modifyHead_modifyHead]
      rfl

/-- Lines without bare line feeds that end outside quotes are what a text made of them is cut
into. -/
theorem frames_intercalate {ws : List (List Char)} (hne : ws ≠ [])
    (h : ∀ w ∈ ws, ∃ q, scan .start w = some q ∧ q.inQuotes = false) :
    frames (['\n'].intercalate ws) = ws := by
  induction ws with
  | nil => exact absurd rfl hne
  | cons w ws ih =>
    obtain ⟨q, hq, hquotes⟩ := h w List.mem_cons_self
    cases ws with
    | nil =>
      rw [List.intercalate_singleton]
      have hframes := framesFrom_append hq []
      rw [List.append_nil] at hframes
      rw [frames, hframes]
      show [w ++ []] = [w]
      rw [List.append_nil]
    | cons v ws =>
      have hrest := ih (List.cons_ne_nil v ws) fun u hu => h u (List.mem_cons_of_mem w hu)
      have hends : endsLine q '\n' = true := by rw [endsLine, hquotes]; rfl
      rw [List.intercalate_cons_cons, List.append_assoc, List.singleton_append, frames,
        framesFrom_append hq, framesFrom, if_pos hends, ← frames, hrest, List.modifyHead_cons,
        List.append_nil]

/-- No line of a text has a bare line feed. -/
theorem scan_of_mem_framesFrom (q : Place) (cs : List Char) :
    ∃ w ws, framesFrom q cs = w :: ws ∧ scan q w ≠ none ∧ ∀ v ∈ ws, scan .start v ≠ none := by
  induction cs generalizing q with
  | nil => exact ⟨[], [], rfl, by simp [scan], by simp⟩
  | cons c cs ih =>
    rw [framesFrom]
    split
    next =>
      obtain ⟨w, ws, hframes, hw, hws⟩ := ih .start
      exact ⟨[], w :: ws, by rw [hframes], by simp [scan], List.forall_mem_cons.2 ⟨hw, hws⟩⟩
    next hc =>
      obtain ⟨w, ws, hframes, hw, hws⟩ := ih (step q c)
      refine ⟨c :: w, ws, by rw [hframes]; rfl, ?_, hws⟩
      rwa [scan, if_neg hc]

theorem scan_of_mem_frames {cs w : List Char} (h : w ∈ frames cs) : scan .start w ≠ none := by
  obtain ⟨v, vs, hframes, hv, hvs⟩ := scan_of_mem_framesFrom .start cs
  rw [frames, hframes] at h
  rcases List.mem_cons.1 h with rfl | h
  · exact hv
  · exact hvs w h

/-! ## Names -/

/-- A text that ends in a backslash. -/
def Trails (s : String) : Prop := s.toList.getLast? = some '\\'

instance (s : String) : Decidable (Trails s) := inferInstanceAs (Decidable (_ = _))

/-- Whether the last character is a backslash; of no characters, whether one stood before. -/
def trailing (escaped : Bool) (cs : List Char) : Bool := cs.foldl (fun _ c => c = '\\') escaped

theorem trailing_of_not_trails {s : String} (h : ¬ Trails s) : trailing false s.toList = false := by
  cases hs : s.toList.getLast? with
  | none =>
    rw [List.getLast?_eq_none_iff.1 hs]
    rfl
  | some c =>
    obtain ⟨cs, hcs⟩ := List.getLast?_eq_some_iff.1 hs
    rw [trailing, hcs, List.foldl_append]
    exact decide_eq_false fun hc => h (hs.trans (congrArg some hc))

theorem endsLine_plain (s : Section) (escaped : Bool) (c : Char) :
    endsLine (.plain s escaped) c = decide (c = '\n') := Bool.and_true _

/-- **An escaped text** stays in the section it is read in, if it has no line feed. -/
theorem scan_escape {s : Section} {special : List Char} (hexit : s.exit ∈ special)
    (hfeed : '\n' ∉ special) (escaped : Bool) (cs : List Char) :
    scan (.plain s escaped) (Point.escape special cs) =
      if '\n' ∈ cs then none else some (.plain s (trailing escaped cs)) := by
  induction cs generalizing escaped with
  | nil => rfl
  | cons c cs ih =>
    have hcons : Point.escape special (c :: cs) =
        (if c ∈ special then ['\\', c] else [c]) ++ Point.escape special cs := rfl
    have htrailing : trailing escaped (c :: cs) = trailing (c = '\\') cs := rfl
    have hone : scan (.plain s escaped) (if c ∈ special then ['\\', c] else [c]) =
        if c = '\n' then none else some (.plain s (c = '\\')) := by
      by_cases hc : c ∈ special
      · have hne : ¬ c = '\n' := fun e => hfeed (e ▸ hc)
        have hfront : step (.plain s escaped) '\\' = .plain s true := by
          cases escaped <;> cases s <;> rfl
        rw [if_pos hc, if_neg hne, scan_cons (endsLine_plain _ _ _) hfront,
          scan_cons ((endsLine_plain _ _ _).trans (decide_eq_false hne)) rfl]
        rfl
      · have hstay : step (.plain s escaped) c = .plain s (c = '\\') := by
          cases escaped with
          | true => rfl
          | false => exact if_neg fun (e : c = s.exit) => hc (e ▸ hexit)
        simp [hc, scan, endsLine_plain, hstay]
    rw [hcons, scan_append, hone, htrailing]
    by_cases hc : c = '\n'
    · simp [hc]
    · rw [if_neg hc, Option.bind_some, ih]
      simp [Ne.symm hc]

/-- A name or text in the head of a line. -/
theorem scan_escapeKey (s : Section) (key : String) :
    scan (.plain s false) (Point.escapeKey key) =
      if '\n' ∈ key.toList then none else some (.plain s (trailing false key.toList)) := by
  refine scan_escape ?_ (by decide) false _
  cases s <;> decide

theorem scan_escapeMeasurement (name : String) :
    scan .start (Point.escapeMeasurement name) =
      if '\n' ∈ name.toList then none else some (.plain .head (trailing false name.toList)) :=
  scan_escape (by decide) (by decide) false _

/-- A tag goes on in the head of its line. -/
theorem scan_tag (escaped : Bool) (e : String × String) :
    scan (.plain .head escaped) (',' :: (Point.escapeKey e.1 ++ '=' :: Point.escapeKey e.2)) =
      if '\n' ∈ e.1.toList ∨ '\n' ∈ e.2.toList then none
      else some (.plain .head (trailing false e.2.toList)) := by
  have hcomma : step (.plain .head escaped) ',' = .plain .head false := by cases escaped <;> rfl
  have hequals : ∀ b, step (.plain .head b) '=' = .plain .head false := by
    intro b
    cases b <;> rfl
  rw [scan_cons (endsLine_plain _ _ _) hcomma, scan_append, scan_escapeKey]
  by_cases hname : '\n' ∈ e.1.toList
  · simp [hname]
  · rw [if_neg hname, Option.bind_some, scan_cons (endsLine_plain _ _ _) (hequals _),
      scan_escapeKey]
    simp [hname]

/-- The tags of a line lead to the end of the last one's text. -/
theorem scan_tags (name : String) (tags : List (String × String)) :
    scan (.plain .head (trailing false name.toList))
        (tags.flatMap fun e => ',' :: (Point.escapeKey e.1 ++ '=' :: Point.escapeKey e.2)) =
      if ∃ e ∈ tags, '\n' ∈ e.1.toList ∨ '\n' ∈ e.2.toList then none
      else some (.plain .head
        (trailing false ((tags.getLast?.map Prod.snd).getD name).toList)) := by
  induction tags generalizing name with
  | nil => simp [scan]
  | cons e tags ih =>
    rw [List.flatMap_cons, scan_append, scan_tag]
    by_cases he : '\n' ∈ e.1.toList ∨ '\n' ∈ e.2.toList
    · rw [if_pos he, if_pos ⟨e, List.mem_cons_self, he⟩, Option.bind_none]
    · have hlast : ((List.getLast? (e :: tags)).map Prod.snd).getD name =
          (tags.getLast?.map Prod.snd).getD e.2 := by
        rw [List.getLast?_cons]
        cases tags.getLast? <;> rfl
      rw [if_neg he, Option.bind_some, ih, hlast]
      simp only [List.mem_cons, exists_eq_or_imp, he, false_or]

/-! ## Values -/

theorem scan_quoted (cs : List Char) :
    scan (.quoted false) (Point.escape ['"', '\\'] cs) = some (.quoted false) := by
  induction cs with
  | nil => rfl
  | cons c cs ih =>
    have hcons : Point.escape ['"', '\\'] (c :: cs) =
        (if c ∈ ['"', '\\'] then ['\\', c] else [c]) ++ Point.escape ['"', '\\'] cs := rfl
    have hends : ∀ (b : Bool) (d : Char), endsLine (.quoted b) d = false := fun b d =>
      Bool.and_false _
    rw [hcons, scan_append]
    by_cases hc : c ∈ ['"', '\\']
    · have hback : step (.quoted false) '\\' = .quoted true := rfl
      have hnext : step (.quoted true) c = .quoted false := rfl
      rw [if_pos hc, scan_cons (hends _ _) hback, scan_cons (hends _ _) hnext]
      exact ih
    · obtain ⟨hquote, hback⟩ : c ≠ '"' ∧ c ≠ '\\' := by simpa using hc
      have hstay : step (.quoted false) c = .quoted false := by simp [step, hquote, hback]
      rw [if_neg hc, scan_cons (hends _ _) hstay]
      exact ih

/-- A character that leads nowhere in the fields of a line. -/
def Inert (c : Char) : Prop := c ≠ '=' ∧ c ≠ '\\' ∧ c ≠ '\n'

instance : DecidablePred Inert := fun _ => inferInstanceAs (Decidable (_ ∧ _))

theorem inert_of_isDigit {c : Char} (h : c.isDigit = true) : Inert c := by
  refine ⟨?_, ?_, ?_⟩ <;> rintro rfl <;> exact absurd h (by decide)

theorem scan_inert {cs : List Char} (h : ∀ c ∈ cs, Inert c) :
    scan (.plain .fields false) cs = some (.plain .fields false) := by
  induction cs with
  | nil => rfl
  | cons c cs ih =>
    obtain ⟨hexit, hback, hfeed⟩ := h c List.mem_cons_self
    have hstay : step (.plain .fields false) c = .plain .fields false := by
      simp [step, Section.exit, hexit, hback]
    rw [scan_cons ((endsLine_plain _ _ _).trans (decide_eq_false hfeed)) hstay]
    exact ih fun d hd => h d (List.mem_cons_of_mem c hd)

theorem inert_valueText {v : Value} (hv : v.kind ≠ .string) {c : Char}
    (h : c ∈ Point.valueText v) : Inert c := by
  have hsigns : ∀ c ∈ scalarSigns, Inert c := by simp [scalarSigns, Inert]
  rcases mem_valueText hv h with h | h
  · exact inert_of_isDigit h
  · exact hsigns c h

theorem valueText_ne_nil {v : Value} (hv : v.kind ≠ .string) : Point.valueText v ≠ [] := by
  intro hnil
  have hscalar := scalar_valueText hv
  rw [hnil] at hscalar
  exact nomatch hscalar.symm.trans (by decide +kernel : scalar [] = none)

/-- The text of a value, right behind the equals sign. -/
theorem scan_valueText (v : Value) : scan .value (Point.valueText v) =
    some (.plain .fields false) := by
  by_cases hv : v.kind = .string
  · cases v with
    | text s =>
      have hopen : step .value '"' = .quoted false := rfl
      have hclose : step (.quoted false) '"' = .plain .fields false := rfl
      show scan .value ('"' :: (Point.escape ['"', '\\'] s.toList ++ ['"'])) = _
      rw [scan_cons rfl hopen, scan_append, scan_quoted, Option.bind_some, scan_cons rfl hclose]
      rfl
    | _ => cases hv
  · obtain ⟨c, cs, hcs⟩ := List.exists_cons_of_ne_nil (valueText_ne_nil hv)
    have hinert : ∀ d ∈ c :: cs, Inert d := fun d hd => inert_valueText hv (hcs ▸ hd)
    obtain ⟨-, hback, hfeed⟩ := hinert c List.mem_cons_self
    have hquote : c ≠ '"' := (isDelimiter_valueText hv (hcs ▸ List.mem_cons_self)).2
    have hstep : step .value c = .plain .fields false := by simp [step, hback, hquote]
    rw [hcs, scan_cons (by simp [endsLine, hfeed]) hstep]
    exact scan_inert fun d hd => hinert d (List.mem_cons_of_mem c hd)

/-- A key and a value go on in the fields of their line, unless a text behind a backslash is not
taken for one. -/
theorem scan_field {e : String × Value} (h : e.2.kind = .string → ¬ Trails e.1) :
    scan (.plain .fields false) (Point.escapeKey e.1 ++ '=' :: Point.valueText e.2) =
      if '\n' ∈ e.1.toList then none else some (.plain .fields false) := by
  rw [scan_append, scan_escapeKey]
  by_cases hname : '\n' ∈ e.1.toList
  · simp [hname]
  · rw [if_neg hname, if_neg hname, Option.bind_some]
    cases htrail : trailing false e.1.toList with
    | false =>
      have hequals : step (.plain .fields false) '=' = .value := rfl
      rw [scan_cons (endsLine_plain _ _ _) hequals, scan_valueText]
    | true =>
      have hequals : step (.plain .fields true) '=' = .plain .fields false := rfl
      have hv : e.2.kind ≠ .string := by
        intro hv
        rw [trailing_of_not_trails (h hv)] at htrail
        cases htrail
      rw [scan_cons (endsLine_plain _ _ _) hequals]
      exact scan_inert fun c hc => inert_valueText hv hc

/-- A row of fields after the first. -/
theorem scan_moreFields {fields : List (String × Value)}
    (h : ∀ e ∈ fields, e.2.kind = .string → ¬ Trails e.1) :
    scan (.plain .fields false)
        (fields.flatMap fun e => ',' :: (Point.escapeKey e.1 ++ '=' :: Point.valueText e.2)) =
      if ∃ e ∈ fields, '\n' ∈ e.1.toList then none else some (.plain .fields false) := by
  induction fields with
  | nil => simp [scan]
  | cons e fields ih =>
    have hcomma : step (.plain .fields false) ',' = .plain .fields false := rfl
    rw [List.flatMap_cons, scan_append, scan_cons (endsLine_plain _ _ _) hcomma,
      scan_field (h e List.mem_cons_self)]
    by_cases he : '\n' ∈ e.1.toList
    · rw [if_pos he, if_pos ⟨e, List.mem_cons_self, he⟩, Option.bind_none]
    · rw [if_neg he, Option.bind_some, ih fun d hd => h d (List.mem_cons_of_mem e hd)]
      simp only [List.mem_cons, exists_eq_or_imp, he, false_or]

theorem scan_fields {fields : List (String × Value)}
    (h : ∀ e ∈ fields, e.2.kind = .string → ¬ Trails e.1) :
    scan (.plain .fields false) ([','].intercalate
        (fields.map fun e => Point.escapeKey e.1 ++ '=' :: Point.valueText e.2)) =
      if ∃ e ∈ fields, '\n' ∈ e.1.toList then none else some (.plain .fields false) := by
  cases fields with
  | nil => simp [scan]
  | cons e fields =>
    rw [List.map_cons, intercalate_cons, List.flatMap_map, scan_append,
      scan_field (h e List.mem_cons_self)]
    by_cases he : '\n' ∈ e.1.toList
    · rw [if_pos he, if_pos ⟨e, List.mem_cons_self, he⟩, Option.bind_none]
    · rw [if_neg he, Option.bind_some, scan_moreFields fun d hd => h d (List.mem_cons_of_mem e hd)]
      simp only [List.mem_cons, exists_eq_or_imp, he, false_or]

theorem scan_stamp (t : Option Int64) :
    scan (.plain .fields false) (stamp t) = some (.plain .fields false) := by
  cases t with
  | none => rfl
  | some t =>
    refine scan_inert fun c hc => ?_
    rcases List.mem_cons.1 hc with rfl | hc
    · decide
    · rcases mem_integerText hc with hc | rfl
      · exact inert_of_isDigit hc
      · decide

end Line

/-! ## Points -/

namespace Point

/-- The texts that a point's line holds outside quoted values. -/
def names (p : Point) : List String :=
  p.measurement :: (p.tags.entries.flatMap (fun e => [e.1, e.2]) ++ p.fields.entries.map Prod.fst)

/-- The text before the first bare space of a point's line: the last tag's, or the measurement. -/
def lastOfHead (p : Point) : String := (p.tags.entries.getLast?.map Prod.snd).getD p.measurement

/-- A point that has no backslash where a space or the quote of a text has to follow bare. -/
structure Separable (p : Point) : Prop where
  head : ¬ Line.Trails p.lastOfHead
  fields : ∀ e ∈ p.fields.entries, e.2.kind = .string → ¬ Line.Trails e.1

instance (p : Point) : Decidable p.Separable :=
  decidable_of_iff (¬ Line.Trails p.lastOfHead ∧
    ∀ e ∈ p.fields.entries, e.2.kind = .string → ¬ Line.Trails e.1)
    ⟨fun ⟨hh, hf⟩ => ⟨hh, hf⟩, fun ⟨hh, hf⟩ => ⟨hh, hf⟩⟩

end Point

namespace Line

variable {p : Point}

theorem feed_in_names_iff : (∃ s ∈ p.names, '\n' ∈ s.toList) ↔ '\n' ∈ p.measurement.toList ∨
    (∃ e ∈ p.tags.entries, '\n' ∈ e.1.toList ∨ '\n' ∈ e.2.toList) ∨
      ∃ e ∈ p.fields.entries, '\n' ∈ e.1.toList := by
  unfold Point.names
  simp only [List.mem_cons, List.mem_append, List.mem_flatMap, List.mem_map]
  constructor
  · rintro ⟨s, rfl | ⟨e, he, rfl | rfl | hs⟩ | ⟨e, he, rfl⟩, hfeed⟩
    · exact .inl hfeed
    · exact .inr (.inl ⟨e, he, .inl hfeed⟩)
    · exact .inr (.inl ⟨e, he, .inr hfeed⟩)
    · cases hs
    · exact .inr (.inr ⟨e, he, hfeed⟩)
  · rintro (hfeed | ⟨e, he, hfeed | hfeed⟩ | ⟨e, he, hfeed⟩)
    · exact ⟨_, .inl rfl, hfeed⟩
    · exact ⟨_, .inr (.inl ⟨e, he, .inl rfl⟩), hfeed⟩
    · exact ⟨_, .inr (.inl ⟨e, he, .inr (.inl rfl)⟩), hfeed⟩
    · exact ⟨_, .inr (.inr ⟨e, he, rfl⟩), hfeed⟩

/-- **The line of a point** leads to its end exactly if none of its names holds a line feed. -/
theorem scan_line (h : p.Separable) : scan .start p.line =
    if ∃ s ∈ p.names, '\n' ∈ s.toList then none else some (.plain .fields false) := by
  have hspace : step (.plain .head false) ' ' = .plain .fields false := rfl
  have hhead : trailing false ((p.tags.entries.getLast?.map Prod.snd).getD p.measurement).toList =
      false := trailing_of_not_trails h.head
  simp only [feed_in_names_iff]
  rw [line_eq, scan_append, scan_escapeMeasurement]
  by_cases hm : '\n' ∈ p.measurement.toList
  · simp [hm]
  · rw [if_neg hm, Option.bind_some, scan_append, scan_tags]
    by_cases ht : ∃ e ∈ p.tags.entries, '\n' ∈ e.1.toList ∨ '\n' ∈ e.2.toList
    · rw [if_pos ht, if_pos (.inr (.inl ht)), Option.bind_none]
    · rw [if_neg ht, Option.bind_some, hhead, scan_cons (endsLine_plain _ _ _) hspace, scan_append,
        scan_fields h.fields]
      by_cases hf : ∃ e ∈ p.fields.entries, '\n' ∈ e.1.toList
      · rw [if_pos hf, if_pos (.inr (.inr hf)), Option.bind_none]
      · rw [if_neg hf, Option.bind_some, scan_stamp, if_neg]
        rintro (h | h | h)
        · exact hm h
        · exact ht h
        · exact hf h

/-- **A batch** is cut into the lines of its points exactly if none of their names holds a line
feed. -/
theorem frames_lines_iff {ps : List Point} (hne : ps ≠ []) (h : ∀ p ∈ ps, p.Separable) :
    frames (Point.lines ps) = ps.map Point.line ↔
      ∀ p ∈ ps, ∀ s ∈ p.names, '\n' ∉ s.toList := by
  constructor
  · -- What comes out of the cut has no bare line feed, and a line with one in a name would.
    intro hframes p hp s hs hfeed
    have hscan : scan .start p.line ≠ none :=
      scan_of_mem_frames (hframes ▸ List.mem_map_of_mem hp)
    rw [scan_line (h p hp), if_pos ⟨s, hs, hfeed⟩] at hscan
    exact hscan rfl
  · intro hclean
    refine frames_intercalate (by simpa using hne) fun w hw => ?_
    obtain ⟨p, hp, rfl⟩ := List.mem_map.1 hw
    refine ⟨.plain .fields false, ?_, rfl⟩
    rw [scan_line (h p hp), if_neg]
    rintro ⟨s, hs, hfeed⟩
    exact hclean p hp s hs hfeed

end Line

/-! ## Sending a batch -/

namespace Http

/-- The request that writes points to a bucket. -/
def Client.writeRequest (c : Client) (bucket : String) (points : List Point) :
    Except RequestFault Request :=
  c.request .post
    (target "/api/v2/write" [("orgID", c.organization), ("bucket", bucket), ("precision", "ns")])
    [c.authorization, ("accept", "*/*"), ("content-type", "text/plain; charset=utf-8")]
    (Point.toLines points)

theorem Client.body_of_request {c : Client} {m : Method} {path body : String}
    {headers : List (String × String)} {r : Request}
    (h : c.request m path headers body = .ok r) : r.body = body := by
  obtain ⟨u, -, -, rfl⟩ := request_eq_ok h
  rfl

/-- Writing points makes the request that writes them, if it can be made. -/
theorem Client.exchanges_write (c : Client) (s : Server) (bucket : String) {points : List Point}
    (hne : points ≠ []) (t : Trace) : (c.write s bucket points t).2.exchanges =
      t.exchanges ++ s.exchanged t.exchanges (c.writeRequest bucket points) := by
  rw [← exchanges_send s "write", writeRequest, write, if_neg hne]
  exact Conversation.exchanges_bind (fun _ => (Conversation.quiet_result _).bind fun _ =>
    (Conversation.quiet_log _).bind fun _ => Conversation.quiet_pure true) _ t

end Http

/-- The bodies of the requests that have been made, in order. -/
def Transport.bodies : Transport → List String
  | .http _ _ trace => trace.exchanges.map (·.1.body)
  | .memory _ | .offline => []

/-- **What a batch sends.** A handle whose store is a server sends a batch in one body, if the
request can be made at all. Where no point has a backslash that takes away a delimiter, the body is
one line for each record, with no other line feed outside quoted values, exactly if no name in it,
of a measurement, a tag, a tag's text or a field, holds a line feed. -/
theorem Handle.addAll_sends_lines (h : Handle) {s : Store} {client : Http.Client}
    {server : Http.Server} {trace : Http.Trace} (hs : s.transport = .http client server trace)
    {records : List Row} (hne : records ≠ []) {now : Int64}
    (hsep : ∀ p ∈ Point.ofBatch h.recordType records now, p.Separable) :
    let points := Point.ofBatch h.recordType records now
    let body := Point.toLines points
    (h.addAll records now s).2.transport.bodies = s.transport.bodies ++
        (if (client.writeRequest h.name points).isOk then [body] else []) ∧
      (Line.feeds body.toList + 1 = records.length ∧
          Line.frames body.toList = points.map Point.line ↔
        ∀ p ∈ points, ∀ name ∈ p.names, '\n' ∉ name.toList) := by
  intro points body
  have hlength : points.length = records.length := List.length_mapIdx
  have hpoints : points ≠ [] := by
    intro hnil
    rw [hnil] at hlength
    exact hne (List.length_eq_zero_iff.1 hlength.symm)
  have hbody : body.toList = Point.lines points := String.toList_ofList
  constructor
  · have hexchanges := client.exchanges_write server h.name hpoints trace
    obtain ⟨engine, transport, registry⟩ := s
    cases hs
    show (client.write server h.name points trace).2.exchanges.map (·.1.body) = _
    rw [hexchanges, List.map_append]
    refine congrArg _ ?_
    cases hr : client.writeRequest h.name points with
    | error f => rfl
    | ok r => exact congrArg (fun b => [b]) (Http.Client.body_of_request hr)
  · rw [hbody, ← Line.frames_lines_iff hpoints hsep]
    refine and_iff_right_of_imp fun hframes => ?_
    have hfeeds := Line.length_framesFrom .start (Point.lines points)
    rw [← Line.frames, hframes, List.length_map, hlength] at hfeeds
    exact hfeeds.symm

/-! ## Notes on a server -/

/-- Notes by wing. -/
def noteType : RecordType where
  name := "note"
  fields := [⟨"wing", .string, .tag⟩, ⟨"text", .string, .field⟩]
  wellFormed := fault_eq_none_iff.1 (by decide +kernel)

/-- The row of a note. -/
def noteRow (wing text : String) : Row := .ofList [("wing", .text wing), ("text", .text text)]

/-- A server that can be written to but does not answer. -/
def noteServer : Store :=
  ⟨.bind "http://host" "token" "organization",
    .http (.ofEngine (.bind "http://host" "token" "organization")) (.ofReplies []) .empty, .empty⟩

/-- Notes whose texts go on like the body they stand in. -/
def quotedNotes : List Row := [noteRow "west" "\" 5\nnote text=\"x", noteRow "a b" "\\"]

theorem addAll_quotedNotes :
    quotedNotes ≠ [] ∧ (∀ p ∈ Point.ofBatch noteType quotedNotes 5, p.Separable) ∧
      Line.frames (Point.toLines (Point.ofBatch noteType quotedNotes 5)).toList =
        (Point.ofBatch noteType quotedNotes 5).map Point.line := by
  have hne : quotedNotes ≠ [] := List.cons_ne_nil _ _
  have hsep : ∀ p ∈ Point.ofBatch noteType quotedNotes 5, p.Separable := by decide +kernel
  have hsent := Handle.addAll_sends_lines noteType.handle (s := noteServer) rfl hne hsep
  exact ⟨hne, hsep, (hsent.2.2 (by decide +kernel)).2⟩

/-- A note whose wing holds a line feed is sent as two lines, the second a point of its own, and
after a wing that ends in a backslash a text takes the next note into its line. -/
theorem addAll_tornNotes :
    ((noteType.handle.addAll [noteRow "a\nnote" "x"] 5 noteServer).2.transport.bodies =
        ["note,wing=a\nnote text=\"x\" 5"] ∧
      Line.frames "note,wing=a\nnote text=\"x\" 5".toList =
        ["note,wing=a".toList, "note text=\"x\" 5".toList] ∧
      Line.point "note text=\"x\" 5".toList =
        some (⟨"note", .empty, .ofList [("text", .text "x")], some 5⟩, [])) ∧
    ((noteType.handle.addAll [noteRow "a\\" " q=", noteRow "b" "y"] 5
        noteServer).2.transport.bodies =
        ["note,wing=a\\ text=\" q=\" 5\nnote,wing=b text=\"y\" 6"] ∧
      Line.frames "note,wing=a\\ text=\" q=\" 5\nnote,wing=b text=\"y\" 6".toList =
        ["note,wing=a\\ text=\" q=\" 5\nnote,wing=b text=\"y\" 6".toList]) := by
  decide +kernel

end TypedSeries
