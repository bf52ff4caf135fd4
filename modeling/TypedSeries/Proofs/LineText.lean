import TypedSeries.Point
import TypedSeries.Proofs.NumberText
import TypedSeries.Proofs.StoredRow

/-!
# Lines that say their points

A reader of lines, and what the writer of `Point.lines` means to it.

1. `Line.token` takes text up to the first bare delimiter, and `Line.token_escape` says that an
   escaped text is such a text, whatever it holds. Measurements, keys and the inside of quotes are
   three sets of delimiters to the one reader.
2. Tags, fields and the points of a batch are rows of items with a separator between them. If an
   item reads back next to anything that may follow it, the row does (`Line.more_flatMap`).
3. The text of a value ends before a delimiter: a quoted text at its own quote, the others because
   they hold none (`Line.fieldValue_valueText`).

**Main.** `Point.readLines_toLines`: a batch of legible points reads back from its lines, so two
such batches never have the same lines.
-/

namespace TypedSeries

namespace Line

/-! ## Reading a line -/

/-- The text before the first bare character of `stops`, and what follows it. A backslash before a
character of `special` is not part of the text, and the character behind it is. -/
def token (special stops : List Char) : List Char → List Char × List Char
  | [] => ([], [])
  | [c] => if c ∈ stops then ([], [c]) else ([c], [])
  | c :: d :: cs =>
    if c = '\\' ∧ d ∈ special then
      let (text, rest) := token special stops cs
      (d :: text, rest)
    else if c ∈ stops then ([], c :: d :: cs)
    else
      let (text, rest) := token special stops (d :: cs)
      (c :: text, rest)

/-- A measurement. -/
def measurement : List Char → List Char × List Char := token [',', ' '] [',', ' ', '\n']

/-- A key or the value of a tag. -/
def key : List Char → List Char × List Char := token [',', '=', ' '] [',', '=', ' ', '\n']

/-- Items with a separator before each, as many as there are. -/
def more {α : Type} (separator : Char) (item : List Char → Option (α × List Char))
    (cs : List Char) : Option (List α × List Char) :=
  match cs with
  | [] => some ([], [])
  | c :: cs =>
    if c = separator then
      match item cs with
      | none => none
      | some (a, rest) =>
        if rest.length ≤ cs.length then
          (more separator item rest).map fun (items, rest) => (a :: items, rest)
        else none
    else some ([], c :: cs)
termination_by cs.length

/-- Items with a separator between them, at least one. -/
def separated {α : Type} (separator : Char) (item : List Char → Option (α × List Char))
    (cs : List Char) : Option (List α × List Char) := do
  let (a, cs) ← item cs
  let (items, cs) ← more separator item cs
  return (a :: items, cs)

/-- A key, an equals sign and what `value` reads. -/
def entry {α : Type} (value : List Char → Option (α × List Char)) (cs : List Char) :
    Option ((String × α) × List Char) :=
  match key cs with
  | (name, '=' :: cs) => (value cs).map fun (a, rest) => ((String.ofList name, a), rest)
  | _ => none

/-- The value of a tag. -/
def tagValue (cs : List Char) : Option (String × List Char) :=
  let (text, rest) := key cs
  some (String.ofList text, rest)

/-- A value without quotes: an integer before an `i`, else a double, else a truth value. -/
def scalar (cs : List Char) : Option Value :=
  if cs.getLast? = some 'i' then (readInteger cs.dropLast).map .integer
  else
    match readNumber cs with
    | some x => some (.number x)
    | none => (Value.readBoolean cs).map .boolean

/-- A character that a value without quotes ends at. -/
def isDelimiter (c : Char) : Bool := c = ',' ∨ c = ' ' ∨ c = '\n'

/-- The value of a field, between quotes or up to the next delimiter. -/
def fieldValue : List Char → Option (Value × List Char)
  | '"' :: cs =>
    match token ['"', '\\'] ['"'] cs with
    | (text, '"' :: rest) => some (.text (String.ofList text), rest)
    | _ => none
  | cs =>
    (scalar (cs.takeWhile (!isDelimiter ·))).map fun v => (v, cs.dropWhile (!isDelimiter ·))

/-- A timestamp up to the end of the line, if there is one. -/
def timestamp : List Char → Option (Option Int64 × List Char)
  | ' ' :: cs =>
    (readInteger (cs.takeWhile (· ≠ '\n'))).map fun t => (some t, cs.dropWhile (· ≠ '\n'))
  | cs => some (none, cs)

/-- A point. -/
def point (cs : List Char) : Option (Point × List Char) := do
  let (name, cs) := measurement cs
  let (tags, cs) ← more ',' (entry tagValue) cs
  match cs with
  | ' ' :: cs =>
    let (fields, cs) ← separated ',' (entry fieldValue) cs
    let (time, cs) ← timestamp cs
    return (⟨String.ofList name, .ofList tags, .ofList fields, time⟩, cs)
  | _ => none

end Line

/-- The points of a text, one to a line. -/
def Point.readLines (s : String) : Option (List Point) :=
  if s = "" then some []
  else
    match Line.separated '\n' Line.point s.toList with
    | some (ps, []) => some ps
    | _ => none

/-- A text without backslashes and line feeds. -/
def Line.Clean (s : String) : Prop := ∀ c ∈ s.toList, c ≠ '\\' ∧ c ≠ '\n'

instance (s : String) : Decidable (Line.Clean s) :=
  decidable_of_iff ((s.toList.all fun c => c ≠ '\\' && c ≠ '\n') = true) (by simp [Line.Clean])

/-- A point whose names a line can hold. Nothing is asked of the values in its fields. -/
structure Point.Legible (p : Point) : Prop where
  fields : p.fields.entries ≠ []
  measurement : Line.Clean p.measurement
  tags : ∀ e ∈ p.tags.entries, Line.Clean e.1 ∧ Line.Clean e.2
  keys : ∀ e ∈ p.fields.entries, Line.Clean e.1

instance (p : Point) : Decidable p.Legible :=
  decidable_of_iff (p.fields.entries ≠ [] ∧ Line.Clean p.measurement ∧
    (∀ e ∈ p.tags.entries, Line.Clean e.1 ∧ Line.Clean e.2) ∧
    ∀ e ∈ p.fields.entries, Line.Clean e.1)
    ⟨fun ⟨hf, hm, ht, hk⟩ => ⟨hf, hm, ht, hk⟩, fun ⟨hf, hm, ht, hk⟩ => ⟨hf, hm, ht, hk⟩⟩

namespace Line

/-! ## Tokens -/

/-- A text that is at its end or goes on with one of the given characters. -/
def Ends (stops cs : List Char) : Prop := ∀ c ∈ cs.head?, c ∈ stops

theorem ends_cons {stops cs : List Char} {c : Char} (h : c ∈ stops) : Ends stops (c :: cs) := by
  intro d hd
  cases hd
  exact h

theorem ends_nil (stops : List Char) : Ends stops [] := by
  intro c hc
  cases hc

theorem Ends.mono {stops stops' cs : List Char} (h : Ends stops cs) (hs : stops ⊆ stops') :
    Ends stops' cs := fun c hc => hs (h c hc)

theorem token_of_ends {special stops rest : List Char} (h : Ends stops rest)
    (hb : '\\' ∉ stops) : token special stops rest = ([], rest) := by
  cases rest with
  | nil => rfl
  | cons c cs =>
    have hc : c ∈ stops := h c rfl
    have hne : c ≠ '\\' := fun e => hb (e ▸ hc)
    cases cs with
    | nil => simp [token, hc]
    | cons d cs => simp [token, hc, hne]

theorem token_cons {special stops cs : List Char} {c : Char} (hb : c ≠ '\\') (hc : c ∉ stops) :
    token special stops (c :: cs) =
      (c :: (token special stops cs).1, (token special stops cs).2) := by
  cases cs with
  | nil => simp [token, hc]
  | cons d cs => simp [token, hb, hc]

/-- An escaped text is read up to its end, if every delimiter in it is escaped. -/
theorem token_escape {special stops cs rest : List Char} (hb : '\\' ∉ stops)
    (h : ∀ c ∈ cs, c ∉ special → c ∉ stops ∧ c ≠ '\\') (hrest : Ends stops rest) :
    token special stops (Point.escape special cs ++ rest) = (cs, rest) := by
  induction cs with
  | nil => exact token_of_ends hrest hb
  | cons c cs ih =>
    have ih := ih fun d hd => h d (List.mem_cons_of_mem _ hd)
    have hcons : Point.escape special (c :: cs) =
        (if c ∈ special then ['\\', c] else [c]) ++ Point.escape special cs := rfl
    rw [hcons, List.append_assoc]
    by_cases hc : c ∈ special
    · simp [hc, token, ih]
    · obtain ⟨hstop, hne⟩ := h c List.mem_cons_self hc
      rw [if_neg hc, List.singleton_append, token_cons hne hstop, ih]

/-! ## Rows of items -/

section Rows

variable {α : Type} {separator : Char} {item : List Char → Option (α × List Char)}
  {text : α → List Char} {stops rest : List Char} {l : List α}

/-- After an item comes a separator or what follows the last. -/
theorem ends_flatMap (hsep : separator ∈ stops) (hrest : Ends stops rest) :
    Ends stops (l.flatMap (fun a => separator :: text a) ++ rest) := by
  cases l with
  | nil => exact hrest
  | cons a l => exact ends_cons hsep

/-- If an item reads back next to all that may follow it, a row of them reads back. -/
theorem more_flatMap (hsep : separator ∈ stops) (hrest : Ends stops rest)
    (hne : rest.head? ≠ some separator)
    (h : ∀ a ∈ l, ∀ rest, Ends stops rest → item (text a ++ rest) = some (a, rest)) :
    more separator item (l.flatMap (fun a => separator :: text a) ++ rest) = some (l, rest) := by
  induction l with
  | nil =>
    cases rest with
    | nil => rw [List.flatMap_nil, List.append_nil, more]
    | cons c cs =>
      have hc : c ≠ separator := fun e => hne (congrArg some e)
      rw [List.flatMap_nil, List.nil_append, more, if_neg hc]
  | cons a l ih =>
    have ih := ih fun b hb => h b (List.mem_cons_of_mem _ hb)
    have hlen : (l.flatMap (fun a => separator :: text a) ++ rest).length ≤
        (text a ++ (l.flatMap (fun a => separator :: text a) ++ rest)).length :=
      (List.suffix_append (text a) _).length_le
    rw [List.flatMap_cons, List.append_assoc, List.cons_append, more, if_pos rfl,
      h a List.mem_cons_self _ (ends_flatMap hsep hrest)]
    simp only [hlen, if_true, ih, Option.map_some]

theorem intercalate_cons (separator : Char) (w : List Char) (ws : List (List Char)) :
    [separator].intercalate (w :: ws) = w ++ ws.flatMap (separator :: ·) := by
  induction ws generalizing w with
  | nil => simp
  | cons v ws ih => simp [List.intercalate_cons_cons, ih]

theorem separated_intercalate (hl : l ≠ []) (hsep : separator ∈ stops) (hrest : Ends stops rest)
    (hne : rest.head? ≠ some separator)
    (h : ∀ a ∈ l, ∀ rest, Ends stops rest → item (text a ++ rest) = some (a, rest)) :
    separated separator item ([separator].intercalate (l.map text) ++ rest) = some (l, rest) := by
  obtain ⟨a, l, rfl⟩ := List.exists_cons_of_ne_nil hl
  have hmore := more_flatMap hsep hrest hne fun b hb => h b (List.mem_cons_of_mem a hb)
  rw [List.map_cons, intercalate_cons, List.flatMap_map, List.append_assoc, separated,
    h a List.mem_cons_self _ (ends_flatMap hsep hrest)]
  simp only [Option.bind_eq_bind, Option.bind_some, hmore]
  rfl

end Rows

/-! ## Names and values -/

/-- A clean text with its delimiters escaped is read up to its end, delimiter or line feed. -/
theorem token_escape_clean {special rest : List Char} {s : String} (hb : '\\' ∉ special)
    (h : Clean s) (hrest : Ends (special ++ ['\n']) rest) :
    token special (special ++ ['\n']) (Point.escape special s.toList ++ rest) =
      (s.toList, rest) := by
  refine token_escape (by simpa using hb) (fun c hc hspecial => ?_) hrest
  obtain ⟨hback, hfeed⟩ := h c hc
  exact ⟨by simpa using ⟨hspecial, hfeed⟩, hback⟩

theorem key_escapeKey {s : String} {rest : List Char}
    (h : Clean s) (hrest : Ends [',', '=', ' ', '\n'] rest) :
    key (Point.escapeKey s ++ rest) = (s.toList, rest) :=
  token_escape_clean (by decide) h hrest

theorem measurement_escapeMeasurement {s : String} {rest : List Char}
    (h : Clean s) (hrest : Ends [',', ' ', '\n'] rest) :
    measurement (Point.escapeMeasurement s ++ rest) = (s.toList, rest) :=
  token_escape_clean (by decide) h hrest

theorem entry_escapeKey {α : Type} {value : List Char → Option (α × List Char)} {name : String}
    {a : α} {cs rest : List Char} (h : Clean name)
    (hv : value cs = some (a, rest)) :
    entry value (Point.escapeKey name ++ '=' :: cs) = some ((name, a), rest) := by
  unfold entry
  rw [key_escapeKey h (ends_cons (by decide))]
  simp only [hv, Option.map_some, String.ofList_toList]

theorem isDelimiter_of_isDigit {c : Char} (h : c.isDigit = true) :
    isDelimiter c = false ∧ c ≠ '"' := by
  constructor
  · refine decide_eq_false ?_
    rintro (rfl | rfl | rfl) <;> exact absurd h (by decide)
  · rintro rfl
    exact absurd h (by decide)

theorem getLast?_toText (x : Binary64) : x.toText.getLast? ≠ some 'i' := by
  intro hlast
  cases x with
  | nan => exact absurd hlast (by decide)
  | infinite negative => cases negative <;> exact absurd hlast (by decide)
  | finite negative units h =>
    rcases List.mem_append.1 (List.mem_of_getLast? hlast) with hi | hi
    · cases negative <;> simp at hi
    · rcases mem_plain hi with hi | hi <;> exact absurd hi (by decide)

/-- The characters, apart from digits, of values written without quotes. -/
def scalarSigns : List Char := ['-', '.', 'N', 'a', 'i', 'n', 'f', 't', 'r', 'u', 'e', 'l', 's']

theorem mem_valueText {v : Value} (hv : v.kind ≠ .string) {c : Char}
    (h : c ∈ Point.valueText v) : c.isDigit = true ∨ c ∈ scalarSigns := by
  have htruth : ∀ b : Bool, ∀ c ∈ (if b then "true" else "false").toList, c ∈ scalarSigns := by
    intro b
    cases b <;> simp [scalarSigns]
  cases v with
  | text s => exact absurd rfl hv
  | integer i =>
    rcases List.mem_append.1 h with h | h
    · rcases mem_integerText h with h | rfl
      · exact .inl h
      · exact .inr (by decide)
    · rw [List.mem_singleton.1 h]
      exact .inr (by decide)
  | number x =>
    rcases mem_toText h with h | h
    · exact .inl h
    · exact .inr (List.mem_append_left ['t', 'r', 'u', 'e', 'l', 's'] h)
  | boolean b => exact .inr (htruth b c h)

/-- What is written without quotes holds no delimiter and is not taken for a quoted text. -/
theorem isDelimiter_valueText {v : Value} (hv : v.kind ≠ .string) {c : Char}
    (h : c ∈ Point.valueText v) : isDelimiter c = false ∧ c ≠ '"' := by
  have hsigns : ∀ c ∈ scalarSigns, isDelimiter c = false ∧ c ≠ '"' := by
    simp [scalarSigns, isDelimiter]
  rcases mem_valueText hv h with h | h
  · exact isDelimiter_of_isDigit h
  · exact hsigns c h

theorem scalar_valueText {v : Value} (hv : v.kind ≠ .string) :
    scalar (Point.valueText v) = some v := by
  cases v with
  | text s => exact absurd rfl hv
  | integer i =>
    have hlast : (integerText i ++ ['i']).getLast? = some 'i' := List.getLast?_concat
    unfold scalar Point.valueText
    rw [if_pos hlast, List.dropLast_concat, readInteger_integerText]
    rfl
  | number x =>
    unfold scalar Point.valueText
    rw [if_neg (getLast?_toText x), readNumber_toText]
  | boolean b => cases b <;> decide +kernel

theorem fieldValue_valueText {v : Value} {rest : List Char} (hrest : Ends [',', ' ', '\n'] rest) :
    fieldValue (Point.valueText v ++ rest) = some (v, rest) := by
  by_cases hv : v.kind = .string
  · cases v with
    | text s =>
      have htoken : token ['"', '\\'] ['"'] (Point.escape ['"', '\\'] s.toList ++ '"' :: rest) =
          (s.toList, '"' :: rest) := by
        refine token_escape (by decide) (fun c _ hc => ?_) (ends_cons (by decide))
        simpa using hc
      show fieldValue ('"' :: (Point.escape ['"', '\\'] s.toList ++ ['"'] ++ rest)) = _
      rw [List.append_assoc, List.singleton_append, fieldValue, htoken]
      simp only [String.ofList_toList]
    | _ => cases hv
  · have hall : ∀ c ∈ Point.valueText v, (!isDelimiter c) = true := by
      intro c hc
      rw [(isDelimiter_valueText hv hc).1]
      rfl
    have hstop : Stops (!isDelimiter ·) rest := by
      intro c hc
      have hc : c = ',' ∨ c = ' ' ∨ c = '\n' := by simpa using hrest c hc
      simp [isDelimiter, hc]
    obtain ⟨htake, hdrop⟩ := run_iff.2 ⟨rfl, hall, hstop⟩
    unfold fieldValue
    split
    next cs hcs =>
      cases htext : Point.valueText v with
      | nil =>
        rw [htext, List.nil_append] at hcs
        exact absurd (hrest '"' (hcs ▸ rfl)) (by decide)
      | cons c text =>
        rw [htext, List.cons_append] at hcs
        have hc := isDelimiter_valueText hv (htext ▸ List.mem_cons_self)
        exact absurd (List.head_eq_of_cons_eq hcs) hc.2
    next =>
      rw [htake, hdrop, scalar_valueText hv]
      rfl

/-! ## Lines -/

/-- The end of a line, a timestamp or nothing. -/
def stamp (t : Option Int64) : List Char :=
  match t with
  | some t => ' ' :: integerText t
  | none => []

theorem ends_stamp (t : Option Int64) {rest : List Char} (hrest : Ends ['\n'] rest) :
    Ends [' ', '\n'] (stamp t ++ rest) := by
  cases t with
  | some t => exact ends_cons (by decide)
  | none => exact hrest.mono (by simp)

theorem timestamp_stamp (t : Option Int64) {rest : List Char} (hrest : Ends ['\n'] rest) :
    timestamp (stamp t ++ rest) = some (t, rest) := by
  cases t with
  | none =>
    show timestamp rest = _
    unfold timestamp
    split
    next cs => exact absurd (hrest ' ' rfl) (by decide)
    next => rfl
  | some t =>
    have hall : ∀ c ∈ integerText t, decide (c ≠ '\n') = true := by
      intro c hc
      refine decide_eq_true ?_
      rintro rfl
      rcases mem_integerText hc with hc | hc <;> exact absurd hc (by decide)
    have hstop : Stops (fun c => decide (c ≠ '\n')) rest := by
      intro c hc
      simpa using hrest c hc
    obtain ⟨htake, hdrop⟩ := run_iff.2 ⟨rfl, hall, hstop⟩
    rw [stamp, List.cons_append, timestamp, htake, hdrop, readInteger_integerText]
    rfl

theorem point_nil : point [] = none := by
  simp [point, measurement, token, more]

variable {p : Point} {rest : List Char}

theorem more_tags (h : p.Legible) :
    more ',' (entry tagValue) (p.tags.entries.flatMap
      (fun e => ',' :: (Point.escapeKey e.1 ++ '=' :: Point.escapeKey e.2)) ++ ' ' :: rest) =
        some (p.tags.entries, ' ' :: rest) := by
  have hrest : Ends [',', ' '] (' ' :: rest) := ends_cons (by decide)
  refine more_flatMap (by decide) hrest (by simp) ?_
  intro e he rest hrest
  obtain ⟨hname, htext⟩ := h.tags e he
  have hvalue := key_escapeKey htext (hrest.mono (by simp))
  rw [List.append_assoc, List.cons_append]
  refine entry_escapeKey hname ?_
  simp only [tagValue, hvalue, String.ofList_toList]

theorem separated_fields (h : p.Legible) (hrest : Ends [' ', '\n'] rest) :
    separated ',' (entry fieldValue) ([','].intercalate (p.fields.entries.map fun e =>
      Point.escapeKey e.1 ++ '=' :: Point.valueText e.2) ++ rest) =
        some (p.fields.entries, rest) := by
  have hends : Ends [',', ' ', '\n'] rest := hrest.mono (by simp)
  have hcomma : rest.head? ≠ some ',' := fun hc => absurd (hrest ',' hc) (by decide)
  refine separated_intercalate h.fields (by decide) hends hcomma ?_
  intro e he rest hrest
  rw [List.append_assoc, List.cons_append]
  exact entry_escapeKey (h.keys e he) (fieldValue_valueText hrest)

theorem line_eq (p : Point) : p.line = Point.escapeMeasurement p.measurement ++
    (p.tags.entries.flatMap
      (fun e => ',' :: (Point.escapeKey e.1 ++ '=' :: Point.escapeKey e.2)) ++
    ' ' :: ([','].intercalate (p.fields.entries.map fun e =>
      Point.escapeKey e.1 ++ '=' :: Point.valueText e.2) ++ stamp p.timestamp)) := by
  unfold Point.line
  simp only [List.append_assoc, List.cons_append]
  rfl

/-- A line is read up to its end, and says its point. -/
theorem point_line (h : p.Legible) (hrest : Ends ['\n'] rest) :
    point (p.line ++ rest) = some (p, rest) := by
  rw [line_eq, List.append_assoc, List.append_assoc, List.cons_append, List.append_assoc, point,
    measurement_escapeMeasurement h.measurement (ends_flatMap (by decide) (ends_cons (by decide)))]
  simp only [more_tags h, Option.bind_eq_bind, Option.bind_some,
    separated_fields h (ends_stamp p.timestamp hrest), timestamp_stamp p.timestamp hrest,
    NameMap.ofList_entries, String.ofList_toList]
  rfl

end Line

/-- **Lines and back.** A batch of legible points reads back from its lines, whatever its texts
hold, and no two such batches have the same lines. -/
theorem Point.readLines_toLines :
    (∀ ps : List Point, (∀ p ∈ ps, p.Legible) → readLines (toLines ps) = some ps) ∧
      Set.InjOn toLines {ps | ∀ p ∈ ps, p.Legible} := by
  have hread : ∀ ps : List Point, (∀ p ∈ ps, p.Legible) → readLines (toLines ps) = some ps := by
    intro ps h
    unfold readLines toLines
    by_cases hps : ps = []
    · subst hps
      rfl
    · have hlines : Line.separated '\n' Line.point (lines ps ++ []) = some (ps, []) :=
        Line.separated_intercalate hps (List.mem_singleton_self _) (Line.ends_nil _) (by simp)
          fun p hp rest hrest => Line.point_line (h p hp) hrest
      have hne : String.ofList (lines ps) ≠ "" := by
        intro he
        have hnil : lines ps = [] := by rw [← String.toList_ofList (l := lines ps), he]; rfl
        rw [hnil] at hlines
        exact absurd hlines (by simp [Line.separated, Line.point_nil])
      rw [if_neg hne, String.toList_ofList]
      rw [List.append_nil] at hlines
      simp only [hlines]
  refine ⟨hread, ?_⟩
  intro ps hps qs hqs hlines
  have h := hread ps hps
  rw [hlines, hread qs hqs] at h
  exact (Option.some.inj h).symm

/-- Points whose texts look like the lines they are written in. -/
def delimitedPoints : List Point :=
  [⟨"a,b c", .ofList [("k=", ""), ("host,", "x=1 \"y\"")],
      .ofList [("v 1", .text "q\" 7\nm v=1i\\"), ("w", .integer (-3))], some (-5)⟩,
    ⟨"", .empty, .ofList [("=", .number (.ofInt 2)), ("t", .boolean true)], none⟩]

theorem delimitedPoints_read_back : Point.readLines (Point.toLines delimitedPoints) =
    some delimitedPoints :=
  Point.readLines_toLines.1 delimitedPoints (by decide +kernel)

end TypedSeries
