import TypedSeries.Json.Document
import TypedSeries.Json.Source

/-!
# The text of a document

What the reader makes of a document written on one line.

1. One escaped character is read as its code (`Source.stringUnits_escapeChar`), and the codes of
   the characters of a text join to that text, since no character is half of a surrogate pair
   (`Source.joinUnits_codes`). So a written text is read back next to any rest
   (`Source.readString_escaped`), whatever characters it has.
2. `Json.source?` says what a document without numbers is as a source, each text decoded.
3. Every step into a value uses a character, so the length of the text is fuel enough
   (`Json.read_render`).

**Main.** `Json.parse_toText`: the text of a document without numbers is read as that document.
-/

namespace TypedSeries

namespace Source

/-! ## Strings -/

theorem hexUnit?_control : ∀ n < 32,
    hexUnit? '0' '0' (Nat.digitChar (n / 16)) (Nat.digitChar (n % 16)) = some n := by
  decide

/-- A character that needs no escape is read as its code. -/
theorem stringUnits_plain {c : Char} (hq : c ≠ '"') (hb : c ≠ '\\') (hc : ¬ c.toNat < 32)
    (rest : List Char) :
    stringUnits (c :: rest) = (stringUnits rest).map fun p => (c.toNat :: p.1, p.2) := by
  rw [stringUnits]
  · rw [if_neg (not_or.2 ⟨hb, hc⟩)]
  all_goals simp_all

/-- A character behind a backslash that stands for another one is read as the other's code. -/
theorem stringUnits_short {e c : Char} (he : shortEscape? e = some c) (hu : e ≠ 'u')
    (rest : List Char) :
    stringUnits ('\\' :: e :: rest) = (stringUnits rest).map fun p => (c.toNat :: p.1, p.2) := by
  rw [stringUnits]
  · rw [he]
    cases stringUnits rest <;> rfl
  · simp_all

theorem stringUnits_control {c : Char} (hc : c.toNat < 32) (rest : List Char) :
    stringUnits (Json.controlEscape c ++ rest) =
      (stringUnits rest).map fun p => (c.toNat :: p.1, p.2) := by
  show stringUnits ('\\' :: 'u' :: '0' :: '0' :: Nat.digitChar (c.toNat / 16) ::
    Nat.digitChar (c.toNat % 16) :: rest) = _
  rw [stringUnits, hexUnit?_control c.toNat hc]
  cases stringUnits rest <;> rfl

/-- One escaped character is read as its code. -/
theorem stringUnits_escapeChar (c : Char) (rest : List Char) :
    stringUnits (Json.escapeChar c ++ rest) =
      (stringUnits rest).map fun p => (c.toNat :: p.1, p.2) := by
  unfold Json.escapeChar
  split
  next h => subst h; exact stringUnits_short (by decide) (by decide) rest
  next hq =>
    split
    next h => subst h; exact stringUnits_short (by decide) (by decide) rest
    next hb =>
      repeat' split
      case isFalse.isFalse.isFalse.isFalse.isFalse.isTrue h => exact stringUnits_control h rest
      case isFalse.isFalse.isFalse.isFalse.isFalse.isFalse h => exact stringUnits_plain hq hb h rest
      all_goals subst_vars; exact stringUnits_short (by decide) (by decide) rest

theorem stringUnits_escaped (cs rest : List Char) :
    stringUnits (cs.flatMap Json.escapeChar ++ '"' :: rest) = some (cs.map Char.toNat, rest) := by
  induction cs with
  | nil => rw [List.flatMap_nil, List.nil_append, stringUnits, List.map_nil]
  | cons c cs ih =>
    rw [List.flatMap_cons, List.append_assoc, stringUnits_escapeChar, ih]
    rfl

/-- The codes of characters join to the characters: none is half of a surrogate pair. -/
theorem joinUnits_codes (cs : List Char) : joinUnits (cs.map Char.toNat) = some cs := by
  have hvalid : ∀ c : Char, c.toNat < 0xD800 ∨ 0xE000 ≤ c.toNat := fun c =>
    c.valid.imp id fun h => by have := h.1; show 0xE000 ≤ c.val.toNat; omega
  induction cs with
  | nil => rfl
  | cons c cs ih =>
    have hc := hvalid c
    cases cs with
    | nil =>
      rw [List.map_cons, List.map_nil, joinUnits, if_neg (by omega), Char.ofNat_toNat]
    | cons d cs =>
      rw [List.map_cons, List.map_cons, joinUnits, if_neg (by omega), if_neg (by omega),
        ← List.map_cons, ih, Char.ofNat_toNat]
      rfl

/-- A written text is read back next to any rest. -/
theorem readString_escaped (s : String) (rest : List Char) :
    readString (s.toList.flatMap Json.escapeChar ++ '"' :: rest) = some (some s, rest) := by
  rw [readString, stringUnits_escaped]
  show some ((joinUnits (s.toList.map Char.toNat)).map String.ofList, rest) = _
  rw [joinUnits_codes, Option.map_some, String.ofList_toList]

/-! ## Steps of the reader -/

theorem skipSpaces_cons {c : Char} (h : isSpace c = false) (cs : List Char) :
    skipSpaces (c :: cs) = c :: cs :=
  List.dropWhile_cons_of_neg (by rw [h]; exact Bool.false_ne_true)

variable {fuel : Nat} {v : Source} {k : Option String} {body cs rest : List Char}

theorem read_quote (fuel : Nat) (cs : List Char) :
    read (fuel + 1) ('"' :: cs) = (readString cs).map fun p => (text p.1, p.2) := by
  rw [read]
  rfl

theorem read_bracket {c : Char} (hs : isSpace c = false) (hc : c ≠ ']') :
    read (fuel + 1) ('[' :: c :: cs) =
      (readItems fuel (c :: cs)).map fun p => (array p.1, p.2) := by
  rw [read, skipSpaces_cons (by decide)]
  simp only [skipSpaces_cons hs]
  split
  next h => exact absurd (List.cons.inj h).1 hc
  next => rfl

theorem read_brace :
    read (fuel + 1) ('\x7b' :: '"' :: cs) =
      (readMembers fuel ('"' :: cs)).map fun p => (object p.1, p.2) := by
  rw [read]
  rfl

theorem readItems_last (h : read fuel cs = some (v, ']' :: rest)) :
    readItems (fuel + 1) cs = some ([v], rest) := by
  rw [readItems, h]
  rfl

theorem readItems_more (h : read fuel cs = some (v, ',' :: rest)) :
    readItems (fuel + 1) cs = (readItems fuel rest).map fun p => (v :: p.1, p.2) := by
  rw [readItems, h]
  show (readItems fuel rest).bind _ = _
  cases readItems fuel rest <;> rfl

theorem readMembers_last (hk : readString body = some (k, ':' :: cs))
    (hv : read fuel cs = some (v, '\x7d' :: rest)) :
    readMembers (fuel + 1) ('"' :: body) = some ([(k, v)], rest) := by
  rw [readMembers]
  show (readString body).bind _ = _
  rw [hk]
  show (read fuel cs).bind _ = _
  rw [hv]
  rfl

theorem readMembers_more (hk : readString body = some (k, ':' :: cs))
    (hv : read fuel cs = some (v, ',' :: rest)) :
    readMembers (fuel + 1) ('"' :: body) =
      (readMembers fuel rest).map fun p => ((k, v) :: p.1, p.2) := by
  rw [readMembers]
  show (readString body).bind _ = _
  rw [hk]
  show (read fuel cs).bind _ = _
  rw [hv]
  show (readMembers fuel rest).bind _ = _
  cases readMembers fuel rest <;> rfl

end Source

namespace Json

/-! ## Documents as sources -/

mutual

/-- A document without numbers as it is read. -/
def source? : Json → Option Source
  | null => some .null
  | boolean b => some (.boolean b)
  | integer _ | number _ => none
  | text s => some (.text (some s))
  | array items => (sources? items).map .array
  | object members => (memberSources? members).map .object

def sources? : List Json → Option (List Source)
  | [] => some []
  | j :: rest => do
    let v ← source? j
    let vs ← sources? rest
    return v :: vs

def memberSources? : List (String × Json) → Option (List (Option String × Source))
  | [] => some []
  | (k, j) :: rest => do
    let v ← source? j
    let ms ← memberSources? rest
    return (some k, v) :: ms

end

theorem sources?_cons {j : Json} {rest : List Json} {vs : List Source}
    (h : sources? (j :: rest) = some vs) :
    ∃ v ws, source? j = some v ∧ sources? rest = some ws ∧ vs = v :: ws := by
  rw [sources?] at h
  obtain ⟨v, hv, h⟩ := Option.bind_eq_some_iff.1 h
  obtain ⟨ws, hws, h⟩ := Option.bind_eq_some_iff.1 h
  exact ⟨v, ws, hv, hws, (Option.some.inj h).symm⟩

theorem memberSources?_cons {k : String} {j : Json} {rest : List (String × Json)}
    {ms : List (Option String × Source)} (h : memberSources? ((k, j) :: rest) = some ms) :
    ∃ v ns, source? j = some v ∧ memberSources? rest = some ns ∧ ms = (some k, v) :: ns := by
  rw [memberSources?] at h
  obtain ⟨v, hv, h⟩ := Option.bind_eq_some_iff.1 h
  obtain ⟨ns, hns, h⟩ := Option.bind_eq_some_iff.1 h
  exact ⟨v, ns, hv, hns, (Option.some.inj h).symm⟩

/-! ## Reading them back -/

/-- What the text of a document starts with is no space and closes nothing. -/
theorem render_eq_cons : ∀ {j : Json} {v : Source}, source? j = some v →
    ∃ c cs, render j = c :: cs ∧ isSpace c = false ∧ c ≠ ']'
  | null, _, _ => ⟨_, _, rfl, by decide, by decide⟩
  | boolean true, _, _ => ⟨_, _, rfl, by decide, by decide⟩
  | boolean false, _, _ => ⟨_, _, rfl, by decide, by decide⟩
  | text s, _, _ => ⟨_, _, by rw [render, stringText], by decide, by decide⟩
  | array items, _, _ => ⟨_, _, by rw [render], by decide, by decide⟩
  | object members, _, _ => ⟨_, _, by rw [render], by decide, by decide⟩
  | integer _, _, h => by rw [source?] at h; cases h
  | number _, _, h => by rw [source?] at h; cases h

theorem renderItems_eq_cons {j : Json} {v : Source} (h : source? j = some v) (js : List Json) :
    ∃ c cs, renderItems (j :: js) = c :: cs ∧ isSpace c = false ∧ c ≠ ']' := by
  obtain ⟨c, cs, hj, hc⟩ := render_eq_cons h
  cases js with
  | nil => exact ⟨c, cs, by rw [renderItems, hj], hc⟩
  | cons i js => exact ⟨c, _, by rw [renderItems, hj, List.cons_append], hc⟩

theorem renderMembers_eq_cons (m : String × Json) (ms : List (String × Json)) :
    ∃ cs, renderMembers (m :: ms) = '"' :: cs := by
  cases ms with
  | nil => exact ⟨_, by rw [renderMembers, stringText, List.cons_append]⟩
  | cons n ms => exact ⟨_, by rw [renderMembers, stringText, List.cons_append]⟩

mutual

/-- A written document is read back next to any rest. -/
theorem read_render : ∀ {j : Json} {v : Source}, source? j = some v → ∀ {n : Nat},
    (render j).length ≤ n → ∀ rest, Source.read n (render j ++ rest) = some (v, rest)
  | j, v, h, 0, hf, rest => by
    obtain ⟨c, cs, hj, -⟩ := render_eq_cons h
    rw [hj] at hf
    exact absurd hf (Nat.not_succ_le_zero _)
  | null, _, h, n + 1, hf, rest => by cases h; rw [Source.read]; rfl
  | boolean true, _, h, n + 1, hf, rest => by cases h; rw [Source.read]; rfl
  | boolean false, _, h, n + 1, hf, rest => by cases h; rw [Source.read]; rfl
  | text s, _, h, n + 1, hf, rest => by
    cases h
    rw [render, stringText, List.cons_append, List.append_assoc, Source.read_quote]
    show (Source.readString (s.toList.flatMap escapeChar ++ '"' :: rest)).map _ = _
    rw [Source.readString_escaped]
    rfl
  | array items, _, h, n + 1, hf, rest => by
    obtain ⟨vs, hvs, rfl⟩ := Option.map_eq_some_iff.1 h
    cases items with
    | nil =>
      cases hvs
      rw [Source.read]
      rfl
    | cons j js =>
      obtain ⟨v, ws, hv, -, -⟩ := sources?_cons hvs
      obtain ⟨c, cs, hc, hs, hne⟩ := renderItems_eq_cons hv js
      have hitems := readItems_render hvs (n := n) (by
        rw [render, List.length_cons, List.length_append, List.length_singleton] at hf
        omega) rest
      rw [hc, List.cons_append] at hitems
      rw [render, hc, List.cons_append, List.append_assoc, List.cons_append,
        Source.read_bracket hs hne]
      show (Source.readItems n (c :: (cs ++ ']' :: rest))).map _ = _
      rw [hitems]
      rfl
  | object members, _, h, n + 1, hf, rest => by
    obtain ⟨ms, hms, rfl⟩ := Option.map_eq_some_iff.1 h
    cases members with
    | nil =>
      cases hms
      rw [Source.read]
      rfl
    | cons m more =>
      obtain ⟨cs, hc⟩ := renderMembers_eq_cons m more
      have hmembers := readMembers_render hms (n := n) (by
        rw [render, List.length_cons, List.length_append, List.length_singleton] at hf
        omega) rest
      rw [hc, List.cons_append] at hmembers
      rw [render, hc, List.cons_append, List.append_assoc, List.cons_append, Source.read_brace]
      show (Source.readMembers n ('"' :: (cs ++ '\x7d' :: rest))).map _ = _
      rw [hmembers]
      rfl
  | integer _, _, h, _, _, _ => by rw [source?] at h; cases h
  | number _, _, h, _, _, _ => by rw [source?] at h; cases h

theorem readItems_render : ∀ {j : Json} {js : List Json} {vs : List Source},
    sources? (j :: js) = some vs → ∀ {n : Nat}, (renderItems (j :: js)).length < n →
    ∀ rest, Source.readItems n (renderItems (j :: js) ++ ']' :: rest) = some (vs, rest)
  | j, [], vs, h, n + 1, hf, rest => by
    obtain ⟨v, ws, hv, hws, rfl⟩ := sources?_cons h
    cases hws
    rw [renderItems] at hf ⊢
    exact Source.readItems_last (read_render hv (by omega) _)
  | j, i :: js, vs, h, n + 1, hf, rest => by
    obtain ⟨v, ws, hv, hws, rfl⟩ := sources?_cons h
    rw [renderItems] at hf ⊢
    rw [List.length_append, List.length_cons] at hf
    rw [List.append_assoc, List.cons_append,
      Source.readItems_more (read_render hv (by omega) _), readItems_render hws (by omega)]
    rfl

theorem readMembers_render : ∀ {m : String × Json} {more : List (String × Json)}
    {ms : List (Option String × Source)}, memberSources? (m :: more) = some ms →
    ∀ {n : Nat}, (renderMembers (m :: more)).length < n →
    ∀ rest, Source.readMembers n (renderMembers (m :: more) ++ '\x7d' :: rest) =
      some (ms, rest)
  | (k, j), [], ms, h, n + 1, hf, rest => by
    obtain ⟨v, ns, hv, hns, rfl⟩ := memberSources?_cons h
    cases hns
    rw [renderMembers] at hf ⊢
    rw [List.length_append, List.length_cons] at hf
    rw [stringText, List.cons_append, List.cons_append, List.append_assoc, List.append_assoc]
    exact Source.readMembers_last (Source.readString_escaped k _) (read_render hv (by omega) _)
  | (k, j), m :: more, ms, h, n + 1, hf, rest => by
    obtain ⟨v, ns, hv, hns, rfl⟩ := memberSources?_cons h
    rw [renderMembers] at hf ⊢
    simp only [List.length_append, List.length_cons] at hf
    have hmore := Source.readMembers_more (Source.readString_escaped k _) (read_render hv
      (n := n) (by omega) (',' :: (renderMembers (m :: more) ++ '\x7d' :: rest)))
    rw [readMembers_render hns (by omega)] at hmore
    rw [stringText]
    simpa only [List.cons_append, List.append_assoc, List.nil_append, Option.map_some] using hmore

end

/-- **Reading what was written.** The text of a document without numbers is read as that
document, its texts and names as they were. -/
theorem parse_toText {j : Json} {v : Source} (h : source? j = some v) :
    Source.parse j.toText = some v := by
  have hread := read_render h (n := 2 * (render j).length + 1) (by omega) []
  rw [List.append_nil] at hread
  rw [Source.parse, toText, String.toList_ofList, hread]
  rfl

end Json

end TypedSeries
