import TypedSeries.Proofs.PipelineGrammar

/-!
# Ranges as text

A range in text stands between white space of any script, and inside it there is nothing to choose:
a minus sign, digits of ASCII, the letters of a unit.

1. Trimming finds the text without white space at its ends that another text frames
   (`trim_eq_iff`).
2. No character of a range's text is white space, so a text reads as a range exactly if it frames
   the range's text (`Range.parse_eq_ok_iff_framed`).
3. The digits stop where the unit begins, so no text says two amounts or two units
   (`Range.Says.unique`).
4. The text of a range is read back unless the amount is negative, when there is a second sign
   (`Range.read_render_of_neg`).

**Main.** `Range.parse_iff_says`: which texts are ranges, and which ranges they are.
-/

namespace TypedSeries

open Grammar

/-! ## Framed texts -/

/-- A text with white space of any script before it and after it. -/
def Framed (t cs : List Char) : Prop :=
  ∃ front back, (∀ c ∈ front, isBlank c = true) ∧ (∀ c ∈ back, isBlank c = true) ∧
    cs = front ++ (t ++ back)

/-- What a framed text holds that is not white space is in the text. -/
theorem Framed.mem {t cs : List Char} (h : Framed t cs) {c : Char} (hc : c ∈ cs)
    (hb : isBlank c = false) : c ∈ t := by
  obtain ⟨front, back, hfront, hback, rfl⟩ := h
  rcases List.mem_append.1 hc with hc | hc
  · rw [hfront c hc] at hb
    cases hb
  · rcases List.mem_append.1 hc with hc | hc
    · exact hc
    · rw [hback c hc] at hb
      cases hb

theorem trimLeft_eq_iff {t cs : List Char} : trimLeft cs = t ↔
    ∃ front, (∀ c ∈ front, isBlank c = true) ∧ cs = front ++ t ∧ Stops isBlank t := by
  constructor
  · intro h
    obtain ⟨hcs, hfront, hstop⟩ := run_iff.1 ⟨rfl, h⟩
    exact ⟨_, hfront, hcs, hstop⟩
  · rintro ⟨front, hfront, rfl, hstop⟩
    exact (run_iff.2 ⟨rfl, hfront, hstop⟩).2

theorem Stops.of_append {p : Char → Bool} {t u : List Char} (h : Stops p (t ++ u)) :
    Stops p t := by
  intro c hc
  cases t with
  | nil => cases hc
  | cons d t => exact h c hc

theorem Stops.append {p : Char → Bool} {t : List Char} (h : Stops p t) (hne : t ≠ [])
    (u : List Char) : Stops p (t ++ u) := by
  obtain ⟨d, t, rfl⟩ := List.exists_cons_of_ne_nil hne
  exact fun c hc => h c hc

/-- Trimming a text gives the one that it frames and that neither begins nor ends with white
space. -/
theorem trim_eq_iff {t cs : List Char} :
    trim cs = t ↔ Framed t cs ∧ Stops isBlank t ∧ Stops isBlank t.reverse := by
  constructor
  · rintro rfl
    obtain ⟨front, hfront, hcs, hstop⟩ := trimLeft_eq_iff.1 (rfl : trimLeft cs = _)
    obtain ⟨back, hback, hrev, hstop'⟩ :=
      trimLeft_eq_iff.1 (rfl : trimLeft (trimLeft cs).reverse = _)
    have hleft : trimLeft cs = trim cs ++ back.reverse := by
      rw [trim, ← List.reverse_append, ← hrev, List.reverse_reverse]
    refine ⟨⟨front, back.reverse, hfront, fun c hc => hback c (List.mem_reverse.1 hc), ?_⟩, ?_, ?_⟩
    · rw [← hleft]
      exact hcs
    · rw [hleft] at hstop
      exact hstop.of_append
    · rw [trim, List.reverse_reverse]
      exact hstop'
  · rintro ⟨⟨front, back, hfront, hback, rfl⟩, hstop, hstop'⟩
    by_cases hne : t = []
    · subst hne
      refine trim_eq_nil_iff.2 fun c hc => ?_
      rw [List.nil_append] at hc
      exact (List.mem_append.1 hc).elim (hfront c) (hback c)
    · have hleft : trimLeft (front ++ (t ++ back)) = t ++ back :=
        trimLeft_eq_iff.2 ⟨front, hfront, rfl, hstop.append hne back⟩
      have hright : trimLeft (t ++ back).reverse = t.reverse :=
        trimLeft_eq_iff.2 ⟨back.reverse, fun c hc => hback c (List.mem_reverse.1 hc),
          List.reverse_append, hstop'⟩
      rw [trim, hleft, hright, List.reverse_reverse]

theorem trim_eq_iff_framed {t cs : List Char} (ht : ∀ c ∈ t, isBlank c = false) :
    trim cs = t ↔ Framed t cs := by
  have hstop : Stops isBlank t := fun c hc => ht c (List.mem_of_head? hc)
  have hstop' : Stops isBlank t.reverse := fun c hc =>
    ht c (List.mem_reverse.1 (List.mem_of_head? hc))
  rw [trim_eq_iff]
  exact ⟨And.left, fun h => ⟨h, hstop, hstop'⟩⟩

/-! ## Characters of a range -/

theorem toNat_of_isAsciiAlphanumeric {c : Char} (h : isAsciiAlphanumeric c = true) :
    48 ≤ c.toNat ∧ c.toNat ≤ 122 := by
  have hc : (48 ≤ c.toNat ∧ c.toNat ≤ 57 ∨ 97 ≤ c.toNat ∧ c.toNat ≤ 122) ∨
      65 ≤ c.toNat ∧ c.toNat ≤ 90 := by
    simpa [isAsciiAlphanumeric, Char.le_def, UInt32.le_iff_toNat_le] using h
  omega

theorem not_isBlank_of_isAsciiAlphanumeric {c : Char} (h : isAsciiAlphanumeric c = true) :
    isBlank c = false := by
  have hc := toNat_of_isAsciiAlphanumeric h
  simp only [isBlank, inRanges, blankRanges, List.any_cons, List.any_nil, Bool.or_false,
    Bool.or_eq_false_iff, Bool.and_eq_false_iff, decide_eq_false_iff_not]
  omega

theorem isAsciiAlphanumeric_of_mem_suffix {u : TimeUnit} {c : Char} (h : c ∈ u.suffix) :
    isAsciiAlphanumeric c = true := by
  obtain ⟨d, ds, hu, -, hall⟩ := exists_cons_suffix u
  exact List.all_eq_true.1 hall c (hu ▸ h)

/-- The text of digits and a unit is a minus sign and ASCII letters and digits. -/
theorem mem_rangeText {ds : List Char} (hd : ∀ c ∈ ds, c.isDigit = true) {u : TimeUnit} {c : Char}
    (h : c ∈ '-' :: (ds ++ u.suffix)) : c = '-' ∨ isAsciiAlphanumeric c = true := by
  rcases List.mem_cons.1 h with h | h
  · exact .inl h
  · rcases List.mem_append.1 h with h | h
    · exact .inr (isAsciiAlphanumeric_of_isDigit (hd c h))
    · exact .inr (isAsciiAlphanumeric_of_mem_suffix h)

theorem not_isBlank_rangeText {ds : List Char} (hd : ∀ c ∈ ds, c.isDigit = true) {u : TimeUnit} :
    ∀ c ∈ '-' :: (ds ++ u.suffix), isBlank c = false := by
  intro c hc
  rcases mem_rangeText hd hc with rfl | hc
  · decide
  · exact not_isBlank_of_isAsciiAlphanumeric hc

namespace Range

/-! ## Texts that are ranges -/

/-- A range's text: digits of its amount, which may begin with zeros, and its unit. -/
theorem rangeToken_iff {r : Range} {t : List Char} : RangeToken r t ↔
    ∃ ds : List Char, ds ≠ [] ∧ (∀ c ∈ ds, c.isDigit = true) ∧
      r.amount.toInt = digitsValue ds ∧ t = '-' :: (ds ++ r.unit.suffix) := by
  have hbound : int64Bound = 9223372036854775808 := rfl
  constructor
  · rintro ⟨hne, hd, hlt, u⟩
    refine ⟨_, hne, hd, ?_, rfl⟩
    exact Int64.toInt_ofInt_of_le (by omega) (by omega)
  · rintro ⟨ds, hne, hd, hamount, rfl⟩
    have hlt : digitsValue ds < int64Bound := by
      have := r.amount.toInt_lt
      omega
    have hr : r = ⟨Int64.ofInt (digitsValue ds), r.unit⟩ := by
      rw [← hamount, Int64.ofInt_toInt]
    rw [hr]
    exact .intro hne hd hlt r.unit

theorem parse_eq_ok_iff_read {s : String} {r : Range} :
    parse s = .ok r ↔ read (trim s.toList) = some r := by
  unfold parse
  cases read (trim s.toList) <;> simp

/-- A text is read as a range exactly if it frames a text of the range. -/
theorem parse_eq_ok_iff_framed {s : String} {r : Range} :
    parse s = .ok r ↔ ∃ t, RangeToken r t ∧ Framed t s.toList := by
  rw [parse_eq_ok_iff_read, read_eq_some_iff]
  constructor
  · exact fun h => ⟨_, h, (trim_eq_iff.1 rfl).1⟩
  · rintro ⟨t, ht, hframed⟩
    obtain ⟨ds, -, hd, -, rfl⟩ := rangeToken_iff.1 ht
    rwa [(trim_eq_iff_framed (not_isBlank_rangeText hd)).2 hframed]

/-- A text that says digits and a unit: between white space of any script a minus sign, one digit
of ASCII or more, of a value that 64 bits hold, and the letters of the unit. -/
structure Says (s : String) (ds : List Char) (u : TimeUnit) : Prop where
  nonempty : ds ≠ []
  digits : ∀ c ∈ ds, c.isDigit = true
  bounded : (digitsValue ds : Int) ≤ Int64.maxValue.toInt
  framed : Framed ('-' :: (ds ++ u.suffix)) s.toList

namespace Says

variable {s : String} {ds ds' : List Char} {u u' : TimeUnit}

/-- What a text says, it is read as. -/
theorem parse (h : Says s ds u) : ∃ r, Range.parse s = .ok r ∧
    r.amount.toInt = digitsValue ds ∧ r.unit = u := by
  have hmax : Int64.maxValue.toInt = 9223372036854775807 := rfl
  have hbounded := h.bounded
  have hamount : (Int64.ofInt (digitsValue ds)).toInt = digitsValue ds :=
    Int64.toInt_ofInt_of_le (by omega) (by omega)
  refine ⟨⟨Int64.ofInt (digitsValue ds), u⟩, parse_eq_ok_iff_framed.2 ?_, hamount, rfl⟩
  exact ⟨_, rangeToken_iff.2 ⟨ds, h.nonempty, h.digits, hamount, rfl⟩, h.framed⟩

/-- The digits go up to the first letter, and the letters are one unit. -/
theorem unique (h : Says s ds u) (h' : Says s ds' u') : ds = ds' ∧ u = u' := by
  have htrim := (trim_eq_iff_framed (not_isBlank_rangeText h.digits)).2 h.framed
  have htrim' := (trim_eq_iff_framed (not_isBlank_rangeText h'.digits)).2 h'.framed
  have htext : ds ++ u.suffix = ds' ++ u'.suffix :=
    List.tail_eq_of_cons_eq (htrim.symm.trans htrim')
  obtain ⟨hdigits, hunit⟩ := run_iff.2 ⟨rfl, h.digits, stops_suffix u⟩
  obtain ⟨hdigits', hunit'⟩ := run_iff.2 ⟨rfl, h'.digits, stops_suffix u'⟩
  rw [← htext] at hdigits' hunit'
  have hsuffix : TimeUnit.ofSuffix? u.suffix = TimeUnit.ofSuffix? u'.suffix := by
    rw [hunit.symm.trans hunit']
  rw [TimeUnit.ofSuffix?_suffix, TimeUnit.ofSuffix?_suffix] at hsuffix
  exact ⟨hdigits.symm.trans hdigits', Option.some.inj hsuffix⟩

/-- No character of another script stands in a text that says a range. -/
theorem toNat_lt (h : Says s ds u) {c : Char} (hc : c ∈ s.toList) (hb : isBlank c = false) :
    c.toNat < 128 := by
  rcases mem_rangeText h.digits (h.framed.mem hc hb) with rfl | hc
  · decide
  · have := (toNat_of_isAsciiAlphanumeric hc).2
    omega

end Says

theorem says_of_parse {s : String} {r : Range} (h : parse s = .ok r) :
    ∃ ds, Says s ds r.unit := by
  obtain ⟨t, ht, hframed⟩ := parse_eq_ok_iff_framed.1 h
  obtain ⟨ds, hne, hd, hamount, rfl⟩ := rangeToken_iff.1 ht
  refine ⟨ds, hne, hd, ?_, hframed⟩
  rw [← hamount]
  exact Int.le_of_lt_add_one r.amount.toInt_lt

/-- A text that is no range is named by the error. -/
theorem parse_eq_error_iff {s : String} {e : QueryError} :
    parse s = .error e ↔ (∀ r, parse s ≠ .ok r) ∧ e = .invalidRange s := by
  unfold parse
  cases read (trim s.toList) <;> simp [eq_comm]

/-! ## Ranges as they are written -/

theorem not_isBlank_render (r : Range) : ∀ c ∈ r.render, isBlank c = false := by
  intro c hc
  rcases List.mem_cons.1 hc with rfl | hc
  · decide
  · rcases List.mem_append.1 hc with hc | hc
    · exact not_isBlank_integerText hc
    · exact not_isBlank_of_isAsciiAlphanumeric (isAsciiAlphanumeric_of_mem_suffix hc)

theorem trim_toText (r : Range) : trim r.toText.toList = r.render := by
  rw [toText, String.toList_ofList, trim_eq_self r.not_isBlank_render]

/-- A negative amount is written with a second sign, where digits are looked for. -/
theorem read_render_of_neg {r : Range} (h : r.amount.toInt < 0) : read r.render = none := by
  have hrender : r.render =
      '-' :: '-' :: (decimalDigits r.amount.toInt.natAbs ++ r.unit.suffix) := by
    have htext : integerText r.amount = '-' :: decimalDigits r.amount.toInt.natAbs := by
      unfold integerText
      exact congrArg (· ++ _) (if_pos h)
    rw [render, htext, List.cons_append]
  rw [hrender]
  rfl

/-- **Ranges as text.** A text is read as a range if and only if, between white space of any script,
it is a minus sign, one digit of ASCII or more, of a value that 64 bits hold, and the letters of a
unit; it is then the range of that amount and that unit, and there is one way only to see digits
and a unit in it. Every other text is refused by name, such as one with a digit of another script.
The text of a range reads back as the range if its amount is not negative, and is refused if it
is. -/
theorem parse_iff_says :
    (∀ s, (∃ r, parse s = .ok r) ↔ ∃ ds u, Says s ds u) ∧
    (∀ s ds u, Says s ds u →
      (∃ r, parse s = .ok r ∧ r.amount.toInt = digitsValue ds ∧ r.unit = u) ∧
        ∀ ds' u', Says s ds' u' → ds' = ds ∧ u' = u) ∧
    (∀ s, parse s = .error (.invalidRange s) ↔ ¬ ∃ ds u, Says s ds u) ∧
    (∀ s, ∀ c ∈ s.toList, isBlank c = false → 128 ≤ c.toNat →
      parse s = .error (.invalidRange s)) ∧
    (∀ r : Range, 0 ≤ r.amount → parse r.toText = .ok r) ∧
    ∀ r : Range, r.amount < 0 → parse r.toText = .error (.invalidRange r.toText) := by
  have hok : ∀ s, (∃ r, parse s = .ok r) ↔ ∃ ds u, Says s ds u := by
    intro s
    constructor
    · rintro ⟨r, hr⟩
      obtain ⟨ds, hsaid⟩ := says_of_parse hr
      exact ⟨ds, r.unit, hsaid⟩
    · rintro ⟨ds, u, hsaid⟩
      obtain ⟨r, hr, -⟩ := hsaid.parse
      exact ⟨r, hr⟩
  have herror : ∀ s, parse s = .error (.invalidRange s) ↔ ¬ ∃ ds u, Says s ds u := by
    intro s
    rw [parse_eq_error_iff, ← hok]
    simp
  refine ⟨hok, fun s ds u h => ⟨h.parse, fun ds' u' h' => h'.unique h⟩, herror, ?_, ?_, ?_⟩
  · intro s c hc hb hge
    refine (herror s).2 ?_
    rintro ⟨ds, u, hsaid⟩
    have hlt := hsaid.toNat_lt hc hb
    omega
  · intro r hr
    refine parse_eq_ok_iff_read.2 ?_
    rw [trim_toText, read_render (Int64.le_iff_toInt_le.1 hr)]
  · intro r hr
    refine parse_eq_error_iff.2 ⟨fun r' h => ?_, rfl⟩
    rw [parse_eq_ok_iff_read, trim_toText, read_render_of_neg (Int64.lt_iff_toInt_lt.1 hr)] at h
    cases h

/-- Seven milliseconds in a text with blanks and leading zeros. The same with an Arabic digit is no
range. -/
theorem parse_iff_says_milliseconds :
    (∃ r, parse "\u2003-007ms\n" = .ok r ∧ r.amount.toInt = 7 ∧ r.unit = .millisecond) ∧
      parse "-\u0667ms" = .error (.invalidRange "-\u0667ms") ∧
      parse (toText ⟨Int64.maxValue, .week⟩) = .ok ⟨Int64.maxValue, .week⟩ ∧
      parse (toText ⟨-1, .hour⟩) = .error (.invalidRange (toText ⟨-1, .hour⟩)) := by
  obtain ⟨-, hsaid, -, hscript, hback, hneg⟩ := parse_iff_says
  have hms : Says "\u2003-007ms\n" ['0', '0', '7'] .millisecond :=
    ⟨by decide, List.all_eq_true.1 (by decide), by decide, ['\u2003'], ['\n'],
      List.all_eq_true.1 (by decide), List.all_eq_true.1 (by decide), by decide⟩
  refine ⟨(hsaid _ _ _ hms).1, hscript _ '\u0667' (by decide) (by decide) (by decide), ?_, ?_⟩
  · exact hback _ (by decide)
  · exact hneg _ (by decide)

end Range

end TypedSeries
