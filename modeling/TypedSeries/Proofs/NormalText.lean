import TypedSeries.Proofs.ColumnNames
import TypedSeries.Proofs.QueryPaths
import TypedSeries.Proofs.WholeNumbers

/-!
# The normal form of query text

Query text that is read, typed after its columns and written again is in a form of its own: the
range said once, every literal in quotes.

1. What is read has a range that reaches back (`Pipeline.amount_of_parse`) and plain columns, so
   what is written of it reads as the plan's own pipeline.
2. A literal that its column's kind cannot read is kept, and the kind cannot read its text either
   (`Value.coerce_toText_of_none`): an integer's text is no truth value, and the text of a double
   that is no integer is none. One that the kind can read is the same value again.
3. So a literal that has been typed once has one text from then on
   (`Filter.toText_toPredicate_again`).

**Main.** `Pipeline.normalText_normalText`: the normal form of a text is its own normal form.
-/

namespace TypedSeries

open Grammar

/-! ## Ranges that are read -/

theorem Grammar.amount_of_stages {stages : List Stage} {us : List (List Char)}
    (h : StagesTokens stages us) :
    ∀ r ∈ stages.filterMap Stage.range?, 0 ≤ r.amount.toInt := by
  induction h with
  | nil => exact fun r hr => nomatch hr
  | cons hs _ ih =>
    cases hs with
    | filter => exact ih
    | range ht =>
      intro r hr
      rcases List.mem_cons.1 hr with rfl | hr
      · exact Range.amount_of_read (Range.read_eq_some_iff.2 ht)
      · exact ih r hr

/-- A range that is read from a text reaches back. -/
theorem Pipeline.amount_of_parse {s : String} {p : Pipeline} (h : Pipeline.parse s = .ok p) :
    ∀ r ∈ p.range, 0 ≤ r.amount.toInt := by
  obtain ⟨bucket, stages, us, hus, rfl⟩ := stages_of_parse h
  intro r hr
  rw [ofStages_eq] at hr
  exact amount_of_stages hus r (List.mem_of_getLast? hr)

/-- The text of a plan that is read from a text reads as the plan's pipeline. -/
theorem Pipeline.parse_toPlan_toText {s : String} {p : Pipeline} (h : Pipeline.parse s = .ok p)
    (kindOf : String → Option Kind) :
    Pipeline.parse (p.toPlan kindOf).toText = .ok (p.toPlan kindOf).pipeline := by
  refine parse_toText ?_ fun q hq => ?_
  · show 0 ≤ (p.range.getD .standard).amount.toInt
    cases hr : p.range with
    | none => exact (by decide : 0 ≤ Range.standard.amount.toInt)
    | some r => exact amount_of_parse h r hr
  · obtain ⟨f, hf, rfl⟩ := List.mem_map.1 hq
    exact plainName_of_parse h f hf

/-! ## Literals that are read again -/

namespace Value

theorem readBoolean_eq_none {cs : List Char} (h : 'e' ∉ cs) : readBoolean cs = none := by
  unfold readBoolean
  rw [if_neg, if_neg]
  · rintro rfl
    exact h (by decide)
  · rintro rfl
    exact h (by decide)

/-- What a kind cannot read, it cannot read as text. -/
theorem coerce_toText_of_none {v : Value} {k : Kind} (h : v.coerce k = none) :
    (text v.toText).coerce k = none := by
  cases v with
  | text s => exact h
  | integer i =>
    cases k with
    | boolean =>
      have he : 'e' ∉ integerText i := by
        intro he
        rcases mem_integerText he with he | he
        · exact absurd he (by decide)
        · exact absurd he (by decide)
      simp only [toText, coerce, String.toList_ofList]
      rw [trim_eq_self fun _ => not_isBlank_integerText, readBoolean_eq_none he]
      rfl
    | _ => cases h
  | number x =>
    cases k with
    | integer =>
      have hx : x.toInt? = none := by simpa [coerce] using h
      simp only [toText, coerce, String.toList_ofList]
      rw [trim_eq_self fun _ => not_isBlank_toText, readInteger_toText_eq_none hx]
      rfl
    | boolean =>
      have he : 'e' ∉ x.toText := by
        intro he
        rcases mem_toText he with he | he
        · exact absurd he (by decide)
        · exact absurd he (by decide)
      simp only [toText, coerce, String.toList_ofList]
      rw [trim_eq_self fun _ => not_isBlank_toText, readBoolean_eq_none he]
      rfl
    | _ => cases h
  | boolean b =>
    cases k with
    | integer => cases b <;> decide +kernel
    | number => cases b <;> decide +kernel
    | _ => cases h

end Value

/-- The text of a typed literal says the same after it has been typed again. -/
theorem Predicate.toText_of_toText (column : String) (kind : Kind) (op : Operator) (v : Value) :
    (of column kind op (.text (of column kind op v).value.toText)).value.toText =
      (of column kind op v).value.toText := by
  unfold of
  dsimp only
  cases hv : v.coerce kind with
  | none =>
    rw [Option.getD_none, Value.coerce_toText_of_none hv]
    rfl
  | some w =>
    have hw := Value.coerce_toText w
    rw [Value.kind_of_coerce hv] at hw
    rw [Option.getD_some, hw]
    rfl

/-- A filter that has been typed and written keeps its text when it is typed again. -/
theorem Filter.toText_toPredicate_again (f : Filter) (kindOf : String → Option Kind) :
    ((f.toPredicate kindOf).filter.toPredicate kindOf).value.toText =
      (f.toPredicate kindOf).value.toText := by
  cases hk : kindOf f.column with
  | some k =>
    have htyped : ∀ v, (Filter.mk f.column f.op v).toPredicate kindOf = .of f.column k f.op v := by
      intro v
      unfold toPredicate
      rw [hk]
      rfl
    show ((Filter.mk f.column f.op _).toPredicate kindOf).value.toText = _
    rw [htyped]
    have hf : f.toPredicate kindOf = .of f.column k f.op f.literal := htyped f.literal
    rw [hf]
    exact Predicate.toText_of_toText f.column k f.op f.literal
  | none =>
    -- a column of no known kind takes the text as it is
    show (Predicate.of f.column ((kindOf f.column).getD .string) f.op
      (.text (f.toPredicate kindOf).value.toText)).value.toText = _
    rw [hk]
    rfl

theorem Predicate.render_congr {p q : Predicate} (hc : p.column = q.column) (ho : p.op = q.op)
    (hv : p.value.toText = q.value.toText) : p.render = q.render := by
  unfold render
  rw [hc, ho, hv]

/-! ## Whole texts -/

/-- The text of what a query text means: read, typed after its columns and written again. -/
def Pipeline.normalText (kindOf : String → Option Kind) (s : String) : Except QueryError String :=
  (Pipeline.parse s).map fun p => (p.toPlan kindOf).toText

/-- A plan that has been written and read again is written as it was. -/
theorem Pipeline.toText_toPlan_again (p : Pipeline) (kindOf : String → Option Kind) :
    ((p.toPlan kindOf).pipeline.toPlan kindOf).toText = (p.toPlan kindOf).toText := by
  have hfilters : ((p.toPlan kindOf).pipeline.toPlan kindOf).predicates.flatMap Predicate.render =
      (p.toPlan kindOf).predicates.flatMap Predicate.render := by
    show (((p.filters.map (·.toPredicate kindOf)).map (·.filter)).map
      (·.toPredicate kindOf)).flatMap _ = (p.filters.map (·.toPredicate kindOf)).flatMap _
    simp only [List.map_map, List.flatMap_map]
    refine List.flatMap_congr fun f _ => ?_
    exact Predicate.render_congr rfl rfl (f.toText_toPredicate_again kindOf)
  unfold Plan.toText Plan.render
  rw [hfilters]
  rfl

/-- **Normal form.** Whatever kinds the columns have, the normal form of a query text is query text
and is its own normal form. -/
theorem Pipeline.normalText_normalText {kindOf : String → Option Kind} {s normal : String}
    (h : normalText kindOf s = .ok normal) : normalText kindOf normal = .ok normal := by
  unfold normalText at h ⊢
  cases hp : Pipeline.parse s with
  | error e =>
    rw [hp] at h
    cases h
  | ok p =>
    rw [hp] at h
    obtain rfl : (p.toPlan kindOf).toText = normal := Except.ok.inj h
    rw [parse_toPlan_toText hp kindOf]
    exact congrArg Except.ok (p.toText_toPlan_again kindOf)

/-- A text with bare literals, blanks at will, a range said twice and a literal that its column's
kind cannot read. -/
def looseText : String :=
  "from(bucket: \"rooms\")|>filter(fn: (r) => r.floor>1.5)\n|> range(start: -2h) " ++
    "|> filter(fn: (r) => r.wing = 007) |> range(start:-3d)  "

def tightText : String :=
  "from(bucket: \"rooms\") |> range(start: -3d) |> filter(fn: (r) => r.floor > \"1.5\") " ++
    "|> filter(fn: (r) => r.wing = \"7\")"

/-- Texts in the wings of a house, whole numbers elsewhere. -/
def houseKinds (column : String) : Option Kind :=
  if column = "wing" then some .string else some .integer

theorem normalText_looseText : Pipeline.normalText houseKinds looseText = .ok tightText ∧
    Pipeline.normalText houseKinds tightText = .ok tightText := by
  have hloose : Pipeline.normalText houseKinds looseText = .ok tightText := by decide +kernel
  exact ⟨hloose, Pipeline.normalText_normalText hloose⟩

end TypedSeries
