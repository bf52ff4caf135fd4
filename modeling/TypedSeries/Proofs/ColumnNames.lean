import TypedSeries.Proofs.PipelineGrammar

/-!
# Columns that query text can name

A record type takes every column name that is not reserved, and query text writes a column as it is,
without quotes. So there are columns that a plan can filter on and its text cannot.

1. Whatever text is read, its filters have plain columns: letters, numbers and low lines
   (`Pipeline.plainName_of_parse`).
2. A plan whose columns are plain is read back from its text as its bucket, its range and its
   filters (`parse_toText`), and so no other plan is (`Plan.parse_toText_eq_ok_iff`).

**Main.** `RecordType.toText_says_columns`: the text of a plan over the columns of a record type
says exactly the plan's filters if the columns it filters on are plain, and never otherwise.
-/

namespace TypedSeries

open Grammar

/-! ## What is read has plain columns -/

theorem Grammar.plainName_of_stages {stages : List Stage} {us : List (List Char)}
    (h : StagesTokens stages us) : ∀ f ∈ stages.filterMap Stage.filter?, PlainName f.column := by
  induction h with
  | nil => exact fun f hf => nomatch hf
  | cons hs _ ih =>
    cases hs with
    | range => exact ih
    | filter hc =>
      intro f hf
      rcases List.mem_cons.1 hf with rfl | hf
      · exact hc
      · exact ih f hf

/-- A pipeline that is read from a text has stages that the grammar derives. -/
theorem Pipeline.stages_of_parse {s : String} {p : Pipeline} (h : Pipeline.parse s = .ok p) :
    ∃ bucket stages us, StagesTokens stages us ∧ p = .ofStages bucket stages := by
  unfold Pipeline.parse Pipeline.read at h
  split at h
  next => cases h
  next bucket rest _ =>
    dsimp only at h
    split at h
    next =>
      obtain ⟨us, hus, -⟩ := readStages_sound rest
      exact ⟨bucket, _, us, hus, (Except.ok.inj h).symm⟩
    next => cases h

/-- Each filter that is read from a text has a plain column. -/
theorem Pipeline.plainName_of_parse {s : String} {p : Pipeline} (h : Pipeline.parse s = .ok p) :
    ∀ f ∈ p.filters, PlainName f.column := by
  obtain ⟨bucket, stages, us, hus, rfl⟩ := stages_of_parse h
  rw [ofStages_eq]
  exact plainName_of_stages hus

/-- The text of a plan reads as the plan's pipeline exactly if the columns it filters on are
plain. -/
theorem Plan.parse_toText_eq_ok_iff {p : Plan} (hr : 0 ≤ p.range.amount.toInt) :
    Pipeline.parse p.toText = .ok p.pipeline ↔ ∀ q ∈ p.predicates, PlainName q.column := by
  constructor
  · intro h q hq
    exact Pipeline.plainName_of_parse h q.filter (List.mem_map_of_mem hq)
  · exact parse_toText hr

/-! ## Plans over a record type -/

/-- A plan over the columns of a record type: its range reaches back, or nowhere, and each of its
predicates compares a declared column. -/
structure Plan.Over (p : Plan) (t : RecordType) : Prop where
  amount_nonneg : 0 ≤ p.range.amount.toInt
  columns : ∀ q ∈ p.predicates, ∃ f ∈ t.fields, q.column = f.name

/-- The plan with one comparison of a column. -/
def Field.onlyFilter (f : Field) (bucket : String) : Plan :=
  (Plan.ofBucket bucket).filterBy (f.compareWith .equal (.text ""))

theorem Field.over_onlyFilter {t : RecordType} {f : Field} (hf : f ∈ t.fields) (bucket : String) :
    (f.onlyFilter bucket).Over t where
  amount_nonneg := (by decide : 0 ≤ Range.standard.amount.toInt)
  columns := fun q hq => ⟨f, hf, by rw [List.mem_singleton.1 hq]; rfl⟩

/-- **Columns in query text.** The text of a plan over the columns of a record type reads as exactly
the plan's bucket, its range and its filters, each literal as text, if and only if every column it
filters on is plain. So all plans over the type read back exactly if all its columns are plain. -/
theorem RecordType.toText_says_columns (t : RecordType) :
    (∀ p : Plan, p.Over t →
      (Pipeline.parse p.toText = .ok ⟨p.bucket, some p.range,
          p.predicates.map fun q => ⟨q.column, q.op, .text q.value.toText⟩⟩ ↔
        ∀ q ∈ p.predicates, PlainName q.column)) ∧
      ((∀ p : Plan, p.Over t → Pipeline.parse p.toText = .ok ⟨p.bucket, some p.range,
          p.predicates.map fun q => ⟨q.column, q.op, .text q.value.toText⟩⟩) ↔
        ∀ f ∈ t.fields, PlainName f.name) := by
  refine ⟨fun p hp => p.parse_toText_eq_ok_iff hp.amount_nonneg, fun h f hf => ?_, ?_⟩
  · have hover := f.over_onlyFilter hf t.name
    have hplain := (Plan.parse_toText_eq_ok_iff hover.amount_nonneg).1 (h _ hover)
    exact hplain _ (List.mem_singleton_self _)
  · intro h p hp
    refine parse_toText hp.amount_nonneg fun q hq => ?_
    obtain ⟨f, hf, hcol⟩ := hp.columns q hq
    exact hcol ▸ h f hf

/-! ## Columns that cannot be said -/

/-- A column whose name has a sign in it. -/
def rawColumn : Field := ⟨"r#type", .string, .tag⟩

/-- A column whose name goes on like query text. -/
def splitColumn : Field := ⟨"v = \"1\") |> filter(fn: (r) => r.v", .integer, .field⟩

/-- A record type with two columns that query text cannot name and one that it can. -/
def tangledType : RecordType where
  name := "tangled"
  fields := [rawColumn, splitColumn, ⟨"v", .integer, .field⟩]
  wellFormed := fault_eq_none_iff.1 (by decide +kernel)

/-- The plain column of the type is read back, and the other two are not. -/
theorem toText_says_plainColumn :
    ((⟨"v", .integer, .field⟩ : Field).onlyFilter "tangled").Over tangledType ∧
      Pipeline.parse ((⟨"v", .integer, .field⟩ : Field).onlyFilter "tangled").toText =
        .ok ⟨"tangled", some .standard, [⟨"v", .equal, .text ""⟩]⟩ := by
  have hover : ((⟨"v", .integer, .field⟩ : Field).onlyFilter "tangled").Over tangledType :=
    Field.over_onlyFilter (by decide +kernel) _
  refine ⟨hover, ((RecordType.toText_says_columns tangledType).1 _ hover).2 fun q hq => ?_⟩
  rw [List.mem_singleton.1 hq]
  exact (by decide +kernel : PlainName "v")

/-- The plan that the text of a filter on `splitColumn` says. -/
def splitPlan : Plan :=
  ⟨"tangled", .standard,
    [.of "v" .integer .equal (.integer 1), .of "v" .integer .equal (.text "")]⟩

theorem Grammar.readStages_of_error {cs : List Char} {e : Stuck} (h : pipedStage cs = .error e) :
    readStages cs = ([], cs) := by
  rw [readStages, h]

/-- One column of a type makes the text of a filter on it unreadable, another makes it two filters
on a column that the plan does not ask about. -/
theorem toText_of_tangledColumns :
    (rawColumn.onlyFilter "tangled").Over tangledType ∧
      Pipeline.parse (rawColumn.onlyFilter "tangled").toText =
        .error (.leftOver "|> filter(fn: (r) => r.r#type = \"\")") ∧
      (splitColumn.onlyFilter "tangled").Over tangledType ∧
      Pipeline.parse (splitColumn.onlyFilter "tangled").toText =
        .ok ⟨"tangled", some .standard, [⟨"v", .equal, .text "1"⟩, ⟨"v", .equal, .text ""⟩]⟩ := by
  refine ⟨Field.over_onlyFilter (by decide +kernel) _, ?_,
    Field.over_onlyFilter (by decide +kernel) _, ?_⟩
  · let rest := " |> filter(fn: (r) => r.r#type = \"\")".toList
    have hsource : readSource (skipSpaces (rawColumn.onlyFilter "tangled").toText.toList) =
      .ok ("tangled", " |> range(start: ".toList ++ (Range.standard.render ++ ')' :: rest)) := rfl
    have hfilter : pipedStage rest = .error ⟨"#type = \"\")".toList, .word⟩ := by decide +kernel
    have hstages := readStages_cons (pipedStage_range (r := .standard) (by decide) rest) (by decide)
    rw [readStages_of_error hfilter] at hstages
    unfold Pipeline.parse Pipeline.read
    simp only [hsource, hstages]
    rfl
  · have hsplit : (splitColumn.onlyFilter "tangled").toText = splitPlan.toText := by decide +kernel
    rw [hsplit]
    exact parse_toText (by decide) (by decide +kernel)

end TypedSeries
