import TypedSeries.Pipeline.Grammar
import TypedSeries.Proofs.NativeOrder
import TypedSeries.Proofs.NumberText

/-!
# Plans as query text

The text of a plan says the plan and nothing else, whatever its names and literals hold.

1. Each token is read off the front of what was written for it, with any text after it. A quoted
   literal ends at its own closing quote (`stringLiteral_quoteLiteral`); names, operators and
   ranges end at a character they cannot hold.
2. Stages are read one after the other, one filter for each predicate (`readStages_filters`), so
   the text of a plan reads as the plan's pipeline (`parse_toText`).
3. A literal is written as text. Read as its column's kind it is the literal again
   (`Predicate.of_toText`), so the pipeline means the plan (`Plan.toPlan_pipeline`).

**Main.** `Plan.toText_parses_back` puts the three together.
-/

namespace TypedSeries

open Grammar

/-! ## Tokens -/

theorem literalBody_escapeLiteral (cs rest : List Char) :
    literalBody (escapeLiteral cs ++ '"' :: rest) = some (cs, rest) := by
  induction cs with
  | nil => rfl
  | cons c cs ih =>
    have hcons : escapeLiteral (c :: cs) = literalChar c ++ escapeLiteral cs := rfl
    rw [hcons, List.append_assoc]
    unfold literalChar
    split
    next h => subst h; simp [literalBody, ih]
    next hq =>
      split
      next h => subst h; simp [literalBody, ih]
      next hb =>
        split
        next h => subst h; simp [literalBody, ih]
        next => simp [literalBody, hb, ih]

/-- A quoted literal ends at its own closing quote, whatever it holds and whatever follows. -/
theorem stringLiteral_quoteLiteral (cs rest : List Char) :
    stringLiteral (quoteLiteral cs ++ rest) = .ok (cs, rest) := by
  rw [quoteLiteral, List.cons_append, List.append_assoc, List.singleton_append, stringLiteral]
  simp only [literalBody_escapeLiteral]

theorem literal_quoteLiteral (cs rest : List Char) :
    literal (quoteLiteral cs ++ rest) = .ok (.text (String.ofList cs), rest) := by
  unfold literal
  simp only [stringLiteral_quoteLiteral]

/-- A name that query text can hold: letters, numbers and low lines, at least one of them. -/
def PlainName (s : String) : Prop := s.toList ≠ [] ∧ ∀ c ∈ s.toList, isNameChar c = true

instance (s : String) : Decidable (PlainName s) :=
  decidable_of_iff (s.toList ≠ [] ∧ s.toList.all isNameChar = true)
    (and_congr_right fun _ => List.all_eq_true)

theorem columnName_append {s : String} (h : PlainName s) (rest : List Char) :
    columnName (s.toList ++ ' ' :: rest) = .ok (s, ' ' :: rest) := by
  have hspace : ¬ isNameChar ' ' = true := by decide +kernel
  unfold columnName
  simp only [takeWhile_append_cons h.2 hspace, dropWhile_append_cons h.2 hspace]
  rw [if_neg h.1, String.ofList_toList]

theorem operator_symbol (op : Operator) (rest : List Char) :
    operator (op.symbol ++ ' ' :: rest) = .ok (op, ' ' :: rest) := by
  cases op <;> rfl

/-! ## Ranges -/

theorem isAsciiAlphanumeric_of_isDigit {c : Char} (h : c.isDigit = true) :
    isAsciiAlphanumeric c = true := by
  have hc : '0' ≤ c ∧ c ≤ '9' := by simpa [Char.isDigit, Char.le_def] using h
  simp [isAsciiAlphanumeric, hc.1, hc.2]

theorem exists_cons_suffix (u : TimeUnit) :
    ∃ c cs, u.suffix = c :: cs ∧ c.isDigit = false ∧ (c :: cs).all isAsciiAlphanumeric = true := by
  cases u <;> exact ⟨_, _, rfl, by decide, by decide⟩

theorem integerText_of_nonneg {i : Int64} (h : 0 ≤ i.toInt) :
    integerText i = decimalDigits i.toInt.natAbs := by
  unfold integerText
  dsimp only
  rw [if_neg (by omega), List.nil_append]

/-- A range that reaches back, or nowhere, reads back from its text. -/
theorem Range.read_render {r : Range} (h : 0 ≤ r.amount.toInt) : Range.read r.render = some r := by
  have hd := List.all_eq_true.1 (all_isDigit_decimalDigits r.amount.toInt.natAbs)
  have hlt : r.amount.toInt.natAbs < int64Bound := by
    have hb : int64Bound = 9223372036854775808 := rfl
    have := r.amount.toInt_lt
    omega
  obtain ⟨c, cs, hs, hc, -⟩ := exists_cons_suffix r.unit
  have hc : ¬ c.isDigit = true := by rw [hc]; exact Bool.false_ne_true
  unfold Range.render Range.read
  simp only [integerText_of_nonneg h, hs, takeWhile_append_cons hd hc, dropWhile_append_cons hd hc,
    readDigits_decimalDigits, Option.bind_some]
  rw [if_pos hlt, ← hs, TimeUnit.ofSuffix?_suffix, Option.map_some, Int.natAbs_of_nonneg h,
    Int64.ofInt_toInt]

theorem rangeStart_render {r : Range} (h : 0 ≤ r.amount.toInt) (rest : List Char) :
    rangeStart (r.render ++ ')' :: rest) = .ok (r, ')' :: rest) := by
  obtain ⟨c, cs, hs, -, hc⟩ := exists_cons_suffix r.unit
  have hall : ∀ d ∈ integerText r.amount ++ r.unit.suffix, isAsciiAlphanumeric d = true := by
    intro d hd
    rw [integerText_of_nonneg h] at hd
    rcases List.mem_append.1 hd with hd | hd
    · exact isAsciiAlphanumeric_of_isDigit (List.all_eq_true.1 (all_isDigit_decimalDigits _) d hd)
    · exact List.all_eq_true.1 hc d (hs ▸ hd)
  have hparen : ¬ isAsciiAlphanumeric ')' = true := by decide
  have hread := Range.read_render h
  unfold Range.render at hread ⊢
  rw [List.cons_append, rangeStart]
  simp only [takeWhile_append_cons hall hparen, dropWhile_append_cons hall hparen, hread]

/-! ## Stages -/

theorem rangeStage_render {r : Range} (h : 0 ≤ r.amount.toInt) (rest : List Char) :
    rangeStage ("range(start: ".toList ++ (r.render ++ ')' :: rest)) = .ok (r, rest) := by
  show (rangeStart (r.render ++ ')' :: rest) >>= _) = _
  rw [rangeStart_render h]
  rfl

/-- The filter stage a predicate is written as: its literal is quoted, so it reads as text. -/
def Predicate.filter (p : Predicate) : Filter := ⟨p.column, p.op, .text p.value.toText⟩

theorem filterStage_render {p : Predicate} (h : PlainName p.column) (rest : List Char) :
    filterStage ("filter(fn: (r) => r.".toList ++ (p.column.toList ++ ' ' :: (p.op.symbol ++
      ' ' :: (quoteLiteral p.value.toText.toList ++ ')' :: rest)))) = .ok (p.filter, rest) := by
  have hop : skipSpaces (' ' :: (p.op.symbol ++
      ' ' :: (quoteLiteral p.value.toText.toList ++ ')' :: rest))) = p.op.symbol ++
      ' ' :: (quoteLiteral p.value.toText.toList ++ ')' :: rest) := by
    cases p.op <;> rfl
  have hlit : skipSpaces (' ' :: (quoteLiteral p.value.toText.toList ++ ')' :: rest)) =
      quoteLiteral p.value.toText.toList ++ ')' :: rest := rfl
  show (columnName (p.column.toList ++ ' ' :: (p.op.symbol ++
    ' ' :: (quoteLiteral p.value.toText.toList ++ ')' :: rest))) >>= _) = _
  rw [columnName_append h]
  show (operator (skipSpaces (' ' :: (p.op.symbol ++
    ' ' :: (quoteLiteral p.value.toText.toList ++ ')' :: rest)))) >>= _) = _
  rw [hop, operator_symbol]
  show (literal (skipSpaces (' ' :: (quoteLiteral p.value.toText.toList ++
    ')' :: rest))) >>= _) = _
  rw [hlit, literal_quoteLiteral, String.ofList_toList]
  rfl

theorem pipedStage_range {r : Range} (h : 0 ≤ r.amount.toInt) (rest : List Char) :
    pipedStage (" |> range(start: ".toList ++ (r.render ++ ')' :: rest)) =
      .ok (.range r, rest) := by
  show stage ("range(start: ".toList ++ (r.render ++ ')' :: rest)) = _
  unfold stage
  rw [rangeStage_render h]

theorem pipedStage_filter {p : Predicate} (h : PlainName p.column) (rest : List Char) :
    pipedStage (p.render ++ rest) = .ok (.filter p.filter, rest) := by
  have hp : p.render ++ rest = " |> filter(fn: (r) => r.".toList ++ (p.column.toList ++
      ' ' :: (p.op.symbol ++ ' ' :: (quoteLiteral p.value.toText.toList ++ ')' :: rest))) := by
    unfold Predicate.render
    generalize " |> filter(fn: (r) => r.".toList = w
    simp
  rw [hp]
  generalize hcs : "filter(fn: (r) => r.".toList ++ (p.column.toList ++ ' ' :: (p.op.symbol ++
    ' ' :: (quoteLiteral p.value.toText.toList ++ ')' :: rest))) = cs
  have hpiped : pipedStage (" |> filter(fn: (r) => r.".toList ++ (p.column.toList ++
      ' ' :: (p.op.symbol ++ ' ' :: (quoteLiteral p.value.toText.toList ++ ')' :: rest)))) =
      stage cs := by subst hcs; rfl
  obtain ⟨e, hrange⟩ : ∃ e, rangeStage cs = .error e := by subst hcs; exact ⟨_, rfl⟩
  have hfilter : filterStage cs = .ok (p.filter, rest) := hcs ▸ filterStage_render h rest
  rw [hpiped, stage, hrange]
  dsimp only
  rw [hfilter]

theorem readStages_cons {cs rest : List Char} {s : Stage} (h : pipedStage cs = .ok (s, rest))
    (hlt : rest.length < cs.length) :
    readStages cs = (s :: (readStages rest).1, (readStages rest).2) := by
  rw [readStages, h]
  exact if_pos hlt

theorem readStages_nil : readStages [] = ([], []) := by
  rw [readStages]; rfl

theorem length_render_pos (p : Predicate) : 0 < p.render.length := by
  unfold Predicate.render
  generalize " |> filter(fn: (r) => r.".toList = w
  simp

/-- Filters written one after the other are read one after the other. -/
theorem readStages_filters {ps : List Predicate} (h : ∀ p ∈ ps, PlainName p.column) :
    readStages (ps.flatMap Predicate.render) = (ps.map fun p => .filter p.filter, []) := by
  induction ps with
  | nil => exact readStages_nil
  | cons p ps ih =>
    have hp := pipedStage_filter (h p List.mem_cons_self) (ps.flatMap Predicate.render)
    have hlt : (ps.flatMap Predicate.render).length <
        (p.render ++ ps.flatMap Predicate.render).length := by
      rw [List.length_append]
      exact Nat.lt_add_of_pos_left (length_render_pos p)
    rw [List.flatMap_cons, readStages_cons hp hlt,
      ih fun q hq => h q (List.mem_cons_of_mem _ hq), List.map_cons]

theorem readStages_render {r : Range} {ps : List Predicate} (hr : 0 ≤ r.amount.toInt)
    (h : ∀ p ∈ ps, PlainName p.column) :
    readStages (" |> range(start: ".toList ++ (r.render ++ ')' :: ps.flatMap Predicate.render)) =
      (.range r :: ps.map fun p => .filter p.filter, []) := by
  rw [readStages_cons (pipedStage_range hr _) (by simp; omega), readStages_filters h]

/-! ## Whole queries -/

theorem readSource_render (bucket : String) (rest : List Char) :
    readSource ("from(bucket: ".toList ++ (quoteLiteral bucket.toList ++ ')' :: rest)) =
      .ok (bucket, rest) := by
  show (stringLiteral (quoteLiteral bucket.toList ++ ')' :: rest) >>= _) = _
  rw [stringLiteral_quoteLiteral]
  show Except.ok (String.ofList bucket.toList, rest) = _
  rw [String.ofList_toList]

/-- The pipeline a plan is written as. -/
def Plan.pipeline (p : Plan) : Pipeline := ⟨p.bucket, some p.range, p.predicates.map (·.filter)⟩

theorem filtersOf_filters (fs : List Filter) : Pipeline.filtersOf (fs.map .filter) = fs := by
  unfold Pipeline.filtersOf
  rw [List.filterMap_map]
  exact List.filterMap_some

/-- Filters are nothing to a fold that looks for ranges. -/
theorem foldl_filters {α : Type} {step : α → Stage → α} (h : ∀ a f, step a (.filter f) = a)
    (fs : List Filter) (a : α) : (fs.map Stage.filter).foldl step a = a := by
  induction fs generalizing a with
  | nil => rfl
  | cons f fs ih => rw [List.map_cons, List.foldl_cons, h, ih]

theorem ofStages_render (p : Plan) :
    Pipeline.ofStages p.bucket (.range p.range :: p.predicates.map fun q => .filter q.filter) =
      p.pipeline := by
  have hmap : (p.predicates.map fun q => Stage.filter q.filter) =
      (p.predicates.map (·.filter)).map .filter := by rw [List.map_map]; rfl
  rw [hmap, Pipeline.ofStages, Plan.pipeline]
  congr 1
  · exact foldl_filters (fun _ _ => rfl) _ _
  · exact filtersOf_filters _

/-- The text of a plan reads as the plan's pipeline. -/
theorem parse_toText {p : Plan} (hr : 0 ≤ p.range.amount.toInt)
    (h : ∀ q ∈ p.predicates, PlainName q.column) : Pipeline.parse p.toText = .ok p.pipeline := by
  have hrender : p.render = "from(bucket: ".toList ++ (quoteLiteral p.bucket.toList ++
      ')' :: (" |> range(start: ".toList ++ (p.range.render ++
        ')' :: p.predicates.flatMap Predicate.render))) := by
    unfold Plan.render
    rw [show ")".toList = [')'] from rfl]
    generalize "from(bucket: ".toList = w
    generalize " |> range(start: ".toList = w'
    simp
  have hskip : skipSpaces p.render = p.render := by rw [hrender]; rfl
  unfold Pipeline.parse Pipeline.read Plan.toText
  rw [String.toList_ofList, hskip, hrender]
  simp only [readSource_render, readStages_render hr h, trim_nil, if_true, ofStages_render]

/-! ## Typing the literals again -/

/-- The text of a literal that is text, or has its column's kind, says the literal again. -/
theorem Predicate.of_toText {p : Predicate} (hk : p.value.kind = p.kind ∨ p.value.kind = .string) :
    .of p.column p.kind p.op (.text p.value.toText) = p := by
  refine Predicate.ext rfl rfl rfl ?_
  show ((Value.text p.value.toText).coerce p.kind).getD _ = p.value
  rcases hk with hk | hk
  · have hc := Value.coerce_toText p.value
    rw [hk] at hc
    rw [hc, Option.getD_some]
  · have ht : Value.text p.value.toText = p.value := by
      cases hv : p.value with
      | text s => rfl
      | _ => rw [hv] at hk; cases hk
    rw [ht, p.settled]

theorem Plan.toPlan_pipeline {p : Plan} {kindOf : String → Option Kind}
    (h : ∀ q ∈ p.predicates, q.value.kind = q.kind ∨ q.value.kind = .string)
    (hk : ∀ q ∈ p.predicates, kindOf q.column = some q.kind) : p.pipeline.toPlan kindOf = p := by
  have hmap : (p.predicates.map (·.filter)).map (·.toPredicate kindOf) = p.predicates := by
    rw [List.map_map]
    refine (List.map_congr_left fun q hq => ?_).trans (List.map_id _)
    show Predicate.of q.column ((kindOf q.column).getD _) q.op (.text q.value.toText) = q
    rw [hk q hq]
    exact Predicate.of_toText (h q hq)
  show (⟨p.bucket, p.range, (p.predicates.map (·.filter)).map (·.toPredicate kindOf)⟩ : Plan) = p
  rw [hmap]

/-! ## Comparing plans -/

theorem Predicate.equals_self {p : Predicate} (h : p.value ≠ .number .nan) :
    p.equals p = true := by
  simp [equals, Value.equals_self h]

theorem Plan.equals_self {p : Plan} (h : ∀ q ∈ p.predicates, q.value ≠ .number .nan) :
    p.equals p = true := by
  have hall : ∀ l : List Predicate, (∀ q ∈ l, q.value ≠ .number .nan) →
      ((l.zip l).all fun e => e.1.equals e.2) = true := by
    intro l hl
    induction l with
    | nil => rfl
    | cons q l ih =>
      rw [List.zip_cons_cons, List.all_cons, Predicate.equals_self (hl q List.mem_cons_self),
        ih fun r hr => hl r (List.mem_cons_of_mem _ hr)]
      rfl
  simp [equals, hall p.predicates h]

/-- **Text and back.** The text of a plan reads as its bucket, its range and one filter for each
predicate in order, each with its literal as text. Typed after the kinds of the columns it is the
plan again, unless a literal is NaN or of a kind that is neither its column's nor text. -/
theorem Plan.toText_parses_back (p : Plan) (hr : 0 ≤ p.range.amount.toInt)
    (hc : ∀ q ∈ p.predicates, PlainName q.column) :
    ∃ pipeline, Pipeline.parse p.toText = .ok pipeline ∧
      pipeline.bucket = p.bucket ∧ pipeline.range = some p.range ∧
      pipeline.filters = p.predicates.map (fun q => ⟨q.column, q.op, .text q.value.toText⟩) ∧
      ((∀ q ∈ p.predicates,
          q.value.kind = q.kind ∧ q.value ≠ .number .nan ∨ q.value.kind = .string) →
        ∀ kindOf, (∀ q ∈ p.predicates, kindOf q.column = some q.kind) →
          pipeline.toPlan kindOf = p ∧ (pipeline.toPlan kindOf).equals p = true) := by
  refine ⟨p.pipeline, parse_toText hr hc, rfl, rfl, rfl, fun hq kindOf hk => ?_⟩
  have hplan : p.pipeline.toPlan kindOf = p :=
    toPlan_pipeline (fun q hm => (hq q hm).imp And.left id) hk
  refine ⟨hplan, hplan.symm ▸ equals_self fun q hm hnan => ?_⟩
  rcases hq q hm with hv | hv
  · exact hv.2 hnan
  · rw [hnan] at hv
    exact nomatch hv

/-- A plan whose bucket and literal look like query text. -/
def quotingPlan : Plan :=
  ⟨"a\") |> range(start: -1h", ⟨5, .minute⟩,
    [.of "wing" .string .notEqual (.text "\\\")\n |> filter("),
      .of "floor" .integer .less (.integer 10)]⟩

theorem quotingPlan_parses_back : ∃ pipeline, Pipeline.parse quotingPlan.toText = .ok pipeline ∧
    pipeline.bucket = quotingPlan.bucket ∧ pipeline.filters.length = 2 ∧
    pipeline.toPlan (fun c => if c = "wing" then some .string else some .integer) =
      quotingPlan := by
  obtain ⟨pipeline, hparse, hbucket, -, hfilters, hplan⟩ :=
    Plan.toText_parses_back quotingPlan (by decide) (by decide +kernel)
  refine ⟨pipeline, hparse, hbucket, by rw [hfilters]; rfl, (hplan ?_ _ (by decide +kernel)).1⟩
  intro q hq
  simp only [quotingPlan, List.mem_cons, List.not_mem_nil, or_false] at hq
  rcases hq with rfl | rfl
  · exact .inr rfl
  · exact .inl ⟨rfl, by decide⟩

end TypedSeries
