import TypedSeries.Proofs.NativeOrder
import TypedSeries.Proofs.RangeText

/-!
# Literals with and without quotes

A literal without quotes is first read for what it looks like and then typed after its column; a
quoted one is typed from its text alone. The two may part.

1. What reads as an integer reads as the double nearest to it (`readNumber_of_readInteger`), so
   over a column of numbers it does not matter which of the two a token was read as.
2. The two literals are compared kind by kind (`Predicate.agree_iff`). Over text a token stands for
   the text of what it reads as (`Predicate.of_string_eq`). Over integers a double is compared as a
   number, and the text of it is compared with nothing (`Predicate.accepts_quoted_integer`).
3. A text with one filter reads as that filter, whichever of the two literals it has
   (`Pipeline.toPlan_filterText`).

**Main.** `Pipeline.filterText_quotes_iff`: what the two texts mean, and the kinds and tokens for
which they select the same.
-/

namespace TypedSeries

open Grammar

/-! ## Integers and the doubles they read as -/

theorem toInt_of_int64? {z : Int} {i : Int64} (h : int64? z = some i) :
    i.toInt = z ∧ FitsInt64 z := by
  unfold int64? at h
  split at h
  next hz =>
    cases h
    exact ⟨toInt_ofInt_of_fits hz, hz⟩
  next => cases h

/-- A number of at most 64 bits and a sign rounds as the integer it is: its trailing zeros go into
the exponent and come back from it. -/
theorem Decimal.toBinary64_ofNat {n : Nat} (hn : n ≠ 0) (hle : n ≤ int64Bound) (negative : Bool) :
    (normalize ⟨n, 0⟩).toBinary64 negative = .nearest negative (n * unitsPerOne) 1 := by
  have hnormal : normalize ⟨n, 0⟩ = strip n 0 := if_neg hn
  obtain ⟨-, k, hk, he⟩ := strip_spec 0 hn
  rw [hnormal]
  generalize strip n 0 = d at hk he
  have hc : d.coefficient ≠ 0 := by
    rintro hzero
    rw [hzero, Nat.zero_mul] at hk
    exact hn hk
  -- nineteen digits at most stand before the point, so neither bound cuts the number off
  have hpoint : 10 ^ (d.length - 1 + k) < 10 ^ 19 :=
    calc 10 ^ (d.length - 1 + k) = 10 ^ (d.length - 1) * 10 ^ k := Nat.pow_add ..
      _ ≤ d.coefficient * 10 ^ k := Nat.mul_le_mul_right _ (pow_length_le hc)
      _ = n := hk.symm
      _ ≤ int64Bound := hle
      _ < 10 ^ 19 := by decide
  have hsmall := (Nat.pow_lt_pow_iff_right (by decide)).1 hpoint
  have hexp : d.exponent.toNat = k := by omega
  unfold toBinary64 pointPosition
  rw [if_neg hc, if_neg (by omega), if_neg (by omega), if_pos (by omega), hexp, Nat.pow_eq, ← hk]

/-- What reads as an integer of 64 bits reads as the double nearest to it, up to the sign of
zero. -/
theorem readNumber_of_readInteger {cs : List Char} {i : Int64} (h : readInteger cs = some i) :
    ∃ x, readNumber cs = some x ∧ x.rank = (Binary64.ofInt i.toInt).rank := by
  unfold readInteger at h
  unfold readNumber
  generalize splitSign cs = signed at h ⊢
  obtain ⟨negative, ds⟩ := signed
  obtain ⟨n, hn, hi⟩ := Option.bind_eq_some_iff.1 h
  obtain ⟨hne, hd, rfl⟩ := readDigits_eq_some_iff.1 hn
  obtain ⟨hint, hfits⟩ := toInt_of_int64? hi
  have hread : readDecimal ds = some (.normalize ⟨digitsValue ds, 0⟩) :=
    Decimal.readDecimal_of_digits (List.all_eq_true.2 hd) hne
  simp only [hread, hint]
  refine ⟨_, rfl, ?_⟩
  generalize digitsValue ds = n at hfits
  by_cases hzero : n = 0
  · -- `-0` reads as the negative zero, which has the place of the other
    subst hzero
    cases negative <;> decide +kernel
  · have hle : n ≤ int64Bound := by
      unfold FitsInt64 at hfits
      split at hfits <;> omega
    rw [Decimal.toBinary64_ofNat hzero hle, Binary64.ofInt]
    cases negative with
    | true =>
      have hsign : decide (-(n : Int) < 0) = true := decide_eq_true (by omega)
      simp only [if_true, hsign, Int.natAbs_neg, Int.natAbs_natCast]
    | false =>
      have hsign : decide ((n : Int) < 0) = false := decide_eq_false (by omega)
      simp only [Bool.false_eq_true, if_false, hsign, Int.natAbs_natCast]

/-- A double is compared by its place among the integers alone. -/
theorem Binary64.compare_congr {x y z : Binary64} (h : x.rank = y.rank) :
    z.compare x = z.compare y := by
  unfold compare
  rw [h]

/-- NaN is in order with nothing. -/
theorem Binary64.compare_nan (x : Binary64) : x.compare .nan = none := by
  unfold compare
  split
  next h => cases h
  next => rfl

/-- A double other than NaN, read as an integer if it is one, is in order with zero. -/
theorem Value.exists_compare_zero {x : Binary64} (hx : x ≠ .nan) :
    ∃ o, (integer 0).compare (((number x).coerce .integer).getD (number x)) = some o := by
  cases hc : (number x).coerce .integer with
  | some w =>
    have hk := kind_of_coerce hc
    cases w with
    | integer i => exact ⟨_, rfl⟩
    | text | number | boolean => cases hk
  | none =>
    -- what is no integer is compared as a double
    have hzero : (Binary64.ofInt (0 : Int64).toInt).rank = some 0 := by decide +kernel
    obtain ⟨r, hr⟩ : ∃ r, x.rank = some r := Option.ne_none_iff_exists'.1 fun h =>
      hx (Binary64.eq_nan_of_rank h)
    refine ⟨Ord.compare 0 r, ?_⟩
    show (Binary64.ofInt (0 : Int64).toInt).compare x = _
    unfold Binary64.compare
    rw [hzero, hr]

theorem Operator.exists_holds (o : Ordering) : ∃ op : Operator, op.holds o = true := by
  cases o with
  | lt => exact ⟨.less, rfl⟩
  | eq => exact ⟨.equal, rfl⟩
  | gt => exact ⟨.greater, rfl⟩

/-! ## Tokens that are read and tokens in quotes -/

section Tokens

variable {t : List Char}

theorem not_isBlank_of_isBare {c : Char} (h : isBare c = true) : isBlank c = false := by
  have h : isAsciiAlphanumeric c = true ∨ c = '.' ∨ c = '-' ∨ c = '+' := by
    simpa [isBare, or_assoc] using h
  rcases h with h | rfl | rfl | rfl
  · exact not_isBlank_of_isAsciiAlphanumeric h
  · decide
  · decide
  · decide

/-- A number is none of the two truth values. -/
theorem readBoolean_of_readNumber {x : Binary64} (h : readNumber t = some x) :
    Value.readBoolean t = none := by
  rw [Option.eq_none_iff_forall_ne_some]
  intro b hb
  have hnone : readNumber (if b then "true" else "false").toList = none := by
    cases b <;> decide +kernel
  rw [← readBoolean_eq_some_iff.1 hb, h] at hnone
  cases hnone

theorem bareValue_of_readNumber {x : Binary64} (hi : readInteger t = none)
    (hx : readNumber t = some x) : bareValue t = .number x :=
  bareValue_eq_iff.2 (.number hi hx)

/-- Inside the quotes of a token there is nothing to trim. -/
theorem trim_token (ht : ∀ c ∈ t, isBare c = true) : trim (String.ofList t).toList = t := by
  rw [String.toList_ofList, trim_eq_self fun c hc => not_isBlank_of_isBare (ht c hc)]

/-- Inside the quotes of a token there is nothing to escape. -/
theorem quotedText_token (ht : ∀ c ∈ t, isBare c = true) : QuotedText t t := by
  induction t with
  | nil => exact .nil
  | cons c t ih =>
    rw [List.forall_mem_cons] at ht
    refine .plain ?_ ?_ (ih ht.2)
    · rintro rfl
      exact absurd ht.1 (by decide)
    · rintro rfl
      exact absurd ht.1 (by decide)

theorem coerce_integer_token (ht : ∀ c ∈ t, isBare c = true) :
    (Value.text (String.ofList t)).coerce .integer = (readInteger t).map .integer := by
  rw [Value.coerce, trim_token ht]

theorem coerce_number_token (ht : ∀ c ∈ t, isBare c = true) :
    (Value.text (String.ofList t)).coerce .number = (readNumber t).map .number := by
  rw [Value.coerce, trim_token ht]

theorem coerce_boolean_token (ht : ∀ c ∈ t, isBare c = true) :
    (Value.text (String.ofList t)).coerce .boolean = (Value.readBoolean t).map .boolean := by
  rw [Value.coerce, trim_token ht]

end Tokens

/-- The tokens that mean the same with and without quotes over a column of a kind: over text those
that are the text of what they read as, over integers those that read as an integer or as no double
other than NaN, over the other kinds all. -/
def Kind.QuotesAlike : Kind → List Char → Prop
  | .string, t => (bareValue t).toText = String.ofList t
  | .integer, t => readInteger t = none → ∀ x, readNumber t = some x → x = .nan
  | .number, _ => True
  | .boolean, _ => True

/-! ## Predicates over the two -/

namespace Predicate

section Agree

variable {k : Kind} {t : List Char} {v v' : Value}

/-- Two literals that no value of the column's kind tells apart make predicates that accept the
same. -/
theorem accepts_of_congr (h : ∀ w : Value, w.kind = k →
    w.compare ((v.coerce k).getD v) = w.compare ((v'.coerce k).getD v'))
    (column : String) (op : Operator) (candidate : Value) :
    (of column k op v).accepts candidate = (of column k op v').accepts candidate := by
  unfold of accepts
  dsimp only
  cases hc : candidate.coerce k with
  | none => rfl
  | some w => rw [Option.bind_some, Option.bind_some, h w (Value.kind_of_coerce hc)]

/-- A literal that cannot be compared with the values of the column's kind accepts nothing. -/
theorem accepts_of_eq_false (h : ∀ w : Value, w.kind = k → w.compare ((v.coerce k).getD v) = none)
    (column : String) (op : Operator) (candidate : Value) :
    (of column k op v).accepts candidate = false := by
  unfold of accepts
  dsimp only
  cases hc : candidate.coerce k with
  | none => rfl
  | some w => rw [Option.bind_some, h w (Value.kind_of_coerce hc)]

/-- Over numbers an integer is the double it reads as, and what reads as none is compared with
nothing. -/
theorem agree_number (ht : ∀ c ∈ t, isBare c = true) (column : String) (op : Operator)
    (candidate : Value) : (of column .number op (bareValue t)).accepts candidate =
      (of column .number op (.text (String.ofList t))).accepts candidate := by
  refine accepts_of_congr (fun w hw => ?_) column op candidate
  cases w with
  | text | integer | boolean => cases hw
  | number y =>
    rw [coerce_number_token ht]
    have hv := bareValue_eq_iff.1 (rfl : bareValue t = _)
    generalize bareValue t = v at hv
    cases hv with
    | integer hi =>
      obtain ⟨x, hx, hrank⟩ := readNumber_of_readInteger hi
      rw [hx]
      exact (Binary64.compare_congr hrank).symm
    | number _ hx => rw [hx]; rfl
    | boolean _ hx => rw [hx]; rfl
    | text _ hx => rw [coerce_number_token ht]

/-- Over truth values only the two words are compared with anything. -/
theorem agree_boolean (ht : ∀ c ∈ t, isBare c = true) (column : String) (op : Operator)
    (candidate : Value) : (of column .boolean op (bareValue t)).accepts candidate =
      (of column .boolean op (.text (String.ofList t))).accepts candidate := by
  refine accepts_of_congr (fun w hw => ?_) column op candidate
  cases w with
  | text | integer | number => cases hw
  | boolean b =>
    rw [coerce_boolean_token ht]
    have hv := bareValue_eq_iff.1 (rfl : bareValue t = _)
    generalize bareValue t = v at hv
    cases hv with
    | integer hi =>
      obtain ⟨x, hx, -⟩ := readNumber_of_readInteger hi
      rw [readBoolean_of_readNumber hx]
      rfl
    | number _ hx => rw [readBoolean_of_readNumber hx]; rfl
    | boolean _ _ hb => rw [readBoolean_eq_some_iff.2 hb]; rfl
    | text => rw [coerce_boolean_token ht]

/-- Over text a token without quotes stands for the text of what it reads as. -/
theorem of_string_eq (column : String) (op : Operator) (v : Value) :
    of column .string op v = of column .string op (.text v.toText) := by
  refine Predicate.ext rfl rfl rfl ?_
  show (v.coerce .string).getD v = _
  rw [Value.coerce_string]
  rfl

theorem agree_string_iff {column : String} {s s' : String} :
    (∀ op candidate, (of column .string op (.text s)).accepts candidate =
      (of column .string op (.text s')).accepts candidate) ↔ s = s' := by
  constructor
  · intro h
    have heq := h .equal (.text s')
    have hself : (of column .string .equal (.text s')).accepts (.text s') = true :=
      decide_eq_true (compare_text_eq.2 rfl)
    rw [hself] at heq
    exact (compare_text_eq.1 (of_decide_eq_true heq)).symm
  · rintro rfl op candidate
    rfl

/-- Over integers a quoted token that says no integer accepts nothing. -/
theorem accepts_quoted_integer (ht : ∀ c ∈ t, isBare c = true) (hi : readInteger t = none)
    (column : String) (op : Operator) (candidate : Value) :
    (of column .integer op (.text (String.ofList t))).accepts candidate = false := by
  refine accepts_of_eq_false (fun w hw => ?_) column op candidate
  rw [coerce_integer_token ht, hi]
  cases w with
  | integer i => rfl
  | text | number | boolean => cases hw

/-- Over integers a double other than NaN accepts something under some operator. -/
theorem exists_accepts_number {x : Binary64} (hx : x ≠ .nan) (column : String) :
    ∃ op candidate, (of column .integer op (.number x)).accepts candidate = true := by
  obtain ⟨o, ho⟩ := Value.exists_compare_zero hx
  obtain ⟨op, hop⟩ := Operator.exists_holds o
  have hread : (Value.integer 0).coerce .integer = some (.integer 0) := rfl
  refine ⟨op, .integer 0, ?_⟩
  unfold of accepts
  dsimp only
  rw [hread, Option.bind_some, ho]
  exact hop

/-- Over integers a token without quotes differs from one in quotes only as a double. -/
theorem agree_integer (ht : ∀ c ∈ t, isBare c = true) (halike : Kind.QuotesAlike .integer t)
    (column : String) (op : Operator) (candidate : Value) :
    (of column .integer op (bareValue t)).accepts candidate =
      (of column .integer op (.text (String.ofList t))).accepts candidate := by
  refine accepts_of_congr (fun w hw => ?_) column op candidate
  cases w with
  | text | number | boolean => cases hw
  | integer i =>
    rw [coerce_integer_token ht]
    have hv := bareValue_eq_iff.1 (rfl : bareValue t = _)
    generalize bareValue t = v at hv
    cases hv with
    | integer hj => rw [hj]; rfl
    | number hj hx =>
      obtain rfl := halike hj _ hx
      have hnan : (Value.number .nan).coerce .integer = none := rfl
      have hcompare : (Value.integer i).compare (.number .nan) = none :=
        Binary64.compare_nan (.ofInt i.toInt)
      rw [hj, hnan, Option.getD_none, hcompare]
      rfl
    | boolean hj => rw [hj]; rfl
    | text hj => rw [coerce_integer_token ht]

/-- The literals with and without quotes accept the same under all operators exactly for the tokens
that quote alike. -/
theorem agree_iff (ht : ∀ c ∈ t, isBare c = true) (column : String) (k : Kind) :
    (∀ op candidate, (of column k op (bareValue t)).accepts candidate =
      (of column k op (.text (String.ofList t))).accepts candidate) ↔ k.QuotesAlike t := by
  cases k with
  | string =>
    simp only [of_string_eq column _ (bareValue t)]
    exact agree_string_iff
  | integer =>
    refine ⟨fun h hi x hx => Decidable.byContradiction fun hnan => ?_,
      fun halike => agree_integer ht halike column⟩
    obtain ⟨op, candidate, haccepts⟩ := exists_accepts_number hnan column
    have hquoted := accepts_quoted_integer ht hi column op candidate
    rw [← h op candidate, bareValue_of_readNumber hi hx, haccepts] at hquoted
    cases hquoted
  | number => exact ⟨fun _ => trivial, fun _ => agree_number ht column⟩
  | boolean => exact ⟨fun _ => trivial, fun _ => agree_boolean ht column⟩

end Agree

end Predicate

/-! ## Texts with one filter -/

/-- The text of a query with one filter, its literal as it is written. -/
def filterText (bucket column : String) (symbol literal : List Char) : String :=
  String.ofList ("from(bucket: ".toList ++ (quoteLiteral bucket.toList ++ ')' ::
    (" |> filter(fn: (r) => r.".toList ++ (column.toList ++ ' ' :: (symbol ++
      ' ' :: (literal ++ [')']))))))

section FilterText

variable {column : String} {op : Operator} {v : Value} {k : Kind} {symbol t : List Char}

theorem Grammar.Spaced.next {ts : List (List Char)} {cs rest : List Char}
    (h : Spaced ts cs rest) : Spaced (t :: ts) (t ++ cs) rest :=
  .cons ⟨[], by simp, rfl⟩ h

theorem Grammar.Spaced.afterSpace {ts : List (List Char)} {cs rest : List Char}
    (h : Spaced ts cs rest) : Spaced (t :: ts) (' ' :: (t ++ cs)) rest :=
  .cons ⟨[' '], by simp [isSpace], rfl⟩ h

theorem readStages_filterText (hc : PlainName column) (hop : OperatorToken op symbol)
    (hv : LiteralToken v t) :
    readStages (" |> filter(fn: (r) => r.".toList ++ (column.toList ++ ' ' :: (symbol ++
      ' ' :: (t ++ [')'])))) = ([.filter ⟨column, op, v⟩], []) := by
  refine readStages_complete (.cons (.filter hc hop hv) .nil) ?_ fun _ hc => nomatch hc
  exact .afterSpace (.afterSpace (.next (.next (.next (.afterSpace (.next (.next (.afterSpace
    (.afterSpace (.afterSpace (.afterSpace (.next (.nil [])))))))))))))

/-- A text with one filter reads as the filter, its literal typed after the column. -/
theorem Pipeline.toPlan_filterText (bucket : String) {kindOf : String → Option Kind}
    (hc : PlainName column) (hop : OperatorToken op symbol) (hv : LiteralToken v t)
    (hk : kindOf column = some k) :
    ∃ p, Pipeline.parse (filterText bucket column symbol t) = .ok p ∧
      p.toPlan kindOf = ⟨bucket, .standard, [.of column k op v]⟩ := by
  refine ⟨⟨bucket, none, [⟨column, op, v⟩]⟩, ?_, ?_⟩
  · unfold Pipeline.parse Pipeline.read filterText
    rw [String.toList_ofList]
    have hskip : ∀ cs, skipSpaces ("from(bucket: ".toList ++ cs) = "from(bucket: ".toList ++ cs :=
      fun _ => rfl
    rw [hskip, readSource_render]
    simp only [readStages_filterText hc hop hv, trim_nil, if_true]
    rfl
  · unfold toPlan Filter.toPredicate
    simp only [List.map_cons, List.map_nil, hk, Option.getD_some, Option.getD_none]

end FilterText

/-- **Quotes around a literal.** Over a column of a kind the texts with a token as it is and in
quotes both read as one predicate, whose literal is what the token reads as or the token's text. The
two accept the same under all operators exactly for the tokens that quote alike. Any other token
over text stands for the text of what it reads as; over integers it is a double, and in quotes it
accepts nothing. -/
theorem Pipeline.filterText_quotes_iff {column : String} {k : Kind} {t : List Char}
    (hc : PlainName column) (hne : t ≠ []) (ht : ∀ c ∈ t, isBare c = true) :
    (∀ (bucket : String) (op : Operator) (symbol : List Char) (kindOf : String → Option Kind),
      OperatorToken op symbol → kindOf column = some k →
        (∃ p, Pipeline.parse (filterText bucket column symbol t) = .ok p ∧
          p.toPlan kindOf = ⟨bucket, .standard, [.of column k op (bareValue t)]⟩) ∧
        ∃ p, Pipeline.parse (filterText bucket column symbol ('"' :: (t ++ ['"']))) = .ok p ∧
          p.toPlan kindOf = ⟨bucket, .standard, [.of column k op (.text (String.ofList t))]⟩) ∧
    ((∀ op candidate, (Predicate.of column k op (bareValue t)).accepts candidate =
        (Predicate.of column k op (.text (String.ofList t))).accepts candidate) ↔
      k.QuotesAlike t) ∧
    (∀ op, Predicate.of column .string op (bareValue t) =
      .of column .string op (.text (bareValue t).toText)) ∧
    (¬ Kind.QuotesAlike .integer t → ∃ x, x ≠ .nan ∧ readNumber t = some x ∧ ∀ op,
      Predicate.of column .integer op (bareValue t) = .of column .integer op (.number x) ∧
        ∀ candidate, (Predicate.of column .integer op (.text (String.ofList t))).accepts candidate =
          false) := by
  refine ⟨fun bucket op symbol kindOf hop hk => ⟨?_, ?_⟩, Predicate.agree_iff ht column k,
    fun op => Predicate.of_string_eq column op _, fun hunlike => ?_⟩
  · exact toPlan_filterText bucket hc hop (.bare hne ht (bareValue_eq_iff.1 rfl)) hk
  · exact toPlan_filterText bucket hc hop (.quoted ⟨t, quotedText_token ht, rfl⟩) hk
  · unfold Kind.QuotesAlike at hunlike
    push Not at hunlike
    obtain ⟨hi, x, hx, hnan⟩ := hunlike
    refine ⟨x, hnan, hx, fun op => ⟨?_, Predicate.accepts_quoted_integer ht hi column op⟩⟩
    rw [bareValue_of_readNumber hi hx]

/-- What the filters of a text make of a value, all columns being of one kind. -/
def Pipeline.verdicts (k : Kind) (s : String) (candidate : Value) : Except QueryError (List Bool) :=
  (Pipeline.parse s).map fun p => (p.toPlan fun _ => some k).predicates.map (·.accepts candidate)

/-- Zeros in front of a number are lost without quotes, and a fraction selects nothing in them. -/
theorem Pipeline.verdicts_of_tokens :
    "007".toList.all isBare = true ∧
    verdicts .string (filterText "room" "wing" ['='] "007".toList) (.text "007") = .ok [false] ∧
    verdicts .string (filterText "room" "wing" ['='] "\"007\"".toList) (.text "007") = .ok [true] ∧
    "1.5".toList.all isBare = true ∧
    verdicts .integer (filterText "room" "floor" ['>'] "1.5".toList) (.integer 2) = .ok [true] ∧
    verdicts .integer (filterText "room" "floor" ['>'] "\"1.5\"".toList) (.integer 2) =
      .ok [false] := by
  decide +kernel

theorem Pipeline.filterText_quotes_half :
    PlainName "floor" ∧ "1.5".toList ≠ [] ∧ (∀ c ∈ "1.5".toList, isBare c = true) ∧
      (∃ p, Pipeline.parse (filterText "room" "floor" ['>'] "1.5".toList) = .ok p ∧
        p.toPlan (fun _ => some .integer) = ⟨"room", .standard,
          [.of "floor" .integer .greater (bareValue "1.5".toList)]⟩) ∧
      ¬ ∀ op candidate, (Predicate.of "floor" .integer op (bareValue "1.5".toList)).accepts
        candidate = (Predicate.of "floor" .integer op (.text (String.ofList "1.5".toList))).accepts
          candidate := by
  have hc : PlainName "floor" := by decide +kernel
  have hne : "1.5".toList ≠ [] := by decide
  have ht : ∀ c ∈ "1.5".toList, isBare c = true := List.all_eq_true.1 (by decide)
  have hread : readInteger "1.5".toList = none ∧ (readNumber "1.5".toList).isSome = true ∧
      readNumber "1.5".toList ≠ some .nan := by decide +kernel
  obtain ⟨hi, hsome, hnan⟩ := hread
  obtain ⟨x, hx⟩ := Option.isSome_iff_exists.1 hsome
  obtain ⟨hplans, hagree, -⟩ := filterText_quotes_iff (k := .integer) hc hne ht
  refine ⟨hc, hne, ht, (hplans "room" .greater ['>'] _ (.inl rfl) rfl).1, fun h => ?_⟩
  rw [hagree.1 h hi x hx] at hx
  exact hnan hx

end TypedSeries
