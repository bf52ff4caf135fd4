import Mathlib.Data.List.Induction
import TypedSeries.Proofs.PipelineText

/-!
# The grammar of query text

What query text is, said as a grammar, and the reader against it.

1. A text is a row of tokens with spaces before each (`Grammar.Spaced`). Source and stages are said
   by their tokens, and `Pipeline.Denotes` relates a text to the pipeline it means.
2. Every reader of a token takes exactly the tokens of its class (`Grammar.Accepts`). It is greedy,
   so it takes a whole token only if the text does not go on with a character of the class; in the
   grammar a space or a token of another kind comes next (`Grammar.stops_of_token`).
3. The stages are told apart by their first word, so trying one after the other loses nothing
   (`Grammar.stage_skipSpaces_iff`). The run of stages stops where no stage begins, which is the
   end if nothing but white space is left (`Grammar.readStages_complete`).

**Main.** `Pipeline.parse_eq_ok_iff`: a text reads as a pipeline exactly if the grammar derives the
text with that pipeline as its meaning.
-/

namespace TypedSeries

namespace Grammar

/-! ## Tokens and spaces -/

/-- A token after any number of spaces, and the text after it. -/
def Token (t cs rest : List Char) : Prop :=
  ∃ ws : List Char, (∀ c ∈ ws, isSpace c = true) ∧ cs = ws ++ (t ++ rest)

/-- Tokens one after the other, spaces before each, and the text after the last. -/
inductive Spaced : List (List Char) → List Char → List Char → Prop
  | nil (rest : List Char) : Spaced [] rest rest
  | cons {t : List Char} {ts : List (List Char)} {cs mid rest : List Char} (h : Token t cs mid)
    (hs : Spaced ts mid rest) : Spaced (t :: ts) cs rest

/-- The text between the quotes of a literal and what it says: `\n` is a line feed, a backslash
before any other character is that character. -/
inductive QuotedText : List Char → List Char → Prop
  | nil : QuotedText [] []
  | plain {c : Char} {cs s : List Char} (hq : c ≠ '"') (hb : c ≠ '\\') (h : QuotedText cs s) :
    QuotedText (c :: cs) (c :: s)
  | lineFeed {cs s : List Char} (h : QuotedText cs s) : QuotedText ('\\' :: 'n' :: cs) ('\n' :: s)
  | escaped {c : Char} {cs s : List Char} (hn : c ≠ 'n') (h : QuotedText cs s) :
    QuotedText ('\\' :: c :: cs) (c :: s)

/-- A quoted literal and what it says. -/
def QuotedToken (s t : List Char) : Prop := ∃ cs, QuotedText cs s ∧ t = '"' :: (cs ++ ['"'])

/-- What a literal without quotes says: an integer if it reads as one, else a double if it reads as
one, else a truth value if it is one of the two words, else itself. -/
inductive BareMeaning (t : List Char) : Value → Prop
  | integer {i : Int64} (h : readInteger t = some i) : BareMeaning t (.integer i)
  | number {x : Binary64} (hi : readInteger t = none) (h : readNumber t = some x) :
    BareMeaning t (.number x)
  | boolean {b : Bool} (hi : readInteger t = none) (hx : readNumber t = none)
    (h : t = (if b then "true" else "false").toList) : BareMeaning t (.boolean b)
  | text (hi : readInteger t = none) (hx : readNumber t = none)
    (hb : t ≠ "true".toList ∧ t ≠ "false".toList) : BareMeaning t (.text (String.ofList t))

/-- A literal and its value. -/
inductive LiteralToken : Value → List Char → Prop
  | quoted {s t : List Char} (h : QuotedToken s t) : LiteralToken (.text (String.ofList s)) t
  | bare {v : Value} {t : List Char} (hne : t ≠ []) (h : ∀ c ∈ t, isBare c = true)
    (hv : BareMeaning t v) : LiteralToken v t

/-- An operator and its symbol; equality has two. -/
def OperatorToken (op : Operator) (t : List Char) : Prop :=
  t = op.symbol ∨ op = .equal ∧ t = ['=', '=']

/-- A range: a minus sign, digits of a 64-bit amount and a unit. -/
inductive RangeToken : Range → List Char → Prop
  | intro {ds : List Char} (hne : ds ≠ []) (hd : ∀ c ∈ ds, c.isDigit = true)
    (hlt : digitsValue ds < int64Bound) (u : TimeUnit) :
    RangeToken ⟨Int64.ofInt (digitsValue ds), u⟩ ('-' :: (ds ++ u.suffix))

/-- The tokens of a stage. -/
inductive StageTokens : Stage → List (List Char) → Prop
  | range {r : Range} {t : List Char} (h : RangeToken r t) : StageTokens (.range r)
    ["range".toList, ['('], "start".toList, [':'], t, [')']]
  | filter {column : String} {op : Operator} {v : Value} {symbol t : List Char}
    (hc : PlainName column) (hop : OperatorToken op symbol) (hv : LiteralToken v t) :
    StageTokens (.filter ⟨column, op, v⟩)
      ["filter".toList, ['('], "fn".toList, [':'], ['('], ['r'], [')'], "=>".toList,
        "r.".toList ++ column.toList, symbol, t, [')']]

/-- The tokens of a source. -/
def SourceTokens (bucket : String) (ts : List (List Char)) : Prop :=
  ∃ t, QuotedToken bucket.toList t ∧
    ts = ["from".toList, ['('], "bucket".toList, [':'], t, [')']]

/-- The tokens of stages, a mark before each. -/
inductive StagesTokens : List Stage → List (List Char) → Prop
  | nil : StagesTokens [] []
  | cons {s : Stage} {stages : List Stage} {ts us : List (List Char)} (h : StageTokens s ts)
    (hs : StagesTokens stages us) : StagesTokens (s :: stages) ("|>".toList :: (ts ++ us))

end Grammar

/-- The range of a range stage. -/
def Stage.range? : Stage → Option Range
  | range r => some r
  | filter _ => none

/-- The filter of a filter stage. -/
def Stage.filter? : Stage → Option Filter
  | range _ => none
  | filter f => some f

open Grammar in
/-- A text of the query grammar and the pipeline it denotes: a source, stages, and white space of
any script after the last. The last range stage gives the range. -/
inductive Pipeline.Denotes : List Char → Pipeline → Prop
  | intro {bucket : String} {stages : List Stage} {ts us : List (List Char)} {cs rest : List Char}
    (hsource : SourceTokens bucket ts) (hstages : StagesTokens stages us)
    (h : Spaced (ts ++ us) cs rest) (hrest : ∀ c ∈ rest, isBlank c = true) :
    Denotes cs
      ⟨bucket, (stages.filterMap Stage.range?).getLast?, stages.filterMap Stage.filter?⟩

namespace Grammar

/-! ## Tokens at the front -/

/-- A text that begins, with a character of none of a class. -/
def Opens (p : Char → Bool) : List Char → Prop
  | [] => False
  | c :: _ => p c = false

theorem Opens.stops {p : Char → Bool} {t : List Char} (ht : Opens p t) (rest : List Char) :
    Stops p (t ++ rest) := by
  cases t with
  | nil => exact ht.elim
  | cons c t =>
    intro d hd
    cases hd
    exact ht

theorem token_iff {t cs rest : List Char} (ht : Opens isSpace t) :
    Token t cs rest ↔ skipSpaces cs = t ++ rest := by
  constructor
  · rintro ⟨ws, hws, rfl⟩
    exact (run_iff.2 ⟨rfl, hws, ht.stops rest⟩).2
  · intro h
    have hcs := run_iff.1 ⟨rfl, h⟩
    exact ⟨_, hcs.2.1, hcs.1⟩

theorem afterWord_eq_some_iff {w cs rest : List Char} :
    afterWord w cs = some rest ↔ cs = w ++ rest := by
  induction w generalizing cs with
  | nil => simp [afterWord]
  | cons d w ih =>
    cases cs with
    | nil => simp [afterWord]
    | cons c cs => by_cases h : d = c <;> simp [afterWord, h, ih, eq_comm]

theorem word_eq_ok_iff {w cs rest : List Char} : word w cs = .ok rest ↔ cs = w ++ rest := by
  rw [← afterWord_eq_some_iff]
  unfold word
  cases afterWord w cs <;> simp

theorem character_eq_ok_iff {c : Char} {cs rest : List Char} :
    character c cs = .ok rest ↔ cs = c :: rest := by
  cases cs with
  | nil => simp [character]
  | cons d cs => by_cases h : c = d <;> simp [character, h, eq_comm]

theorem word_skipSpaces_iff {w cs rest : List Char} (hw : Opens isSpace w) :
    word w (skipSpaces cs) = .ok rest ↔ Token w cs rest := by
  rw [word_eq_ok_iff, token_iff hw]

theorem character_skipSpaces_iff {c : Char} {cs rest : List Char} (hc : isSpace c = false) :
    character c (skipSpaces cs) = .ok rest ↔ Token [c] cs rest := by
  rw [character_eq_ok_iff, token_iff (show Opens isSpace [c] from hc), List.singleton_append]

theorem bind_eq_ok_iff {ε α β : Type} {x : Except ε α} {f : α → Except ε β} {b : β} :
    x >>= f = .ok b ↔ ∃ a, x = .ok a ∧ f a = .ok b := by
  cases x <;> simp [bind, Except.bind]

theorem pure_eq_ok_iff {ε α : Type} {a b : α} : (pure a : Except ε α) = .ok b ↔ a = b := by
  simp [pure, Except.pure]

theorem spaced_nil_iff {cs rest : List Char} : Spaced [] cs rest ↔ cs = rest :=
  ⟨fun h => by cases h; rfl, fun h => h ▸ .nil _⟩

theorem spaced_cons_iff {t cs rest : List Char} {ts : List (List Char)} :
    Spaced (t :: ts) cs rest ↔ ∃ mid, Token t cs mid ∧ Spaced ts mid rest :=
  ⟨fun h => by cases h with | cons h hs => exact ⟨_, h, hs⟩, fun ⟨_, h, hs⟩ => .cons h hs⟩

theorem spaced_append_iff {cs rest : List Char} {ts us : List (List Char)} :
    Spaced (ts ++ us) cs rest ↔ ∃ mid, Spaced ts cs mid ∧ Spaced us mid rest := by
  induction ts generalizing cs with
  | nil => simp [spaced_nil_iff]
  | cons t ts ih =>
    simp only [List.cons_append, spaced_cons_iff, ih]
    constructor
    · rintro ⟨a, ha, b, hb, hc⟩
      exact ⟨b, ⟨a, ha, hb⟩, hc⟩
    · rintro ⟨b, ⟨a, ha, hb⟩, hc⟩
      exact ⟨a, ha, b, hb, hc⟩

theorem spaced_clause_iff {w name cs rest : List Char} {ts : List (List Char)} :
    Spaced (w :: ['('] :: name :: [':'] :: ts) cs rest ↔
      ∃ mid, Spaced [w, ['('], name, [':']] cs mid ∧ Spaced ts mid rest :=
  @spaced_append_iff cs rest [w, ['('], name, [':']] ts

theorem closeParen_eq_ok_iff {cs rest : List Char} :
    closeParen cs = .ok rest ↔ Token [')'] cs rest := character_skipSpaces_iff rfl

/-- A clause opens with its word, a parenthesis and the name of its argument. -/
theorem clause_eq_ok_iff {α : Type} {w name cs : List Char} {body : List Char → Except Stuck α}
    {a : α} (hw : Opens isSpace w) (hn : Opens isSpace name) :
    (word w (skipSpaces cs) >>= fun cs => openParen cs >>= fun cs => argument name cs >>= body) =
        .ok a ↔
      ∃ mid, Spaced [w, ['('], name, [':']] cs mid ∧ body (skipSpaces mid) = .ok a := by
  simp only [openParen, argument, bind_eq_ok_iff, pure_eq_ok_iff, exists_exists_and_eq_and,
    word_skipSpaces_iff hw, word_skipSpaces_iff hn, character_skipSpaces_iff (c := '(') rfl,
    character_skipSpaces_iff (c := ':') rfl, spaced_cons_iff, spaced_nil_iff, exists_eq_right]
  constructor
  · rintro ⟨_, hw, _, hopen, _, ⟨_, hn, _, hcolon, rfl⟩, h⟩
    exact ⟨_, ⟨_, hw, _, hopen, _, hn, hcolon⟩, h⟩
  · rintro ⟨_, ⟨_, hw, _, hopen, _, hn, hcolon⟩, h⟩
    exact ⟨_, hw, _, hopen, _, ⟨_, hn, _, hcolon, rfl⟩, h⟩

/-- A class of characters without the spaces. -/
def Spaceless (p : Char → Bool) : Prop := ([' ', '\t', '\r', '\n'].all fun c => !p c) = true

instance (p : Char → Bool) : Decidable (Spaceless p) := inferInstanceAs (Decidable (_ = true))

theorem Spaceless.eq_false {p : Char → Bool} {c : Char} (hp : Spaceless p)
    (hc : isSpace c = true) : p c = false := by
  have hc : c = ' ' ∨ c = '\t' ∨ c = '\r' ∨ c = '\n' := by simpa [isSpace] using hc
  simpa using List.all_eq_true.1 hp c (by simpa using hc)

/-- Before a token stands a space or the token itself. -/
theorem stops_of_token {p : Char → Bool} {t cs rest : List Char} (hp : Spaceless p)
    (ht : Opens p t) (h : Token t cs rest) : Stops p cs := by
  obtain ⟨ws, hws, rfl⟩ := h
  cases ws with
  | nil => exact ht.stops rest
  | cons a ws =>
    intro d hd
    cases hd
    exact hp.eq_false (hws _ List.mem_cons_self)

/-! ## Readers of tokens -/

/-- A reader of a class of tokens: what it takes off the front is one of them, and it takes any,
if the text does not go on with a character of `more`. -/
structure Accepts {α : Type} (read : Reads α) (token : α → List Char → Prop)
    (more : Char → Bool) : Prop where
  opens : ∀ {a t}, token a t → Opens isSpace t
  sound : ∀ {cs a rest}, read cs = .ok (a, rest) → ∃ t, token a t ∧ cs = t ++ rest
  complete : ∀ {a t rest}, token a t → Stops more rest → read (t ++ rest) = .ok (a, rest)

section Accepts

variable {α : Type} {read : Reads α} {token : α → List Char → Prop} {more : Char → Bool}
  {a : α} {t cs rest : List Char}

theorem Accepts.take (h : Accepts read token more) (hr : read (skipSpaces cs) = .ok (a, rest)) :
    ∃ t, token a t ∧ Token t cs rest := by
  obtain ⟨t, ht, hcs⟩ := h.sound hr
  exact ⟨t, ht, (token_iff (h.opens ht)).2 hcs⟩

theorem Accepts.read_skipSpaces (h : Accepts read token more) (ht : token a t)
    (hcs : Token t cs rest) (hstop : Stops more rest) :
    read (skipSpaces cs) = .ok (a, rest) := by
  rw [(token_iff (h.opens ht)).1 hcs, h.complete ht hstop]

end Accepts

theorem literalBody_eq_some_iff {cs s rest : List Char} :
    literalBody cs = some (s, rest) ↔ ∃ body, QuotedText body s ∧ cs = body ++ '"' :: rest := by
  constructor
  · intro h
    fun_induction literalBody cs generalizing s with
    | case1 => cases h
    | case2 rest' =>
      cases h
      exact ⟨[], .nil, rfl⟩
    | case3 => cases h
    | case4 cs ih =>
      obtain ⟨⟨s', _⟩, hs, he⟩ := Option.map_eq_some_iff.1 h
      cases he
      obtain ⟨body, hbody, rfl⟩ := ih hs
      exact ⟨_, hbody.lineFeed, rfl⟩
    | case5 c cs hn ih =>
      obtain ⟨⟨s', _⟩, hs, he⟩ := Option.map_eq_some_iff.1 h
      cases he
      obtain ⟨body, hbody, rfl⟩ := ih hs
      exact ⟨_, hbody.escaped hn, rfl⟩
    | case6 c cs hq hend _ hb ih =>
      -- a backslash has gone to the cases before, with nothing or a character after it
      have hplain : c ≠ '\\' := by
        intro hc
        cases cs with
        | nil => exact hend hc rfl
        | cons d cs => exact hb d cs hc rfl
      obtain ⟨⟨s', _⟩, hs, he⟩ := Option.map_eq_some_iff.1 h
      cases he
      obtain ⟨body, hbody, rfl⟩ := ih hs
      exact ⟨_, hbody.plain hq hplain, rfl⟩
  · rintro ⟨body, hbody, rfl⟩
    induction hbody with
    | nil => rfl
    | plain hq hb _ ih => simp [literalBody, hb, ih]
    | lineFeed _ ih => simp [literalBody, ih]
    | escaped hn _ ih => simp [literalBody, ih]

theorem accepts_stringLiteral : Accepts stringLiteral QuotedToken fun _ => false where
  opens := by
    rintro s t ⟨cs, -, rfl⟩
    exact (rfl : isSpace '"' = false)
  sound := by
    intro cs s rest h
    unfold stringLiteral at h
    split at h
    next tail =>
      split at h
      next p hp =>
        cases h
        obtain ⟨body, hbody, rfl⟩ := literalBody_eq_some_iff.1 hp
        exact ⟨_, ⟨body, hbody, rfl⟩, by simp⟩
      next => cases h
    next => cases h
  complete := by
    rintro s t rest ⟨cs, hcs, rfl⟩ -
    have hbody : literalBody (cs ++ '"' :: rest) = some (s, rest) :=
      literalBody_eq_some_iff.2 ⟨cs, hcs, rfl⟩
    simp only [stringLiteral, List.cons_append, List.append_assoc, List.nil_append, hbody]

theorem readBoolean_eq_some_iff {t : List Char} {b : Bool} :
    Value.readBoolean t = some b ↔ t = (if b then "true" else "false").toList := by
  have ht : "true".toList = ['t', 'r', 'u', 'e'] := rfl
  have hf : "false".toList = ['f', 'a', 'l', 's', 'e'] := rfl
  unfold Value.readBoolean
  split
  next h => subst h; cases b <;> simp [ht, hf]
  next h =>
    split
    next h' => subst h'; cases b <;> simp [ht, hf]
    next h' => cases b <;> simp [ht, hf, h, h']

theorem bareValue_eq_iff {t : List Char} {v : Value} : bareValue t = v ↔ BareMeaning t v := by
  constructor
  · rintro rfl
    unfold bareValue
    split
    next i h => exact .integer h
    next hi =>
      split
      next x h => exact .number hi h
      next hx =>
        split
        next b h => exact .boolean hi hx (readBoolean_eq_some_iff.1 h)
        next hb =>
          refine .text hi hx ⟨fun h => ?_, fun h => ?_⟩
          · rw [(readBoolean_eq_some_iff (b := true)).2 h] at hb
            cases hb
          · rw [(readBoolean_eq_some_iff (b := false)).2 h] at hb
            cases hb
  · intro h
    unfold bareValue
    cases h with
    | integer h => rw [h]
    | number hi h => rw [hi, h]
    | boolean hi hx h => rw [hi, hx, readBoolean_eq_some_iff.2 h]
    | text hi hx hb =>
      have hnone : Value.readBoolean t = none := by
        rw [Option.eq_none_iff_forall_ne_some]
        intro b hr
        cases b with
        | true => exact hb.1 (readBoolean_eq_some_iff.1 hr)
        | false => exact hb.2 (readBoolean_eq_some_iff.1 hr)
      rw [hi, hx, hnone]

theorem spaceless_isBare : Spaceless isBare := by decide

theorem opens_of_forall {p : Char → Bool} {t : List Char} (hp : Spaceless p) (hne : t ≠ [])
    (ht : ∀ c ∈ t, p c = true) : Opens isSpace t := by
  obtain ⟨c, t, rfl⟩ := List.exists_cons_of_ne_nil hne
  show isSpace c = false
  by_contra h
  have hc := hp.eq_false (by simpa using h)
  rw [ht c List.mem_cons_self] at hc
  cases hc

theorem stringLiteral_of_bare {t rest : List Char} (hne : t ≠ []) (h : ∀ c ∈ t, isBare c = true) :
    ∃ e, stringLiteral (t ++ rest) = .error e := by
  obtain ⟨c, t, rfl⟩ := List.exists_cons_of_ne_nil hne
  have hc : c ≠ '"' := by
    rintro rfl
    exact absurd (h '"' List.mem_cons_self) (by decide)
  refine ⟨⟨c :: t ++ rest, .character⟩, ?_⟩
  unfold stringLiteral
  split
  next he => exact absurd (List.head_eq_of_cons_eq he) hc
  next => rfl

theorem accepts_literal : Accepts literal LiteralToken isBare where
  opens := by
    intro v t h
    cases h with
    | quoted h => exact accepts_stringLiteral.opens h
    | bare hne h => exact opens_of_forall spaceless_isBare hne h
  sound := by
    intro cs v rest h
    unfold literal at h
    split at h
    next s rest' hs =>
      cases h
      obtain ⟨t, ht, hcs⟩ := accepts_stringLiteral.sound hs
      exact ⟨t, .quoted ht, hcs⟩
    next =>
      dsimp only at h
      split at h
      next => cases h
      next hne =>
        cases h
        have hrun := run_iff.1 ⟨(rfl : cs.takeWhile isBare = _), rfl⟩
        exact ⟨_, .bare hne hrun.2.1 (bareValue_eq_iff.1 rfl), hrun.1⟩
  complete := by
    intro v t rest h hstop
    unfold literal
    cases h with
    | quoted h => rw [accepts_stringLiteral.complete h (fun _ _ => rfl)]
    | bare hne h hv =>
      obtain ⟨e, he⟩ := stringLiteral_of_bare hne h
      have hrun := run_iff.2 ⟨rfl, h, hstop⟩
      rw [he]
      simp only [hrun.1, hrun.2, if_neg hne, bareValue_eq_iff.2 hv]

theorem ofSymbol?_eq_some_iff {op : Operator} {t : List Char} :
    Operator.ofSymbol? t = some op ↔ OperatorToken op t := by
  constructor
  · intro h
    unfold Operator.ofSymbol? at h
    split at h
    next ht => cases h; exact .inr ⟨rfl, ht⟩
    next => exact .inl (by simpa [eq_comm] using List.find?_some h)
  · rintro (rfl | ⟨rfl, rfl⟩)
    · exact Operator.ofSymbol?_symbol op
    · rfl

theorem append_of_firstWord {ws : List (List Char)} {cs w rest : List Char}
    (h : firstWord ws cs = .ok (w, rest)) : cs = w ++ rest := by
  induction ws with
  | nil => cases h
  | cons v ws ih =>
    unfold firstWord at h
    split at h
    next hv => cases h; exact afterWord_eq_some_iff.1 hv
    next => exact ih h

/-- No symbol is taken for one it begins with. -/
theorem firstWord_operatorSymbols {op : Operator} {t rest : List Char} (ht : OperatorToken op t)
    (hstop : Stops (· = '=') rest) : firstWord operatorSymbols (t ++ rest) = .ok (t, rest) := by
  have hnone : afterWord ['='] rest = none := by
    cases rest with
    | nil => rfl
    | cons c rest =>
      have hc : c ≠ '=' := by simpa using hstop c rfl
      simp [afterWord, hc.symm]
  rcases ht with rfl | ⟨rfl, rfl⟩
  · cases op <;> simp [operatorSymbols, firstWord, Operator.symbol, afterWord, hnone]
  · simp [operatorSymbols, firstWord, afterWord]

theorem accepts_operator : Accepts operator OperatorToken (· = '=') where
  opens := by
    rintro op t (rfl | ⟨rfl, rfl⟩)
    · cases op <;> simp [Opens, Operator.symbol, isSpace]
    · simp [Opens, isSpace]
  sound := by
    intro cs op rest h
    obtain ⟨⟨t, rest'⟩, ht, h⟩ := bind_eq_ok_iff.1 h
    dsimp only at h
    split at h
    next op' hop =>
      cases h
      exact ⟨t, ofSymbol?_eq_some_iff.1 hop, append_of_firstWord ht⟩
    next => cases h
  complete := by
    intro op t rest ht hstop
    refine bind_eq_ok_iff.2 ⟨_, firstWord_operatorSymbols ht hstop, ?_⟩
    simp only [ofSymbol?_eq_some_iff.2 ht]
    rfl

/-! ## Ranges -/

theorem readDigits_eq_some_iff {ds : List Char} {n : Nat} :
    readDigits ds = some n ↔ ds ≠ [] ∧ (∀ c ∈ ds, c.isDigit = true) ∧ digitsValue ds = n := by
  simp [readDigits, and_assoc]

theorem ofSuffix?_eq_some_iff {cs : List Char} {u : TimeUnit} :
    TimeUnit.ofSuffix? cs = some u ↔ cs = u.suffix := by
  constructor
  · intro h
    simpa [eq_comm] using List.find?_some h
  · rintro rfl
    exact TimeUnit.ofSuffix?_suffix u

theorem stops_suffix (u : TimeUnit) : Stops Char.isDigit u.suffix := by
  intro c hc
  obtain ⟨d, ds, hu, hd, -⟩ := exists_cons_suffix u
  rw [hu] at hc
  cases hc
  exact hd

end Grammar

theorem Range.read_eq_some_iff {cs : List Char} {r : Range} :
    Range.read cs = some r ↔ Grammar.RangeToken r cs := by
  constructor
  · intro h
    unfold read at h
    split at h
    next cs =>
      obtain ⟨n, hn, h⟩ := Option.bind_eq_some_iff.1 h
      obtain ⟨hne, hd, rfl⟩ := Grammar.readDigits_eq_some_iff.1 hn
      split at h
      next hlt =>
        obtain ⟨u, hu, rfl⟩ := Option.map_eq_some_iff.1 h
        have hcs : cs = cs.takeWhile Char.isDigit ++ u.suffix := by
          rw [← Grammar.ofSuffix?_eq_some_iff.1 hu, List.takeWhile_append_dropWhile]
        rw [congrArg ('-' :: ·) hcs]
        exact .intro hne hd hlt u
      next => cases h
    next => cases h
  · rintro ⟨hne, hd, hlt, u⟩
    obtain ⟨ht, hs⟩ := run_iff.2 ⟨rfl, hd, Grammar.stops_suffix u⟩
    unfold read
    simp only [ht, hs, Grammar.readDigits_eq_some_iff.2 ⟨hne, hd, rfl⟩, Option.bind_some,
      if_pos hlt, TimeUnit.ofSuffix?_suffix, Option.map_some]

namespace Grammar

theorem accepts_rangeStart : Accepts rangeStart RangeToken isAsciiAlphanumeric where
  opens := by
    rintro r t ⟨-, -, -, u⟩
    exact (by decide : isSpace '-' = false)
  sound := by
    intro cs r rest h
    unfold rangeStart at h
    split at h
    next cs =>
      dsimp only at h
      split at h
      next r' hr =>
        cases h
        refine ⟨_, Range.read_eq_some_iff.1 hr, ?_⟩
        rw [List.cons_append, List.takeWhile_append_dropWhile]
      next => cases h
    next => cases h
  complete := by
    intro r t rest h hstop
    have hread := Range.read_eq_some_iff.2 h
    obtain ⟨hne, hd, hlt, u⟩ := h
    rename_i ds
    have hall : ∀ c ∈ ds ++ u.suffix, isAsciiAlphanumeric c = true := by
      intro c hc
      rcases List.mem_append.1 hc with hc | hc
      · exact isAsciiAlphanumeric_of_isDigit (hd c hc)
      · obtain ⟨_, _, hu, -, hall⟩ := exists_cons_suffix u
        exact List.all_eq_true.1 hall c (hu ▸ hc)
    obtain ⟨ht, hs⟩ := run_iff.2 ⟨rfl, hall, hstop⟩
    rw [List.cons_append, rangeStart]
    simp only [ht, hs, hread]

/-! ## Columns -/

theorem spaceless_isNameChar : Spaceless isNameChar := by decide +kernel

/-- A column of the row a filter looks at. -/
def rowColumn : Reads String := fun cs => do
  let cs ← word "r.".toList cs
  columnName cs

theorem accepts_rowColumn : Accepts rowColumn
    (fun name t => PlainName name ∧ t = "r.".toList ++ name.toList) isNameChar where
  opens := by
    rintro name t ⟨-, rfl⟩
    exact (by decide : isSpace 'r' = false)
  sound := by
    intro cs name rest h
    obtain ⟨mid, hmid, h⟩ := bind_eq_ok_iff.1 h
    unfold columnName at h
    dsimp only at h
    split at h
    next => cases h
    next hne =>
      cases h
      have hrun := run_iff.1 ⟨(rfl : mid.takeWhile isNameChar = _), rfl⟩
      have hname : (String.ofList (mid.takeWhile isNameChar)).toList = mid.takeWhile isNameChar :=
        String.toList_ofList
      refine ⟨_, ⟨⟨?_, ?_⟩, rfl⟩, ?_⟩
      · rw [hname]; exact hne
      · rw [hname]; exact hrun.2.1
      · rw [hname, List.append_assoc, ← hrun.1]
        exact word_eq_ok_iff.1 hmid
  complete := by
    rintro name t rest ⟨hname, rfl⟩ hstop
    obtain ⟨ht, hd⟩ := run_iff.2 ⟨rfl, hname.2, hstop⟩
    refine bind_eq_ok_iff.2 ⟨_, word_eq_ok_iff.2 (List.append_assoc ..), ?_⟩
    unfold columnName
    simp only [ht, hd, if_neg hname.1, String.ofList_toList]

/-! ## Stages -/

theorem opens_operator {op : Operator} {t : List Char} (h : OperatorToken op t) :
    Opens isNameChar t := by
  have hsymbols : (['<', '>', '=', '!'].all fun c => !isNameChar c) = true := by decide +kernel
  have hsymbol : ∀ c ∈ ['<', '>', '=', '!'], isNameChar c = false := fun c hc => by
    simpa using List.all_eq_true.1 hsymbols c hc
  rcases h with rfl | ⟨-, rfl⟩
  · cases op <;> exact hsymbol _ (by decide)
  · exact hsymbol _ (by decide)

theorem opens_literal {v : Value} {t : List Char} (h : LiteralToken v t) :
    Opens (· = '=') t := by
  cases h with
  | quoted h =>
    obtain ⟨_, -, rfl⟩ := h
    exact (by decide : decide ('"' = '=') = false)
  | bare hne h =>
    obtain ⟨c, t, rfl⟩ := List.exists_cons_of_ne_nil hne
    refine decide_eq_false ?_
    rintro rfl
    exact absurd (h '=' List.mem_cons_self) (by decide)

theorem rangeStage_skipSpaces_iff {r : Range} {cs rest : List Char} :
    rangeStage (skipSpaces cs) = .ok (r, rest) ↔
      ∃ ts, StageTokens (.range r) ts ∧ Spaced ts cs rest := by
  refine (clause_eq_ok_iff (show Opens isSpace "range".toList from rfl)
    (show Opens isSpace "start".toList from rfl)).trans ?_
  simp only [bind_eq_ok_iff, pure_eq_ok_iff, Prod.exists, closeParen_eq_ok_iff, Prod.mk.injEq]
  constructor
  · rintro ⟨_, hhead, _, _, hr, _, hclose, rfl, rfl⟩
    obtain ⟨t, ht, htoken⟩ := accepts_rangeStart.take hr
    exact ⟨_, .range ht, spaced_clause_iff.2 ⟨_, hhead, .cons htoken (.cons hclose (.nil _))⟩⟩
  · rintro ⟨_, ⟨ht⟩, h⟩
    rename_i t
    obtain ⟨_, hhead, h⟩ := spaced_clause_iff.1 h
    simp only [spaced_cons_iff, spaced_nil_iff, exists_eq_right] at h
    obtain ⟨_, htoken, hclose⟩ := h
    have hstop := stops_of_token (by decide) (show Opens isAsciiAlphanumeric [')'] from rfl) hclose
    exact ⟨_, hhead, _, _, accepts_rangeStart.read_skipSpaces ht htoken hstop, _, hclose, rfl, rfl⟩

/-- What a filter asks of a row, and the closing parenthesis. -/
def comparison : Reads Filter := fun cs => do
  let (column, cs) ← rowColumn cs
  let (op, cs) ← operator (skipSpaces cs)
  let (value, cs) ← literal (skipSpaces cs)
  let cs ← closeParen cs
  return (⟨column, op, value⟩, cs)

theorem comparison_skipSpaces_iff {f : Filter} {cs rest : List Char} :
    comparison (skipSpaces cs) = .ok (f, rest) ↔
      ∃ symbol t, PlainName f.column ∧ OperatorToken f.op symbol ∧ LiteralToken f.literal t ∧
        Spaced ["r.".toList ++ f.column.toList, symbol, t, [')']] cs rest := by
  unfold comparison
  simp only [bind_eq_ok_iff, pure_eq_ok_iff, Prod.exists, closeParen_eq_ok_iff, Prod.mk.injEq,
    spaced_cons_iff, spaced_nil_iff, exists_eq_right]
  constructor
  · rintro ⟨_, _, hcolumn, _, _, hop, _, _, hliteral, _, hclose, rfl, rfl⟩
    obtain ⟨_, ⟨hname, rfl⟩, hcolumn⟩ := accepts_rowColumn.take hcolumn
    obtain ⟨symbol, hsymbol, hop⟩ := accepts_operator.take hop
    obtain ⟨t, ht, hliteral⟩ := accepts_literal.take hliteral
    exact ⟨symbol, t, hname, hsymbol, ht, _, hcolumn, _, hop, _, hliteral, hclose⟩
  · rintro ⟨symbol, t, hname, hsymbol, ht, _, hcolumn, _, hop, _, hliteral, hclose⟩
    have hcolumn := accepts_rowColumn.read_skipSpaces ⟨hname, rfl⟩ hcolumn
      (stops_of_token spaceless_isNameChar (opens_operator hsymbol) hop)
    have hop := accepts_operator.read_skipSpaces hsymbol hop
      (stops_of_token (by decide) (opens_literal ht) hliteral)
    have hliteral := accepts_literal.read_skipSpaces ht hliteral
      (stops_of_token spaceless_isBare (show Opens isBare [')'] from rfl) hclose)
    exact ⟨_, _, hcolumn, _, _, hop, _, _, hliteral, _, hclose, rfl, rfl⟩

theorem comparison_eq (cs : List Char) : comparison cs = (do
    let cs ← word "r.".toList cs
    let (column, cs) ← columnName cs
    let (op, cs) ← operator (skipSpaces cs)
    let (value, cs) ← literal (skipSpaces cs)
    let cs ← closeParen cs
    return (⟨column, op, value⟩, cs)) := by
  simp only [comparison, rowColumn, bind_assoc]

theorem filterStage_skipSpaces_iff {f : Filter} {cs rest : List Char} :
    filterStage (skipSpaces cs) = .ok (f, rest) ↔
      ∃ ts, StageTokens (.filter f) ts ∧ Spaced ts cs rest := by
  refine (clause_eq_ok_iff (show Opens isSpace "filter".toList from rfl)
    (show Opens isSpace "fn".toList from rfl)).trans ?_
  simp only [← comparison_eq, bind_eq_ok_iff, character_skipSpaces_iff (c := '(') rfl,
    character_skipSpaces_iff (c := 'r') rfl, character_skipSpaces_iff (c := ')') rfl,
    word_skipSpaces_iff (show Opens isSpace "=>".toList from rfl), comparison_skipSpaces_iff]
  constructor
  · rintro ⟨_, hhead, _, hopen, _, hr, _, hclose, _, harrow, symbol, t, hname, hsymbol, ht, h⟩
    exact ⟨_, .filter hname hsymbol ht, spaced_clause_iff.2
      ⟨_, hhead, .cons hopen (.cons hr (.cons hclose (.cons harrow h)))⟩⟩
  · rintro ⟨_, hs, h⟩
    cases hs with
    | @filter _ _ _ symbol t hname hsymbol ht =>
      obtain ⟨_, hhead, h⟩ := spaced_clause_iff.1 h
      obtain ⟨_, hopen, h⟩ := spaced_cons_iff.1 h
      obtain ⟨_, hr, h⟩ := spaced_cons_iff.1 h
      obtain ⟨_, hclose, h⟩ := spaced_cons_iff.1 h
      obtain ⟨_, harrow, h⟩ := spaced_cons_iff.1 h
      exact ⟨_, hhead, _, hopen, _, hr, _, hclose, _, harrow, symbol, t, hname, hsymbol, ht, h⟩

/-- The two kinds of stage begin differently, so the order they are tried in does not matter. -/
theorem rangeStage_of_filter {f : Filter} {ts : List (List Char)} {cs rest : List Char}
    (h : StageTokens (.filter f) ts) (hcs : Spaced ts cs rest) :
    ∃ e, rangeStage (skipSpaces cs) = .error e := by
  cases h
  obtain ⟨mid, hword, -⟩ := spaced_cons_iff.1 hcs
  rw [(token_iff (show Opens isSpace "filter".toList from rfl)).1 hword]
  exact ⟨_, rfl⟩

theorem stage_skipSpaces_iff {s : Stage} {cs rest : List Char} :
    stage (skipSpaces cs) = .ok (s, rest) ↔ ∃ ts, StageTokens s ts ∧ Spaced ts cs rest := by
  constructor
  · intro h
    unfold stage at h
    split at h
    next r _ hr => cases h; exact rangeStage_skipSpaces_iff.1 hr
    next =>
      split at h
      next f _ hf => cases h; exact filterStage_skipSpaces_iff.1 hf
      next => cases h
  · rintro ⟨ts, hs, hcs⟩
    unfold stage
    cases s with
    | range r => rw [rangeStage_skipSpaces_iff.2 ⟨ts, hs, hcs⟩]
    | filter f =>
      obtain ⟨e, he⟩ := rangeStage_of_filter hs hcs
      rw [he, filterStage_skipSpaces_iff.2 ⟨ts, hs, hcs⟩]

theorem pipedStage_eq_ok_iff {s : Stage} {cs rest : List Char} :
    pipedStage cs = .ok (s, rest) ↔
      ∃ ts, StageTokens s ts ∧ Spaced ("|>".toList :: ts) cs rest := by
  simp only [pipedStage, bind_eq_ok_iff, stage_skipSpaces_iff, spaced_cons_iff,
    word_skipSpaces_iff (show Opens isSpace "|>".toList from rfl)]
  constructor
  · rintro ⟨mid, hmark, ts, hs, h⟩
    exact ⟨ts, hs, mid, hmark, h⟩
  · rintro ⟨ts, hs, mid, hmark, h⟩
    exact ⟨mid, hmark, ts, hs, h⟩

theorem readSource_skipSpaces_iff {bucket : String} {cs rest : List Char} :
    readSource (skipSpaces cs) = .ok (bucket, rest) ↔
      ∃ ts, SourceTokens bucket ts ∧ Spaced ts cs rest := by
  refine (clause_eq_ok_iff (show Opens isSpace "from".toList from rfl)
    (show Opens isSpace "bucket".toList from rfl)).trans ?_
  simp only [bind_eq_ok_iff, pure_eq_ok_iff, Prod.exists, closeParen_eq_ok_iff, Prod.mk.injEq]
  constructor
  · rintro ⟨_, hhead, name, _, hname, _, hclose, rfl, rfl⟩
    obtain ⟨t, ht, htoken⟩ := accepts_stringLiteral.take hname
    exact ⟨_, ⟨t, by rwa [String.toList_ofList], rfl⟩,
      spaced_clause_iff.2 ⟨_, hhead, .cons htoken (.cons hclose (.nil _))⟩⟩
  · rintro ⟨_, ⟨t, ht, rfl⟩, h⟩
    obtain ⟨_, hhead, h⟩ := spaced_clause_iff.1 h
    simp only [spaced_cons_iff, spaced_nil_iff, exists_eq_right] at h
    obtain ⟨_, htoken, hclose⟩ := h
    exact ⟨_, hhead, _, _, accepts_stringLiteral.read_skipSpaces ht htoken fun _ _ => rfl, _,
      hclose, String.ofList_toList, rfl⟩

/-! ## Runs of stages -/

theorem Token.length_lt {c : Char} {t cs rest : List Char} (h : Token (c :: t) cs rest) :
    rest.length < cs.length := by
  obtain ⟨ws, -, rfl⟩ := h
  simp
  omega

theorem Spaced.length_le {ts : List (List Char)} {cs rest : List Char} (h : Spaced ts cs rest) :
    rest.length ≤ cs.length := by
  induction h with
  | nil => exact Nat.le_refl _
  | cons h _ ih =>
    obtain ⟨ws, -, rfl⟩ := h
    simp
    omega

theorem readStages_sound (cs : List Char) :
    ∃ us, StagesTokens (readStages cs).1 us ∧ Spaced us cs (readStages cs).2 := by
  fun_induction readStages cs with
  | case1 cs s rest hs hlt stages rest' h ih =>
    obtain ⟨ts, hts, hcs⟩ := pipedStage_eq_ok_iff.1 hs
    obtain ⟨us, hus, hrest⟩ := ih
    rw [h] at hus hrest
    exact ⟨_, .cons hts hus, (@spaced_append_iff _ _ (_ :: ts) us).2 ⟨rest, hcs, hrest⟩⟩
  | case2 => exact ⟨[], .nil, .nil _⟩
  | case3 => exact ⟨[], .nil, .nil _⟩

/-- Where only white space is left, no stage begins. -/
theorem readStages_of_blank {cs : List Char} (h : ∀ c ∈ cs, isBlank c = true) :
    readStages cs = ([], cs) := by
  have hmark : ∀ s rest, pipedStage cs ≠ .ok (s, rest) := by
    intro s rest hs
    obtain ⟨ts, -, hcs⟩ := pipedStage_eq_ok_iff.1 hs
    obtain ⟨_, ⟨ws, -, rfl⟩, -⟩ := spaced_cons_iff.1 hcs
    exact absurd (h '|' (by simp)) (by decide)
  rw [readStages]
  split
  next s rest hs => exact absurd hs (hmark s rest)
  next => rfl

/-- Stages in front are read, and then the stages after them. -/
theorem readStages_append {stages : List Stage} {us : List (List Char)} {cs rest : List Char}
    (h : StagesTokens stages us) (hcs : Spaced us cs rest) :
    readStages cs = (stages ++ (readStages rest).1, (readStages rest).2) := by
  induction h generalizing cs with
  | nil =>
    cases hcs
    rfl
  | @cons s stages ts us hs _ ih =>
    obtain ⟨mid, hmid, hcs⟩ := (@spaced_append_iff _ _ ("|>".toList :: ts) us).1 hcs
    obtain ⟨_, hmark, hstage⟩ := spaced_cons_iff.1 hmid
    have hlt : mid.length < cs.length := Nat.lt_of_le_of_lt hstage.length_le (Token.length_lt hmark)
    rw [readStages_cons (pipedStage_eq_ok_iff.2 ⟨ts, hs, hmid⟩) hlt, ih hcs]
    rfl

theorem readStages_complete {stages : List Stage} {us : List (List Char)} {cs rest : List Char}
    (h : StagesTokens stages us) (hcs : Spaced us cs rest) (hrest : ∀ c ∈ rest, isBlank c = true) :
    readStages cs = (stages, rest) := by
  rw [readStages_append h hcs, readStages_of_blank hrest, List.append_nil]

/-! ## Whole texts -/

theorem trim_eq_nil_iff {cs : List Char} : trim cs = [] ↔ ∀ c ∈ cs, isBlank c = true := by
  unfold trim trimLeft
  rw [List.reverse_eq_nil_iff, List.dropWhile_eq_nil_iff]
  constructor
  · intro h c hc
    rw [← List.takeWhile_append_dropWhile (p := isBlank) (l := cs)] at hc
    rcases List.mem_append.1 hc with hc | hc
    · exact List.mem_takeWhile_imp hc
    · exact h c (List.mem_reverse.2 hc)
  · intro h c hc
    exact h c ((List.dropWhile_suffix _).mem (List.mem_reverse.1 hc))

end Grammar

open Grammar

theorem Pipeline.lastRange_eq (stages : List Stage) :
    lastRange stages = (stages.filterMap Stage.range?).getLast? := by
  induction stages using List.reverseRecOn with
  | nil => rfl
  | append_singleton stages s ih =>
    unfold lastRange at ih ⊢
    rw [List.foldl_append, ih, List.filterMap_append]
    cases s with
    | range r => simp [Stage.range?]
    | filter f => simp [Stage.range?]

theorem Pipeline.ofStages_eq (bucket : String) (stages : List Stage) :
    ofStages bucket stages =
      ⟨bucket, (stages.filterMap Stage.range?).getLast?, stages.filterMap Stage.filter?⟩ := by
  rw [ofStages, lastRange_eq, filtersOf]
  congr 2
  funext s
  cases s <;> rfl

/-- A text is read as a pipeline exactly if the grammar derives it with that pipeline as its
denotation. -/
theorem Pipeline.parse_eq_ok_iff (s : String) (p : Pipeline) :
    Pipeline.parse s = .ok p ↔ Pipeline.Denotes s.toList p := by
  unfold Pipeline.parse Pipeline.read
  constructor
  · intro h
    split at h
    next => cases h
    next bucket mid hsource =>
      dsimp only at h
      split at h
      next hleft =>
        cases h
        obtain ⟨ts, hts, hcs⟩ := readSource_skipSpaces_iff.1 hsource
        obtain ⟨us, hus, hmid⟩ := readStages_sound mid
        rw [ofStages_eq]
        exact .intro hts hus (spaced_append_iff.2 ⟨mid, hcs, hmid⟩) (trim_eq_nil_iff.1 hleft)
      next => cases h
  · rintro ⟨hts, hus, hcs, hrest⟩
    obtain ⟨mid, hcs, hmid⟩ := spaced_append_iff.1 hcs
    rw [readSource_skipSpaces_iff.2 ⟨_, hts, hcs⟩]
    simp only [readStages_complete hus hmid hrest, trim_eq_nil_iff.2 hrest, if_true, ofStages_eq]

end TypedSeries
