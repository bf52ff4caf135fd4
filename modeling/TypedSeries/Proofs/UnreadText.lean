import Mathlib.Data.List.DropRight
import TypedSeries.Proofs.PipelineGrammar

/-!
# The text that is left over

Query text that opens with a source and is refused all the same is refused for the text behind its
last stage.

1. Tokens end where their text ends, so they stand in front of any other text as well
   (`Grammar.Spaced.exists_front`).
2. What reads on its own is read in front of more text too, and there the stages may only go
   further (`Grammar.readStages_append`). White space that is cut off from a stage behind it is
   shorter than what the stage takes (`Grammar.length_unread_le`).
3. So no front that reads reaches past the white space behind the last stage
   (`Pipeline.length_unread_le`).

**Main.** `Pipeline.parse_leftOver`: such a text is refused with what is left of it behind its
longest front that reads.
-/

namespace TypedSeries

open Grammar

namespace Grammar

variable {ts : List (List Char)} {cs rest white tail : List Char}

/-! ## Tokens and the text behind them -/

/-- Tokens do not depend on the text behind them. -/
theorem Spaced.exists_front (h : Spaced ts cs rest) :
    ∃ front, cs = front ++ rest ∧ ∀ tail, Spaced ts (front ++ tail) tail := by
  induction h with
  | nil rest => exact ⟨[], rfl, .nil⟩
  | @cons t ts cs mid rest h _ ih =>
    obtain ⟨ws, hws, rfl⟩ := h
    obtain ⟨front, rfl, hfront⟩ := ih
    exact ⟨ws ++ (t ++ front), by simp, fun tail => .cons ⟨ws, hws, by simp⟩ (hfront tail)⟩

theorem Spaced.append (h : Spaced ts cs rest) (tail : List Char) :
    Spaced ts (cs ++ tail) (rest ++ tail) := by
  obtain ⟨front, rfl, hfront⟩ := h.exists_front
  rw [List.append_assoc]
  exact hfront (rest ++ tail)

/-- A mark behind white space stands behind all of it. -/
theorem Token.length_le_of_blank {mid : List Char} (hw : ∀ c ∈ white, isBlank c = true)
    (h : Token "|>".toList (white ++ tail) mid) : mid.length ≤ tail.length := by
  obtain ⟨ws, -, h⟩ := h
  have hmark : "|>".toList = ['|', '>'] := rfl
  rw [hmark] at h
  rcases List.append_eq_append_iff.1 h with ⟨between, -, htail⟩ | ⟨between, hwhite, hbehind⟩
  · simp [htail]
    omega
  · cases between with
    | nil =>
      rw [List.nil_append] at hbehind
      simp [← hbehind]
      omega
    | cons c between =>
      -- the mark would begin within the white space
      obtain rfl : c = '|' := (List.cons.inj hbehind).1.symm
      exact absurd (hw '|' (by simp [hwhite])) (by decide)

/-- The stages behind white space leave no more of a text than there is behind the white space. -/
theorem length_unread_le (hw : ∀ c ∈ white, isBlank c = true) (tail : List Char) :
    (trimLeft (readStages (white ++ tail)).2).length ≤ tail.length := by
  obtain ⟨us, hus, hcs⟩ := readStages_sound (white ++ tail)
  generalize (readStages (white ++ tail)).1 = stages at hus
  generalize (readStages (white ++ tail)).2 = left at hcs ⊢
  cases hus with
  | nil =>
    obtain rfl := spaced_nil_iff.1 hcs
    rw [trimLeft, List.dropWhile_append_of_pos hw]
    exact (List.dropWhile_suffix _).length_le
  | cons =>
    obtain ⟨mid, hmark, hstage⟩ := spaced_cons_iff.1 hcs
    calc (trimLeft left).length ≤ left.length := (List.dropWhile_suffix _).length_le
      _ ≤ mid.length := hstage.length_le
      _ ≤ tail.length := hmark.length_le_of_blank hw

theorem trim_trimLeft (cs : List Char) : trim (trimLeft cs) = trim cs := by
  unfold trim trimLeft
  rw [List.dropWhile_idempotent isBlank cs]

end Grammar

namespace Pipeline

/-! ## Fronts that read -/

/-- A front of a text that is query text on its own, with the rest of the text; no longer front of
the text is. -/
structure LongestFront (s front rest : String) : Prop where
  append : front ++ rest = s
  reads : ∃ p, parse front = .ok p
  longest : ∀ other tail, other ++ tail = s → (∃ p, parse other = .ok p) →
    other.length ≤ front.length

section Read

variable {bucket : String} {cs mid front tail : List Char} {p : Pipeline}

/-- A text that opens with a source is read as far as its stages go. -/
theorem read_of_source (h : readSource (skipSpaces cs) = .ok (bucket, mid)) : read cs =
    if trim (readStages mid).2 = [] then .ok (.ofStages bucket (readStages mid).1)
    else .error (.leftOver (String.ofList (trim (readStages mid).2))) := by
  unfold read
  rw [h]

theorem exists_source_of_read (h : read cs = .ok p) :
    ∃ bucket mid, readSource (skipSpaces cs) = .ok (bucket, mid) ∧
      ∀ c ∈ (readStages mid).2, isBlank c = true := by
  cases hsource : readSource (skipSpaces cs) with
  | error e => simp [read, hsource] at h
  | ok source =>
    obtain ⟨bucket, mid⟩ := source
    refine ⟨bucket, mid, rfl, trim_eq_nil_iff.1 ?_⟩
    rw [read_of_source hsource] at h
    split at h
    next hleft => exact hleft
    next => cases h

/-- A front that reads leaves no less of the text than its stages and the white space behind them
do. -/
theorem length_unread_le (h : readSource (skipSpaces (front ++ tail)) = .ok (bucket, mid))
    (hp : read front = .ok p) : (trimLeft (readStages mid).2).length ≤ tail.length := by
  obtain ⟨own, behind, hown, hwhite⟩ := exists_source_of_read hp
  -- the front's source is the text's, and its stages are stages of the text
  obtain ⟨ts, hts, hsource⟩ := readSource_skipSpaces_iff.1 hown
  have hsame := readSource_skipSpaces_iff.2 ⟨ts, hts, hsource.append tail⟩
  obtain ⟨-, rfl⟩ : bucket = own ∧ mid = behind ++ tail := by simpa [hsame, eq_comm] using h
  obtain ⟨us, hus, hstages⟩ := readStages_sound behind
  rw [readStages_append hus (hstages.append tail)]
  exact Grammar.length_unread_le hwhite tail

/-- The source, the stages and the white space behind them read on their own. -/
theorem exists_front (h : readSource (skipSpaces cs) = .ok (bucket, mid)) :
    ∃ front, cs = front ++ trimLeft (readStages mid).2 ∧
      Denotes front (.ofStages bucket (readStages mid).1) ∧
      read front = .ok (.ofStages bucket (readStages mid).1) := by
  obtain ⟨ts, hts, hsource⟩ := readSource_skipSpaces_iff.1 h
  obtain ⟨us, hus, hstages⟩ := readStages_sound mid
  generalize (readStages mid).1 = stages at hus ⊢
  generalize (readStages mid).2 = left at hstages ⊢
  obtain ⟨tokens, rfl, hfronts⟩ := (spaced_append_iff.2 ⟨mid, hsource, hstages⟩).exists_front
  have hsplit : left.takeWhile isBlank ++ trimLeft left = left := List.takeWhile_append_dropWhile
  have hwhite : ∀ c ∈ left.takeWhile isBlank, isBlank c = true := fun _ => List.mem_takeWhile_imp
  generalize left.takeWhile isBlank = white at hsplit hwhite
  have hfront : Spaced (ts ++ us) (tokens ++ white) white := hfronts white
  refine ⟨tokens ++ white, by rw [List.append_assoc, hsplit], ?_, ?_⟩
  · rw [ofStages_eq]
    exact .intro hts hus hfront hwhite
  · obtain ⟨behind, hopens, hunread⟩ := spaced_append_iff.1 hfront
    rw [read_of_source (readSource_skipSpaces_iff.2 ⟨ts, hts, hopens⟩),
      readStages_complete hus hunread hwhite, if_pos (trim_eq_nil_iff.2 hwhite)]

end Read

/-- **The text that is left over.** A text that opens with a source and is refused is refused with
what is left of it, without white space around it, behind its longest front that reads on its own.
That front is the source, complete stages and white space, and something is left. -/
theorem parse_leftOver {s bucket : String} {mid : List Char}
    (hsource : readSource (skipSpaces s.toList) = .ok (bucket, mid))
    (hrefused : ∀ p, parse s ≠ .ok p) :
    ∃ front rest p, LongestFront s front rest ∧
      parse front = .ok p ∧ p.bucket = bucket ∧ Denotes front.toList p ∧
      trimText rest ≠ "" ∧ parse s = .error (.leftOver (trimText rest)) ∧
      (QueryError.leftOver (trimText rest)).message =
        "Parse error: Unexpected input after pipeline: '" ++ trimText rest ++ "'" := by
  obtain ⟨front, hcs, hdenotes, hfront⟩ := exists_front hsource
  have hread : parse s = _ := read_of_source hsource
  have hlongest : ∀ other tail, other ++ tail = s → (∃ p, parse other = .ok p) →
      other.length ≤ front.length := by
    rintro other tail rfl ⟨p, hp⟩
    rw [String.toList_append] at hsource hcs
    have hle := length_unread_le hsource hp
    have hlength := congrArg List.length hcs
    rw [List.length_append, List.length_append] at hlength
    rw [← String.length_toList]
    omega
  generalize (readStages mid).2 = left at hcs hread
  generalize (readStages mid).1 = stages at hdenotes hfront hread
  have hleft : trim left ≠ [] := fun hnil => hrefused _ (hread.trans (if_pos hnil))
  have hrest : trimText (String.ofList (trimLeft left)) = String.ofList (trim left) := by
    rw [trimText, String.toList_ofList, trim_trimLeft]
  have hparse : parse (String.ofList front) = .ok (.ofStages bucket stages) := by
    rw [parse, String.toList_ofList, hfront]
  refine ⟨String.ofList front, String.ofList (trimLeft left), .ofStages bucket stages,
    ⟨?_, ⟨_, hparse⟩, ?_⟩, hparse, rfl, ?_, ?_, ?_, rfl⟩
  · rw [← String.ofList_append, ← hcs, String.ofList_toList]
  · rwa [String.length_ofList]
  · rwa [String.toList_ofList]
  · rw [hrest]
    exact fun h => hleft (String.ofList_eq_empty_iff.1 h)
  · rw [hrest]
    exact hread.trans (if_neg hleft)

/-- A text whose filter is not closed, between no-break spaces, and goes on with a range. -/
def unclosedText : String :=
  "from(bucket: \"room\")\n|> range(start: -2h)\u00a0" ++
    "|> filter(fn: (r) => r.wing = \"a)\" |> range(start: -1h)\u00a0"

theorem parse_leftOver_unclosed :
    (∃ mid, readSource (skipSpaces unclosedText.toList) = .ok ("room", mid)) ∧
      (∀ p, parse unclosedText ≠ .ok p) ∧
      ∃ front rest p, LongestFront unclosedText front rest ∧
        parse front = .ok p ∧ p.bucket = "room" ∧ Denotes front.toList p ∧
        trimText rest = "|> filter(fn: (r) => r.wing = \"a)\" |> range(start: -1h)" := by
  have hsource : readSource (skipSpaces unclosedText.toList) =
      .ok ("room", unclosedText.toList.drop 20) := by decide +kernel
  have hparse : parse unclosedText = .error (.leftOver
      "|> filter(fn: (r) => r.wing = \"a)\" |> range(start: -1h)") := by decide +kernel
  have hrefused : ∀ p, parse unclosedText ≠ .ok p := by
    intro p
    rw [hparse]
    exact nofun
  obtain ⟨front, rest, p, hlongest, hp, hbucket, hdenotes, -, herror, -⟩ :=
    parse_leftOver hsource hrefused
  rw [hparse] at herror
  exact ⟨⟨_, hsource⟩, hrefused, front, rest, p, hlongest, hp, hbucket, hdenotes,
    (QueryError.leftOver.inj (Except.error.inj herror)).symm⟩

end Pipeline

end TypedSeries
