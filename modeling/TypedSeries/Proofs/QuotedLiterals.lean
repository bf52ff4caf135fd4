import Mathlib.Algebra.Group.Nat.Even
import Mathlib.Data.List.DropRight
import TypedSeries.Proofs.PipelineGrammar

/-!
# Where quoted literals end

A quoted literal says by itself where it ends: at the first quote behind the opening one that no
backslash takes. That a backslash takes it can be seen from the backslashes right before it, which
are odd in number (`Grammar.Takes`).

1. What a text takes is decided behind any front of it that takes nothing
   (`Grammar.takes_append_iff`).
2. So the text of a literal is the text before the first quote that is not taken
   (`Grammar.QuotedText.closes`), and any such text is the text of a literal
   (`Grammar.exists_quotedText`).
3. If any quote is not taken there is a first one (`Grammar.exists_closes`).

**Main.** `Grammar.stringLiteral_delimited`.
-/

namespace TypedSeries

namespace Grammar

variable {front tail cs rest s : List Char} {c : Char}

/-! ## What backslashes take -/

/-- A text that takes the character behind it: it ends in an odd number of backslashes. -/
def Takes (front : List Char) : Prop := Odd (front.rtakeWhile (· = '\\')).length

theorem not_takes_nil : ¬ Takes [] := by simp [Takes]

theorem not_takes_concat (front : List Char) (hc : c ≠ '\\') : ¬ Takes (front ++ [c]) := by
  simp [Takes, hc]

theorem takes_concat_iff : Takes (front ++ ['\\']) ↔ ¬ Takes front := by
  simp [Takes, Nat.odd_add_one]

/-- Behind a front that takes nothing a text takes what it takes on its own. -/
theorem takes_append_iff (h : ¬ Takes front) : Takes (front ++ tail) ↔ Takes tail := by
  induction tail using List.reverseRecOn with
  | nil => simp [h, not_takes_nil]
  | append_singleton tail c ih =>
    rw [← List.append_assoc]
    by_cases hc : c = '\\'
    · subst hc
      rw [takes_concat_iff, takes_concat_iff, ih]
    · exact iff_of_false (not_takes_concat _ hc) (not_takes_concat _ hc)

theorem takes_backslash : Takes ['\\'] := by
  rw [← List.nil_append ['\\'], takes_concat_iff]
  exact not_takes_nil

/-- A backslash and what it takes. -/
theorem takes_pair_iff (c : Char) : Takes ('\\' :: c :: tail) ↔ Takes tail := by
  have hpair : ¬ Takes ['\\', c] := by
    by_cases hc : c = '\\'
    · subst hc
      have htwice : Takes (['\\'] ++ ['\\']) → ¬ Takes ['\\'] := takes_concat_iff.1
      exact fun h => htwice h takes_backslash
    · exact not_takes_concat ['\\'] hc
  exact takes_append_iff hpair

/-! ## Texts of literals -/

/-- A text that a quote behind it closes: it takes every quote in it, but not the one behind. -/
structure Closes (front : List Char) : Prop where
  free : ¬ Takes front
  taken : ∀ before after, front = before ++ '"' :: after → Takes before

theorem closes_nil : Closes [] := ⟨not_takes_nil, by simp⟩

theorem not_closes_quote (tail : List Char) : ¬ Closes ('"' :: tail) :=
  fun h => not_takes_nil (h.taken [] tail rfl)

theorem not_closes_backslash : ¬ Closes ['\\'] := fun h => h.free takes_backslash

theorem closes_singleton (hq : c ≠ '"') (hb : c ≠ '\\') : Closes [c] := by
  refine ⟨not_takes_concat [] hb, fun before after he => ?_⟩
  rcases List.singleton_eq_append_iff.1 he with ⟨-, he⟩ | ⟨-, he⟩
  · exact absurd (List.cons.inj he).1.symm hq
  · cases he

theorem closes_pair (c : Char) : Closes ['\\', c] := by
  refine ⟨fun h => not_takes_nil ((takes_pair_iff c).1 h), fun before after he => ?_⟩
  match before with
  | [] => cases he
  | [d] =>
    obtain rfl := (List.cons.inj he).1
    exact takes_backslash
  | d :: e :: before => simp at he

/-- Behind a front that a quote would close a text is closed as it is on its own. -/
theorem closes_append_iff (h : Closes front) : Closes (front ++ tail) ↔ Closes tail := by
  constructor
  · rintro ⟨hfree, htaken⟩
    refine ⟨(takes_append_iff h.free).not.1 hfree, fun before after he => ?_⟩
    have hbefore := htaken (front ++ before) after (by rw [he, List.append_assoc])
    exact (takes_append_iff h.free).1 hbefore
  · rintro ⟨hfree, htaken⟩
    refine ⟨(takes_append_iff h.free).not.2 hfree, fun before after he => ?_⟩
    rcases List.append_eq_append_iff.1 he with ⟨between, rfl, htail⟩ | ⟨between, hfront, hbehind⟩
    · exact (takes_append_iff h.free).2 (htaken between after htail)
    · cases between with
      | nil =>
        rw [List.append_nil] at hfront
        have htail := htaken [] after hbehind.symm
        exact absurd htail not_takes_nil
      | cons d between =>
        obtain rfl := (List.cons.inj hbehind).1
        exact h.taken before between hfront

theorem closes_cons_iff (hq : c ≠ '"') (hb : c ≠ '\\') : Closes (c :: tail) ↔ Closes tail :=
  closes_append_iff (closes_singleton hq hb)

theorem closes_pair_iff : Closes ('\\' :: c :: tail) ↔ Closes tail :=
  closes_append_iff (closes_pair c)

theorem QuotedText.closes (h : QuotedText front s) : Closes front := by
  induction h with
  | nil => exact closes_nil
  | plain hq hb _ ih => exact (closes_cons_iff hq hb).2 ih
  | lineFeed _ ih => exact closes_pair_iff.2 ih
  | escaped _ _ ih => exact closes_pair_iff.2 ih

/-- A text that a quote closes says something as the text of a literal. -/
theorem exists_quotedText : ∀ {front : List Char}, Closes front → ∃ s, QuotedText front s
  | [], _ => ⟨[], .nil⟩
  | [c], h => by
    by_cases hq : c = '"'
    · exact absurd (hq ▸ h) (not_closes_quote [])
    by_cases hb : c = '\\'
    · exact absurd (hb ▸ h) not_closes_backslash
    exact ⟨[c], .plain hq hb .nil⟩
  | c :: d :: front, h => by
    by_cases hq : c = '"'
    · exact absurd (hq ▸ h) (not_closes_quote _)
    by_cases hb : c = '\\'
    · subst hb
      obtain ⟨s, hs⟩ := exists_quotedText (closes_pair_iff.1 h)
      by_cases hn : d = 'n'
      · exact ⟨'\n' :: s, hn ▸ hs.lineFeed⟩
      · exact ⟨d :: s, hs.escaped hn⟩
    · obtain ⟨s, hs⟩ := exists_quotedText ((closes_cons_iff hq hb).1 h)
      exact ⟨c :: s, hs.plain hq hb⟩

/-- If a quote is not taken, there is a first such quote. -/
theorem exists_closes {front : List Char} (h : ¬ Takes front) (rest : List Char) :
    ∃ first behind, front ++ '"' :: rest = first ++ '"' :: behind ∧ Closes first := by
  by_cases htaken : ∀ before after, front = before ++ '"' :: after → Takes before
  · exact ⟨front, rest, rfl, h, htaken⟩
  · simp only [not_forall] at htaken
    obtain ⟨before, after, he, hfree⟩ := htaken
    obtain ⟨first, behind, hfirst, hcloses⟩ := exists_closes hfree (after ++ '"' :: rest)
    exact ⟨first, behind, by rw [he, ← hfirst, List.append_assoc, List.cons_append], hcloses⟩
termination_by front.length
decreasing_by
  rw [he, List.length_append, List.length_cons]
  omega

/-! ## Reading a literal -/

theorem stringLiteral_eq_ok_iff : stringLiteral cs = .ok (s, rest) ↔
    ∃ front, cs = '"' :: (front ++ '"' :: rest) ∧ QuotedText front s := by
  constructor
  · intro h
    obtain ⟨t, ⟨front, hfront, rfl⟩, rfl⟩ := accepts_stringLiteral.sound h
    exact ⟨front, by simp, hfront⟩
  · rintro ⟨front, rfl, hfront⟩
    have hread : stringLiteral (('"' :: (front ++ ['"'])) ++ rest) = .ok (s, rest) :=
      accepts_stringLiteral.complete ⟨front, hfront, rfl⟩ fun _ _ => rfl
    simpa using hread

theorem stringLiteral_error {e : Stuck} (h : stringLiteral cs = .error e) :
    e = ⟨cs, .character⟩ := by
  unfold stringLiteral at h
  split at h
  next tail =>
    split at h
    next => cases h
    next => exact (Except.error.inj h).symm
  next => exact (Except.error.inj h).symm

theorem isOk_stringLiteral_iff : (∃ p, stringLiteral cs = .ok p) ↔
    ∃ front rest, cs = '"' :: (front ++ '"' :: rest) ∧ ¬ Takes front := by
  constructor
  · rintro ⟨⟨s, rest⟩, h⟩
    obtain ⟨front, hcs, hfront⟩ := stringLiteral_eq_ok_iff.1 h
    exact ⟨front, rest, hcs, hfront.closes.free⟩
  · rintro ⟨front, rest, rfl, hfree⟩
    obtain ⟨first, behind, hfirst, hcloses⟩ := exists_closes hfree rest
    obtain ⟨s, hs⟩ := exists_quotedText hcloses
    exact ⟨(s, behind), stringLiteral_eq_ok_iff.2 ⟨first, by rw [hfirst], hs⟩⟩

theorem toList_surjective : Function.Surjective String.toList :=
  fun cs => ⟨String.ofList cs, String.toList_ofList⟩

theorem toList_eq_quoted_iff {text front rest : String} :
    text.toList = '"' :: (front.toList ++ '"' :: rest.toList) ↔
      text = "\"" ++ front ++ "\"" ++ rest := by
  rw [← String.toList_inj]
  simp

/-- A text opened by a quote and cut behind the next: a character begins at the byte there. -/
theorem exists_cut {text front rest : String} (h : text = "\"" ++ front ++ "\"" ++ rest) :
    ∃ cut : text.Pos, cut.offset.byteIdx = front.utf8ByteSize + 2 ∧
      (text.sliceFrom cut).copy = rest := by
  have hvalid : ("\"" ++ front ++ "\"").rawEndPos.IsValid text :=
    String.Pos.Raw.isValid_iff_exists_append.2 ⟨_, _, h, rfl⟩
  have hsplits : (text.pos _ hvalid).Splits ("\"" ++ front ++ "\"") rest := ⟨h, rfl⟩
  have hquote : "\"".utf8ByteSize = 1 := by decide
  refine ⟨text.pos _ hvalid, ?_, hsplits.copy_sliceFrom_eq⟩
  show ("\"" ++ front ++ "\"").utf8ByteSize = _
  rw [String.utf8ByteSize_append, String.utf8ByteSize_append, hquote]
  omega

/-- **Quoted literals end by themselves.** A text written as a literal is read back from in front of
any text, which is left over as it is. Any text opens with a literal exactly if it opens with a
quote and has another one that no backslash takes. What is left over then is the text from the byte
behind the first such quote, where a character begins. If there is none, the reader is stuck at the
whole text. -/
theorem stringLiteral_delimited :
    (∀ s k : String, stringLiteral ('"' :: (escapeLiteral s.toList ++ '"' :: k.toList)) =
      .ok (s.toList, k.toList)) ∧
    ∀ text : String,
      ((∃ p, stringLiteral text.toList = .ok p) ↔
        ∃ front rest, text = "\"" ++ front ++ "\"" ++ rest ∧ ¬ Takes front.toList) ∧
      (∀ s rest : String, stringLiteral text.toList = .ok (s.toList, rest.toList) ↔
        ∃ front, text = "\"" ++ front ++ "\"" ++ rest ∧
          (∃ cut : text.Pos, cut.offset.byteIdx = front.utf8ByteSize + 2 ∧
            (text.sliceFrom cut).copy = rest) ∧
          ¬ Takes front.toList ∧
          (∀ before after, front.toList = before ++ '"' :: after → Takes before) ∧
          QuotedText front.toList s.toList) ∧
      ∀ e, stringLiteral text.toList = .error e ↔ e = ⟨text.toList, .character⟩ ∧
        ¬ ∃ front rest, text = "\"" ++ front ++ "\"" ++ rest ∧ ¬ Takes front.toList := by
  have hopens : ∀ text : String, (∃ p, stringLiteral text.toList = .ok p) ↔
      ∃ front rest, text = "\"" ++ front ++ "\"" ++ rest ∧ ¬ Takes front.toList := by
    intro text
    simp only [isOk_stringLiteral_iff, toList_surjective.exists, toList_eq_quoted_iff]
  refine ⟨fun s k => by simp [stringLiteral, literalBody_escapeLiteral], fun text =>
    ⟨hopens text, fun s rest => ?_, fun e => ?_⟩⟩
  · simp only [stringLiteral_eq_ok_iff, toList_surjective.exists, toList_eq_quoted_iff]
    refine exists_congr fun front => and_congr_right fun htext => ?_
    exact ⟨fun hs => ⟨exists_cut htext, hs.closes.free, hs.closes.taken, hs⟩, fun h => h.2.2.2⟩
  · rw [← hopens]
    constructor
    · intro he
      refine ⟨stringLiteral_error he, ?_⟩
      rintro ⟨p, hp⟩
      rw [hp] at he
      cases he
    · rintro ⟨rfl, hnone⟩
      cases he : stringLiteral text.toList with
      | ok p => exact (hnone ⟨p, he⟩).elim
      | error e => rw [stringLiteral_error he]

/-- Of two backslashes the second is taken, so it takes no quote itself. -/
example : stringLiteral "\"C:\\\\\" tail".toList = .ok ("C:\\".toList, " tail".toList) := by decide

end Grammar

end TypedSeries
