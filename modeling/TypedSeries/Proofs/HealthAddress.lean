import TypedSeries.Http.Client
import Mathlib.Data.List.Basic

/-!
# Addresses below a base

A client puts the target of a request after its base and reads the whole as an address. Whatever
the base is, the target stays apart from it:

1. What stands before a target is cleaned and its scheme is read as if nothing followed
   (`Url.clean_append`, `Url.readScheme_append`).
2. The target is then the host and what follows, if the base names none (`Url.readWeb_slashes`),
   or else the end of the fragment, of the query or of the path (`Url.readWeb_append`).
3. In none of these places can the target of the health request be taken for one that has
   parameters (`Url.readRest_ne`).

**Main.** `Url.health_ne`: the address of the health request is that of no listing of buckets.
-/

namespace TypedSeries

section Lists

variable {α : Type} {p : α → Bool} {a : α}

theorem takeWhile_append_stop (h : p a = false) (l rest : List α) :
    (l ++ a :: rest).takeWhile p = l.takeWhile p := by
  induction l with
  | nil => simp [h]
  | cons b l ih => simp only [List.cons_append, List.takeWhile_cons, ih]

theorem dropWhile_append_stop (h : p a = false) (l rest : List α) :
    (l ++ a :: rest).dropWhile p = l.dropWhile p ++ a :: rest := by
  induction l with
  | nil => simp [h]
  | cons b l ih =>
    simp only [List.cons_append, List.dropWhile_cons, ih]
    split <;> rfl

end Lists

theorem cut_append_cons {separator : Char} {front : List Char} (h : separator ∉ front)
    (rest : List Char) : cut separator (front ++ separator :: rest) = (front, some rest) := by
  have hall : ∀ c ∈ front, decide (c ≠ separator) = true := fun c hc =>
    decide_eq_true fun he => h (he ▸ hc)
  have hstop : decide (separator ≠ separator) = false := decide_eq_false fun h => h rfl
  rw [cut, List.dropWhile_append_of_pos hall, List.takeWhile_append_of_pos hall,
    List.dropWhile_cons_of_neg (by rw [hstop]; exact Bool.false_ne_true),
    List.takeWhile_cons_of_neg (by rw [hstop]; exact Bool.false_ne_true), List.append_nil]

theorem cut_of_not_mem {separator : Char} {cs : List Char} (h : separator ∉ cs) :
    cut separator cs = (cs, none) := by
  have hall : ∀ c ∈ cs, decide (c ≠ separator) = true := fun c hc =>
    decide_eq_true fun he => h (he ▸ hc)
  have hdrop := @List.dropWhile_append_of_pos _ _ cs [] hall
  rw [List.append_nil, List.dropWhile_nil] at hdrop
  rw [cut, hdrop]

namespace Percent

theorem toNat_lt_of_isAlphanum {c : Char} (h : c.isAlphanum = true) : c.toNat < 128 := by
  unfold Char.isAlphanum Char.isAlpha Char.isUpper Char.isLower Char.isDigit at h
  simp only [Bool.or_eq_true, decide_eq_true_iff, ge_iff_le, UInt32.le_iff_toNat_le,
    Bool.and_eq_true] at h
  have hupper : 'Z'.val.toNat = 90 := rfl
  have hlower : 'z'.val.toNat = 122 := rfl
  have hdigit : '9'.val.toNat = 57 := rfl
  show c.val.toNat < 128
  omega

theorem toNat_lt_of_isUnreserved {c : Char} (h : isUnreserved c = true) : c.toNat < 128 := by
  simp only [isUnreserved, Bool.or_eq_true, decide_eq_true_iff] at h
  rcases h with (((h | rfl) | rfl) | rfl) | rfl
  · exact toNat_lt_of_isAlphanum h
  all_goals decide

theorem mem_encode {s : String} {c : Char} (h : c ∈ encode s) :
    isUnreserved c = true ∨ c = '%' := by
  have hdigit : ∀ n ∈ List.range 16, isUnreserved (digit n) = true := by decide
  obtain ⟨b, -, hb⟩ := List.mem_flatMap.1 h
  have hlt := b.toNat_lt
  rw [encodeByte] at hb
  split at hb
  next hkept => exact .inl (List.mem_singleton.1 hb ▸ hkept)
  next =>
    simp only [escape, List.mem_cons, List.not_mem_nil, or_false] at hb
    rcases hb with rfl | rfl | rfl
    · exact .inr rfl
    · exact .inl (hdigit _ (List.mem_range.2 (by omega)))
    · exact .inl (hdigit _ (List.mem_range.2 (by omega)))

/-- What is so of every character that a code consists of is so of codes. -/
theorem forall_mem_encode {P : Char → Prop}
    (h : ∀ n ∈ List.range 128, isUnreserved (Char.ofNat n) = true ∨ Char.ofNat n = '%' →
      P (Char.ofNat n)) (s : String) : ∀ c ∈ encode s, P c := by
  intro c hc
  have hcode := mem_encode hc
  have hlt : c.toNat < 128 := hcode.elim toNat_lt_of_isUnreserved fun h => h ▸ by decide
  have hP := h c.toNat (List.mem_range.2 hlt)
  rw [Char.ofNat_toNat] at hP
  exact hP hcode

end Percent

namespace Http

namespace Url

/-- A character that shows and neither ends a scheme nor starts a fragment. -/
def IsPlain (c : Char) : Prop := 32 < c.toNat ∧ c ≠ ':' ∧ c ≠ '#'

instance (c : Char) : Decidable (IsPlain c) := inferInstanceAs (Decidable (_ ∧ _ ∧ _))

/-- A text of such characters. -/
def PlainText (cs : List Char) : Prop := ∀ c ∈ cs, IsPlain c

instance (cs : List Char) : Decidable (PlainText cs) := List.decidableBAll IsPlain cs

/-- What a client puts after its base. -/
structure IsTarget (cs : List Char) : Prop where
  starts : ∃ rest, cs = '/' :: rest
  plain : PlainText cs

theorem IsTarget.noColon {cs : List Char} (h : IsTarget cs) : ':' ∉ cs :=
  fun hmem => (h.plain _ hmem).2.1 rfl

theorem IsTarget.noFragment {cs : List Char} (h : IsTarget cs) : '#' ∉ cs :=
  fun hmem => (h.plain _ hmem).2.2 rfl

/-! ## The front of the text -/

/-- The front of a text cleaned. -/
def cleanFront (cs : List Char) : List Char :=
  (cs.dropWhile fun c => c.toNat ≤ 32).filter fun c => c ≠ '\t' ∧ c ≠ '\n' ∧ c ≠ '\r'

theorem clean_append (front : List Char) {cs : List Char} (h : IsTarget cs) :
    clean (front ++ cs) = cleanFront front ++ cs := by
  have houter : ∀ c ∈ cs, decide (c.toNat ≤ 32) = false := fun c hc =>
    decide_eq_false (Nat.not_le.2 (h.plain c hc).1)
  have hkept : cs.filter (fun c => decide (c ≠ '\t' ∧ c ≠ '\n' ∧ c ≠ '\r')) = cs := by
    refine List.filter_eq_self.2 fun c hc => decide_eq_true ?_
    have hvisible := (h.plain c hc).1
    refine ⟨?_, ?_, ?_⟩ <;> rintro rfl <;> exact absurd hvisible (by decide)
  obtain ⟨rest, hrest⟩ := h.starts
  have hdrop : (front ++ cs).dropWhile (fun c => decide (c.toNat ≤ 32)) =
      front.dropWhile (fun c => decide (c.toNat ≤ 32)) ++ cs := by
    rw [hrest]
    exact dropWhile_append_stop (by decide) front rest
  have hend : ∀ l : List Char, (l ++ cs).reverse.dropWhile (fun c => decide (c.toNat ≤ 32)) =
      (l ++ cs).reverse := by
    intro l
    rw [List.reverse_append]
    cases hlast : cs.reverse with
    | nil => simp [hrest] at hlast
    | cons c more =>
      have hc : c ∈ cs := List.mem_reverse.1 (hlast ▸ List.mem_cons_self)
      rw [List.cons_append, List.dropWhile_cons_of_neg (by rw [houter c hc]; exact
        Bool.false_ne_true)]
  unfold clean
  dsimp only
  rw [hdrop, hend, List.reverse_reverse, List.filter_append, hkept]
  rfl

/-- A scheme is read before a target is come to, or not at all. -/
theorem readScheme_append (front : List Char) :
    (∀ cs, IsTarget cs → readScheme (front ++ cs) = none) ∨
      ∃ scheme rest, rest <:+ front ∧ ∀ cs, IsTarget cs →
        readScheme (front ++ cs) = some (scheme, rest ++ cs) := by
  by_cases hcolon : ':' ∈ front
  · obtain ⟨name, rest, rfl, hname⟩ := List.eq_append_cons_of_mem hcolon
    have hcut : ∀ cs, cut ':' (name ++ ':' :: rest ++ cs) = (name, some (rest ++ cs)) := by
      intro cs
      rw [List.append_assoc, List.cons_append, cut_append_cons hname]
    cases name with
    | nil =>
      refine .inl fun cs _ => ?_
      rw [readScheme, hcut]
    | cons c name =>
      by_cases hscheme : c.isAlpha ∧
          name.all (fun d => d.isAlphanum || d = '+' || d = '-' || d = '.')
      · refine .inr ⟨(c :: name).map Char.toLower, rest, ⟨c :: name ++ [':'], by simp⟩,
          fun cs _ => ?_⟩
        rw [readScheme, hcut]
        exact if_pos hscheme
      · refine .inl fun cs _ => ?_
        rw [readScheme, hcut]
        exact if_neg hscheme
  · refine .inl fun cs h => ?_
    have hnone : ':' ∉ front ++ cs := fun hmem =>
      (List.mem_append.1 hmem).elim hcolon h.noColon
    rw [readScheme, cut_of_not_mem hnone]
    cases front ++ cs <;> rfl

/-! ## Where the target ends up -/

/-- The address of a scheme that names a host after slashes. -/
def readWeb (scheme : List Char) (usual : Nat) (rest : List Char) : Except UrlFault Url := do
  let cs := rest.dropWhile isSlash
  let authority := withoutUser (cs.takeWhile fun c => !endsAuthority c)
  let (name, digits) := splitPort false authority
  let host ← readHost name
  let port ← readPort usual digits
  return readRest scheme host port (cs.dropWhile fun c => !endsAuthority c)

theorem parse_eq (s : String) : parse s = match readScheme (clean s.toList) with
    | none => .error .noScheme
    | some (scheme, rest) => match webSchemes.lookup scheme with
      | none => .ok ⟨scheme, none, none, Percent.escapeWhere isUnprintable rest, none, none⟩
      | some usual => readWeb scheme usual rest := rfl

/-- The host is read from what stands between the slashes and the next mark. -/
theorem host_of_readWeb {scheme rest : List Char} {usual : Nat} {u : Url}
    (h : readWeb scheme usual rest = .ok u) :
    ∃ host, u.host = some host ∧ readHost (splitPort false (withoutUser
      ((rest.dropWhile isSlash).takeWhile fun c => !endsAuthority c))).1 = .ok host := by
  unfold readWeb at h
  dsimp only at h
  generalize splitPort false (withoutUser
    ((rest.dropWhile isSlash).takeWhile fun c => !endsAuthority c)) = parts at h ⊢
  obtain ⟨name, digits⟩ := parts
  dsimp only at h ⊢
  cases hhost : readHost name with
  | error e =>
    rw [hhost] at h
    cases h
  | ok host =>
    rw [hhost] at h
    cases hport : readPort usual digits with
    | error e =>
      rw [hport] at h
      cases h
    | ok port =>
      rw [hport] at h
      exact ⟨host, congrArg Url.host (Except.ok.inj h).symm, rfl⟩

/-- After slashes alone a target names the host itself. -/
theorem readWeb_slashes {scheme rest : List Char} {usual : Nat} (h : rest.dropWhile isSlash = [])
    (cs : List Char) : readWeb scheme usual (rest ++ cs) = readWeb scheme usual cs := by
  have hdrop : (rest ++ cs).dropWhile isSlash = cs.dropWhile isSlash := by
    rw [List.dropWhile_append, h]
    rfl
  rw [readWeb, readWeb, hdrop]

/-- What follows the host. -/
def afterHost (rest : List Char) : List Char :=
  (rest.dropWhile isSlash).dropWhile fun c => !endsAuthority c

/-- Otherwise the target is the end of what follows the host. -/
theorem readWeb_append {scheme rest : List Char} (usual : Nat) (h : rest.dropWhile isSlash ≠ []) :
    ∃ site : Except UrlFault (List Char × Option Nat), ∀ cs, IsTarget cs →
      readWeb scheme usual (rest ++ cs) =
        site.map fun p => readRest scheme p.1 p.2 (afterHost rest ++ cs) := by
  rcases hparts : splitPort false (withoutUser
    ((rest.dropWhile isSlash).takeWhile fun c => !endsAuthority c)) with ⟨name, digits⟩
  refine ⟨do return (← readHost name, ← readPort usual digits), fun cs hcs => ?_⟩
  obtain ⟨tail, rfl⟩ := hcs.starts
  have hdrop : (rest ++ '/' :: tail).dropWhile isSlash = rest.dropWhile isSlash ++ '/' :: tail := by
    rw [List.dropWhile_append, if_neg (by simpa using h)]
  unfold readWeb
  dsimp only
  rw [hdrop, takeWhile_append_stop (by decide), dropWhile_append_stop (by decide), hparts]
  dsimp only
  cases readHost name with
  | error e => rfl
  | ok host => cases readPort usual digits <;> rfl

/-- The target of a listing with given parameters. -/
def listingTarget (parameters : List Char) : List Char :=
  "/api/v2/buckets".toList ++ '?' :: parameters

theorem escapeWhere_append (special : Char → Bool) (cs ds : List Char) :
    Percent.escapeWhere special (cs ++ ds) =
      Percent.escapeWhere special cs ++ Percent.escapeWhere special ds := List.flatMap_append

theorem escapeWhere_ne {special : Char → Bool} (hh : special 'h' = false)
    (ha : special 'a' = false) (front parameters : List Char) :
    Percent.escapeWhere special (front ++ "/health".toList) ≠
      Percent.escapeWhere special (front ++ listingTarget parameters) := by
  have hhealth : "/health".toList = ['/'] ++ 'h' :: "ealth".toList := rfl
  have hlisting : listingTarget parameters =
      ['/'] ++ 'a' :: ("pi/v2/buckets".toList ++ '?' :: parameters) := rfl
  intro h
  rw [escapeWhere_append, escapeWhere_append] at h
  have htargets := List.append_cancel_left h
  rw [hhealth, hlisting, escapeWhere_append, escapeWhere_append] at htargets
  have htails := List.append_cancel_left htargets
  rw [Percent.escapeWhere, Percent.escapeWhere, List.flatMap_cons, List.flatMap_cons, hh, ha]
    at htails
  exact absurd (List.cons.inj htails).1 (by decide)

/-- In what follows the host, a listing is apart from the health request. -/
theorem readRest_ne {scheme host front parameters : List Char} {port : Option Nat}
    (h : '#' ∉ listingTarget parameters) :
    readRest scheme host port (front ++ "/health".toList) ≠
      readRest scheme host port (front ++ listingTarget parameters) := by
  intro he
  by_cases hhash : '#' ∈ front
  · -- Both end the same fragment.
    obtain ⟨before, after, rfl, hbefore⟩ := List.eq_append_cons_of_mem hhash
    have hfragment : ∀ cs, (readRest scheme host port (before ++ '#' :: after ++ cs)).fragment =
        some (Percent.escapeWhere escapedInFragment (after ++ cs)) := by
      intro cs
      show (cut '#' (before ++ '#' :: after ++ cs)).2.map _ = _
      rw [List.append_assoc, List.cons_append, cut_append_cons hbefore]
      rfl
    have hsame := congrArg Url.fragment he
    rw [hfragment, hfragment] at hsame
    exact escapeWhere_ne (by decide) (by decide) _ _ (Option.some.inj hsame)
  · have hquery : ∀ cs, '#' ∉ cs → (readRest scheme host port (front ++ cs)).query =
        (cut '?' (front ++ cs)).2.map (Percent.escapeWhere escapedInQuery) := by
      intro cs hcs
      have hnone : '#' ∉ front ++ cs := fun hmem => (List.mem_append.1 hmem).elim hhash hcs
      show (cut '?' (cut '#' (front ++ cs)).1).2.map _ = _
      rw [cut_of_not_mem hnone]
    have hsame := congrArg Url.query he
    rw [hquery _ (by decide), hquery _ h] at hsame
    by_cases hmark : '?' ∈ front
    · -- Both end the same query.
      obtain ⟨before, after, rfl, hbefore⟩ := List.eq_append_cons_of_mem hmark
      simp only [List.append_assoc, List.cons_append, cut_append_cons hbefore,
        Option.map_some] at hsame
      exact escapeWhere_ne (by decide) (by decide) _ _ (Option.some.inj hsame)
    · -- Only the listing has a query.
      have hhealth : '?' ∉ front ++ "/health".toList := fun hmem =>
        (List.mem_append.1 hmem).elim hmark (by decide)
      have hpath : '?' ∉ front ++ "/api/v2/buckets".toList := fun hmem =>
        (List.mem_append.1 hmem).elim hmark (by decide)
      have hlisting : front ++ listingTarget parameters =
          (front ++ "/api/v2/buckets".toList) ++ '?' :: parameters := (List.append_assoc ..).symm
      rw [cut_of_not_mem hhealth, hlisting, cut_append_cons hpath] at hsame
      exact nomatch hsame

/-! ## Parameters -/

theorem plain_encode (s : String) : PlainText (Percent.encode s) :=
  Percent.forall_mem_encode (by decide +kernel) s

theorem forall_mem_intercalate {P : Char → Prop} {separator : Char} (hsep : P separator) :
    ∀ {texts : List (List Char)}, (∀ text ∈ texts, ∀ c ∈ text, P c) →
      ∀ c ∈ [separator].intercalate texts, P c
  | [], _, _, hc => nomatch hc
  | [text], h, c, hc => by
    rw [List.intercalate_singleton] at hc
    exact h text List.mem_cons_self c hc
  | text :: other :: texts, h, c, hc => by
    rw [List.intercalate_cons_cons, List.mem_append, List.mem_append, List.mem_singleton] at hc
    rcases hc with (hc | rfl) | hc
    · exact h text List.mem_cons_self c hc
    · exact hsep
    · exact forall_mem_intercalate hsep (fun t ht => h t (List.mem_cons_of_mem _ ht)) c hc

/-- A path with parameters is a target, whatever the values of the parameters. -/
theorem isTarget_parameters {path : List Char} (hpath : IsTarget path)
    {parameters : List (String × String)}
    (h : ∀ name ∈ parameters.map Prod.fst, PlainText name.toList) :
    IsTarget (path ++ '?' :: ['&'].intercalate
      (parameters.map fun p => p.1.toList ++ '=' :: Percent.encode p.2)) := by
  obtain ⟨rest, hrest⟩ := hpath.starts
  refine ⟨⟨_, by rw [hrest]; rfl⟩, fun c hc => ?_⟩
  rcases List.mem_append.1 hc with hc | hc
  · exact hpath.plain c hc
  rcases List.mem_cons.1 hc with rfl | hc
  · decide
  refine forall_mem_intercalate (by decide) (fun text htext d hd => ?_) c hc
  obtain ⟨p, hp, rfl⟩ := List.mem_map.1 htext
  rcases List.mem_append.1 hd with hd | hd
  · exact h p.1 (List.mem_map_of_mem hp) d hd
  rcases List.mem_cons.1 hd with rfl | hd
  · decide
  · exact plain_encode p.2 d hd

theorem isTarget_listing {parameters : List (String × String)}
    (h : ∀ name ∈ parameters.map Prod.fst, PlainText name.toList) :
    IsTarget (listingTarget (['&'].intercalate
      (parameters.map fun p => p.1.toList ++ '=' :: Percent.encode p.2))) :=
  isTarget_parameters ⟨⟨_, rfl⟩, by decide⟩ h

/-- **The address of the health request** is that of no listing, whatever the base. -/
theorem health_ne (base : String) {parameters : List Char}
    (h : IsTarget (listingTarget parameters)) {u : Url}
    (hhealth : parse (base ++ "/health") = .ok u) (hhost : u.host ≠ none) :
    parse (base ++ String.ofList (listingTarget parameters)) ≠ .ok u := by
  intro hlisting
  have hh : IsTarget "/health".toList := ⟨⟨_, rfl⟩, by decide⟩
  rw [parse_eq, String.toList_append, clean_append _ hh] at hhealth
  rw [parse_eq, String.toList_append, String.toList_ofList, clean_append _ h] at hlisting
  rcases readScheme_append (cleanFront base.toList) with hnone | ⟨scheme, rest, -, hscheme⟩
  · rw [hnone _ hh] at hhealth
    cases hhealth
  · rw [hscheme _ hh] at hhealth
    rw [hscheme _ h] at hlisting
    dsimp only at hhealth hlisting
    cases hweb : webSchemes.lookup scheme with
    | none =>
      rw [hweb] at hhealth
      exact hhost (congrArg Url.host (Except.ok.inj hhealth)).symm
    | some usual =>
      rw [hweb] at hhealth hlisting
      dsimp only at hhealth hlisting
      by_cases hslashes : rest.dropWhile isSlash = []
      · rw [readWeb_slashes hslashes] at hhealth hlisting
        obtain ⟨host, hu, hname⟩ := host_of_readWeb hhealth
        obtain ⟨host', hu', hname'⟩ := host_of_readWeb hlisting
        have hhealthHost : readHost "health".toList = .ok "health".toList := by decide +kernel
        have hlistingHost : readHost "api".toList = .ok "api".toList := by decide +kernel
        obtain rfl : "health".toList = host := Except.ok.inj (hhealthHost.symm.trans hname)
        obtain rfl : "api".toList = host' := Except.ok.inj (hlistingHost.symm.trans hname')
        exact absurd (Option.some.inj (hu.symm.trans hu')) (by decide)
      · obtain ⟨site, hsite⟩ := readWeb_append usual hslashes
        rw [hsite _ hh] at hhealth
        rw [hsite _ h] at hlisting
        cases site with
        | error e => cases hhealth
        | ok p => exact readRest_ne h.noFragment (Except.ok.inj (hhealth.trans hlisting.symm))

end Url

end Http

end TypedSeries
