import Mathlib.Data.List.Sections
import Mathlib.Data.List.TakeWhile
import TypedSeries.Proofs.RequestParameters
import TypedSeries.Proofs.TokenRequests

/-!
# Paths of targets

What a server is sent of a target below a base.

1. A path whose segments are plain and no dots comes out as it is, behind the path of the base
   (`Url.readPath_append`). A coded text is such a segment unless it is one or two dots
   (`Url.isSegment_encode`).
2. A base that can be used gives every target one site: scheme, host, port and what stands in front
   of it (`Url.exists_site`).
3. So a client with a host can make every request (`Client.Hosted.exists_request`).

**Main.** `Client.Hosted.target_eq`: the target that is sent is the client's root, the path and the
query.
-/

namespace TypedSeries

theorem pieces_append (separator : Char) (front rest : List Char) :
    pieces separator (front ++ separator :: rest) =
      pieces separator front ++ pieces separator rest := by
  induction front with
  | nil => exact if_pos rfl
  | cons c front ih =>
    rw [List.cons_append, pieces, pieces, ih]
    split
    · rfl
    · cases hp : pieces separator front with
      | nil => exact absurd hp (pieces_ne_nil separator front)
      | cons p ps => rfl

namespace Http

namespace Url

/-! ## Segments -/

/-- A segment of a path that is sent as it is and starts no other part of an address. -/
structure IsSegment (cs : List Char) : Prop where
  chars : ∀ c ∈ cs, IsPlain c ∧ isSlash c = false ∧ escapedInPath c = false
  noDot : isDot cs = false
  noDoubleDot : isDoubleDot cs = false

instance : DecidablePred IsSegment := fun cs =>
  haveI : Decidable (∀ c ∈ cs, IsPlain c ∧ isSlash c = false ∧ escapedInPath c = false) :=
    List.decidableBAll _ cs
  decidable_of_iff ((∀ c ∈ cs, IsPlain c ∧ isSlash c = false ∧ escapedInPath c = false) ∧
    isDot cs = false ∧ isDoubleDot cs = false)
    ⟨fun h => ⟨h.1, h.2.1, h.2.2⟩, fun h => ⟨h.chars, h.noDot, h.noDoubleDot⟩⟩

/-- The path of segments. -/
def pathOf (segments : List (List Char)) : List Char := segments.flatMap ('/' :: ·)

variable {segment : List Char} {segments : List (List Char)}

theorem IsSegment.slash_not_mem (h : IsSegment segment) : '/' ∉ segment :=
  fun hmem => nomatch (h.chars _ hmem).2.1

theorem pieces_pathOf (h : IsSegment segment) (hs : ∀ s ∈ segments, IsSegment s) :
    pieces '/' (segment ++ pathOf segments) = segment :: segments := by
  induction segments generalizing segment with
  | nil => rw [pathOf, List.flatMap_nil, List.append_nil, pieces_of_not_mem h.slash_not_mem]
  | cons s segments ih =>
    obtain ⟨hhead, htail⟩ := List.forall_mem_cons.1 hs
    show pieces '/' (segment ++ '/' :: (s ++ pathOf segments)) = _
    rw [pieces_append_cons h.slash_not_mem, ih hhead htail]

theorem mem_pathOf {c : Char} (hs : ∀ s ∈ segments, IsSegment s) (hc : c ∈ pathOf segments) :
    IsPlain c ∧ c ≠ '\\' ∧ c ≠ '?' := by
  obtain ⟨s, hmem, hc⟩ := List.mem_flatMap.1 hc
  rcases List.mem_cons.1 hc with rfl | hc
  · decide
  · obtain ⟨hplain, hslash, hescaped⟩ := (hs s hmem).chars c hc
    refine ⟨hplain, ?_, ?_⟩ <;> rintro rfl
    · cases hslash
    · cases hescaped

theorem isTarget_pathOf (hne : segments ≠ []) (hs : ∀ s ∈ segments, IsSegment s) :
    IsTarget (pathOf segments) := by
  refine ⟨?_, fun c hc => (mem_pathOf hs hc).1⟩
  cases segments with
  | nil => exact absurd rfl hne
  | cons s segments => exact ⟨_, rfl⟩

theorem flatMap_escape (hs : ∀ s ∈ segments, IsSegment s) :
    (segments.flatMap fun s => '/' :: Percent.escapeWhere escapedInPath s) = pathOf segments := by
  refine List.flatMap_congr fun s hmem => ?_
  rw [Percent.escapeWhere_eq_self fun c hc => ((hs s hmem).chars c hc).2.2]

/-! ## Coded texts -/

theorem eq_or_eq_toLower (c : Char) : c = c.toLower ∨ c = c.toLower.toUpper := by
  by_cases h : c.toNat < 128
  · have hall : ∀ n ∈ List.range 128, Char.ofNat n = (Char.ofNat n).toLower ∨
        Char.ofNat n = (Char.ofNat n).toLower.toUpper := by
      decide +kernel
    have hc := hall c.toNat (List.mem_range.2 h)
    rwa [Char.ofNat_toNat] at hc
  · have hupper : ¬ (c.val ≥ 'A'.val ∧ c.val ≤ 'Z'.val) := fun hupper =>
      h (Nat.lt_of_le_of_lt (UInt32.le_iff_toNat_le.1 hupper.2) (by decide))
    left
    unfold Char.toLower
    rw [dif_neg hupper]

/-- The texts that are one in lower case. -/
theorem mem_sections_toLower (cs : List Char) :
    cs ∈ ((cs.map Char.toLower).map fun c => [c, c.toUpper].eraseDups).sections := by
  rw [List.mem_sections, List.map_map, List.forall₂_map_right_iff]
  exact List.forall₂_same.2 fun c _ =>
    List.mem_eraseDups.2 (by simpa using eq_or_eq_toLower c)

/-- The texts of dots, one way or another, are coded forms of the dots. -/
theorem decodeText?_of_isDot (h : isDot segment = true) :
    Percent.decodeText? segment = some "." := by
  have hdots : ∀ dot ∈ [".", "%2e"],
      ∀ cs ∈ (dot.toList.map fun c => [c, c.toUpper].eraseDups).sections,
        Percent.decode cs = [46] := by
    decide
  have hmem := mem_sections_toLower segment
  have hdot : String.ofList (segment.map Char.toLower) ∈ [".", "%2e"] := by
    simpa [isDot] using h
  have hbytes := hdots _ hdot segment (by rwa [String.toList_ofList])
  rw [Percent.decodeText?, hbytes]
  decide

theorem decodeText?_of_isDoubleDot (h : isDoubleDot segment = true) :
    Percent.decodeText? segment = some ".." := by
  have hdots : ∀ dots ∈ ["..", ".%2e", "%2e.", "%2e%2e"],
      ∀ cs ∈ (dots.toList.map fun c => [c, c.toUpper].eraseDups).sections,
        Percent.decode cs = [46, 46] := by
    decide
  have hmem := mem_sections_toLower segment
  have hdot : String.ofList (segment.map Char.toLower) ∈ ["..", ".%2e", "%2e.", "%2e%2e"] := by
    simpa [isDoubleDot, or_assoc] using h
  have hbytes := hdots _ hdot segment (by rwa [String.toList_ofList])
  rw [Percent.decodeText?, hbytes]
  decide

theorem isSegment_encode {s : String} (hdot : s ≠ ".") (hdots : s ≠ "..") :
    IsSegment (Percent.encode s) where
  chars := Percent.forall_mem_encode (by decide +kernel) s
  noDot := by
    refine Bool.eq_false_iff.2 fun h => hdot ?_
    exact Option.some.inj ((Percent.decodeText?_encode s).symm.trans (decodeText?_of_isDot h))
  noDoubleDot := by
    refine Bool.eq_false_iff.2 fun h => hdots ?_
    exact Option.some.inj ((Percent.decodeText?_encode s).symm.trans (decodeText?_of_isDoubleDot h))

/-! ## Dots -/

/-- The segments passed on the way through others, following their dots. -/
def passDots (passed segments : List (List Char)) : List (List Char) :=
  segments.foldl (fun passed segment =>
    if isDoubleDot segment then passed.dropLast
    else if isDot segment then passed
    else passed ++ [segment]) passed

theorem followDots_of_isSegment (hs : ∀ s ∈ segments, IsSegment s) (passed : List (List Char)) :
    followDots passed segments = passed ++ segments := by
  induction segments generalizing passed with
  | nil => exact (List.append_nil passed).symm
  | cons s segments ih =>
    obtain ⟨hhead, htail⟩ := List.forall_mem_cons.1 hs
    rw [followDots]
    simp only [hhead.noDot, hhead.noDoubleDot, Bool.false_eq_true, if_false, or_self, and_false]
    rw [ih htail, List.append_assoc, List.singleton_append]

theorem followDots_append (hne : segments ≠ []) (hs : ∀ s ∈ segments, IsSegment s)
    (passed front : List (List Char)) :
    followDots passed (front ++ segments) = passDots passed front ++ segments := by
  induction front generalizing passed with
  | nil => exact followDots_of_isSegment hs passed
  | cons s front ih =>
    have hrest : front ++ segments ≠ [] := List.append_ne_nil_of_right_ne_nil front hne
    rw [List.cons_append, followDots]
    simp only [hrest, false_and, if_false]
    exact ih _

/-- The path that a base has of its own, as it is sent, without a slash behind it. -/
def ownPath : List Char → List Char
  | [] => []
  | _ :: rest => (passDots [] (pieces '/' (rest.map fun c => if c = '\\' then '/' else c))).flatMap
      fun s => '/' :: Percent.escapeWhere escapedInPath s

theorem readPath_append {front : List Char} (hfront : ∀ c ∈ front.head?, isSlash c = true)
    (hne : segments ≠ []) (hs : ∀ s ∈ segments, IsSegment s) :
    readPath (front ++ pathOf segments) = ownPath front ++ pathOf segments := by
  have hmap : (pathOf segments).map (fun c => if c = '\\' then '/' else c) = pathOf segments :=
    (List.map_congr_left fun c hc => if_neg (mem_pathOf hs hc).2.1).trans (List.map_id _)
  obtain ⟨s, rest, rfl⟩ := List.exists_cons_of_ne_nil hne
  obtain ⟨hhead, htail⟩ := List.forall_mem_cons.1 hs
  have hpath : pathOf (s :: rest) = '/' :: (s ++ pathOf rest) := rfl
  unfold readPath
  dsimp only
  rw [List.map_append, hmap]
  cases front with
  | nil =>
    show (followDots [] (pieces '/' (s ++ pathOf rest))).flatMap _ = _
    rw [pieces_pathOf hhead htail, followDots_of_isSegment hs, List.nil_append, flatMap_escape hs]
    rfl
  | cons c front =>
    have hc : (if c = '\\' then '/' else c) = '/' := by
      have hslash := hfront c rfl
      rw [isSlash, Bool.or_eq_true, decide_eq_true_iff, decide_eq_true_iff] at hslash
      rcases hslash with rfl | rfl <;> rfl
    rw [List.map_cons, hc]
    show (followDots [] (pieces '/' (front.map _ ++ pathOf (s :: rest)))).flatMap _ = _
    rw [hpath, pieces_append, pieces_pathOf hhead htail, followDots_append hne hs,
      List.flatMap_append, flatMap_escape hs, ← hpath]
    rfl

/-! ## Sites -/

/-- What an address has before a target: its scheme, its host and port, and what stands in front of
the target after these. -/
structure Site where
  scheme : List Char
  host : List Char
  port : Option Nat
  front : List Char

/-- The address of a target at a site. -/
def Site.address (site : Site) (target : List Char) : Url :=
  readRest site.scheme site.host site.port (site.front ++ target)

/-- A site below which no target is taken for a query or a fragment, or for part of a name. -/
structure Site.Open (site : Site) : Prop where
  noMark : ∀ c ∈ site.front, c ≠ '?' ∧ c ≠ '#'
  starts : ∀ c ∈ site.front.head?, isSlash c = true

theorem mem_cleanFront {c : Char} {cs : List Char} (h : c ∈ cleanFront cs) : c ∈ cs :=
  (List.dropWhile_sublist _).subset (List.mem_of_mem_filter h)

theorem afterHost_sublist (rest : List Char) : (afterHost rest).Sublist rest :=
  (List.dropWhile_sublist _).trans (List.dropWhile_sublist _)

theorem readScheme_eq_some {cs scheme rest : List Char}
    (h : readScheme cs = some (scheme, rest)) : ∃ name, cut ':' cs = (name, some rest) := by
  unfold readScheme at h
  split at h
  next c name rest' hcut =>
    split_ifs at h
    cases h
    exact ⟨_, hcut⟩
  next => cases h

/-- A text in which no path begins. -/
def SlashFree (cs : List Char) : Prop := ∀ c ∈ cs, isSlash c = false

instance : DecidablePred SlashFree := fun cs => List.decidableBAll _ cs

/-- A base of a scheme and a host, without a path of its own. -/
def IsBare (base : String) : Prop :=
  ∃ scheme authority : List Char, base.toList = scheme ++ ':' :: '/' :: '/' :: authority ∧
    ':' ∉ scheme ∧ SlashFree authority

theorem IsBare.cleanFront_eq {base : String} (h : IsBare base) :
    ∃ name kept, cleanFront base.toList = name ++ ':' :: '/' :: '/' :: kept ∧ ':' ∉ name ∧
      (∀ c ∈ kept, c ∈ base.toList ∧ isSlash c = false) := by
  obtain ⟨scheme, authority, hbase, hcolon, hslash⟩ := h
  refine ⟨(scheme.dropWhile fun c => decide (c.toNat ≤ 32)).filter fun c =>
      c ≠ '\t' ∧ c ≠ '\n' ∧ c ≠ '\r',
    authority.filter fun c => c ≠ '\t' ∧ c ≠ '\n' ∧ c ≠ '\r', ?_, fun hmem => ?_, fun c hc => ?_⟩
  · rw [cleanFront, hbase, dropWhile_append_stop (by decide), List.filter_append]
    rfl
  · exact hcolon ((List.dropWhile_sublist _).subset (List.mem_of_mem_filter hmem))
  · have hmem := List.mem_of_mem_filter hc
    exact ⟨by rw [hbase]; simp [hmem], hslash c hmem⟩

/-- A bare base has nothing behind its host. -/
theorem afterHost_of_isBare {base : String} (hbare : IsBare base) (hbase : IsBase base)
    {scheme rest : List Char}
    (h : readScheme (cleanFront base.toList ++ ['/']) = some (scheme, rest ++ ['/'])) :
    afterHost rest = [] := by
  obtain ⟨name, kept, hclean, hcolon, hkept⟩ := hbare.cleanFront_eq
  obtain ⟨name', hcut⟩ := readScheme_eq_some h
  rw [hclean, List.append_assoc, List.cons_append, cut_append_cons hcolon] at hcut
  obtain rfl : '/' :: '/' :: kept = rest :=
    List.append_cancel_right (Option.some.inj (congrArg Prod.snd hcut))
  refine List.dropWhile_eq_nil_iff.2 fun c hc => ?_
  have hmem : c ∈ kept := (List.dropWhile_sublist _).subset
    (hc : c ∈ kept.dropWhile isSlash)
  obtain ⟨hc, hslash⟩ := hkept c hmem
  simp [endsAuthority, hslash, hbase c hc]

/-- A base that names a host to which requests can be sent gives all targets one site. -/
theorem exists_site {base : String} {u : Url} (hu : parse (base ++ "/") = .ok u)
    (hhttp : u.isHttp = true) :
    ∃ site : Site, (IsBase base → site.Open ∧ (IsBare base → site.front = [])) ∧
      site.scheme = u.scheme ∧
      ∀ cs, IsTarget cs → parse (base ++ String.ofList cs) = .ok (site.address cs) := by
  have hslash : IsTarget ['/'] := ⟨⟨_, rfl⟩, by decide⟩
  have hread : ∀ cs, IsTarget cs → clean (base ++ String.ofList cs).toList =
      cleanFront base.toList ++ cs := fun cs hcs => by
    rw [String.toList_append, String.toList_ofList, clean_append _ hcs]
  change parse (base ++ String.ofList ['/']) = _ at hu
  rw [parse_eq, hread _ hslash] at hu
  rcases readScheme_append (cleanFront base.toList) with hnone | ⟨scheme, rest, hrest, hscheme⟩
  · rw [hnone _ hslash] at hu
    cases hu
  rw [hscheme _ hslash] at hu
  dsimp only at hu
  cases hweb : webSchemes.lookup scheme with
  | none =>
    rw [hweb] at hu
    obtain rfl := Except.ok.inj hu
    rw [isHttp, Bool.or_eq_true, decide_eq_true_iff, decide_eq_true_iff] at hhttp
    rcases hhttp with rfl | rfl <;> cases hweb
  | some usual =>
    rw [hweb] at hu
    dsimp only at hu
    by_cases hslashes : rest.dropWhile isSlash = []
    · rw [readWeb_slashes hslashes] at hu
      cases hu
    obtain ⟨site, hsite⟩ := readWeb_append usual hslashes
    rw [hsite _ hslash] at hu
    cases site with
    | error e => cases hu
    | ok p =>
      obtain rfl := Except.ok.inj hu
      have hbelow : ∀ c ∈ afterHost rest, c ∈ base.toList := fun c hc =>
        mem_cleanFront (hrest.subset ((afterHost_sublist rest).subset hc))
      refine ⟨⟨scheme, p.1, p.2, afterHost rest⟩,
        fun hbase => ⟨⟨fun c hc => hbase c (hbelow c hc), fun c hc => ?_⟩,
          fun hbare => afterHost_of_isBare hbare hbase (hscheme _ hslash)⟩, rfl, fun cs hcs => ?_⟩
      · change (afterHost rest).head? = some c at hc
        have hends := List.head?_dropWhile_not (fun c => !endsAuthority c) (rest.dropWhile isSlash)
        rw [← afterHost, hc] at hends
        have hmarks := hbase c (hbelow c (List.mem_of_mem_head? (Option.mem_def.2 hc)))
        simpa [endsAuthority, hmarks] using hends
      · rw [parse_eq, hread cs hcs, hscheme cs hcs]
        dsimp only
        rw [hweb]
        exact hsite cs hcs

/-- The address of a path with a query at an open site. -/
theorem address_eq {site : Site} (hsite : site.Open) (hne : segments ≠ [])
    (hs : ∀ s ∈ segments, IsSegment s) {query : Option (List Char)}
    (htarget : IsTarget (pathOf segments ++ marked '?' query)) :
    site.address (pathOf segments ++ marked '?' query) = ⟨site.scheme, some site.host, site.port,
      ownPath site.front ++ pathOf segments, query.map (Percent.escapeWhere escapedInQuery),
      none⟩ := by
  have hhash : '#' ∉ site.front ++ (pathOf segments ++ marked '?' query) := fun hc =>
    (List.mem_append.1 hc).elim (fun hc => (hsite.noMark _ hc).2 rfl) htarget.noFragment
  have hmark : '?' ∉ site.front ++ pathOf segments := fun hc =>
    (List.mem_append.1 hc).elim (fun hc => (hsite.noMark _ hc).1 rfl)
      fun hc => (mem_pathOf hs hc).2.2 rfl
  have hcut : cut '?' (site.front ++ (pathOf segments ++ marked '?' query)) =
      (site.front ++ pathOf segments, query) := by
    rw [← List.append_assoc]
    cases query with
    | none => rw [marked, List.append_nil, cut_of_not_mem hmark]
    | some query => rw [marked, cut_append_cons hmark]
  unfold Site.address readRest
  rw [cut_of_not_mem hhash]
  dsimp only
  rw [hcut]
  dsimp only
  rw [readPath_append hsite.starts hne hs]
  rfl

theorem mark_not_mem_ownPath (front : List Char) : '?' ∉ ownPath front := by
  have hescape : ∀ n ∈ List.range 256, '?' ∉ Percent.escape (UInt8.ofNat n) := by
    decide +kernel
  intro hmem
  cases front with
  | nil => cases hmem
  | cons c rest =>
    obtain ⟨s, -, hs⟩ := List.mem_flatMap.1 hmem
    rcases List.mem_cons.1 hs with h | h
    · cases h
    obtain ⟨d, -, hd⟩ := List.mem_flatMap.1 h
    split at hd
    · obtain ⟨b, -, hb⟩ := List.mem_flatMap.1 hd
      rw [← UInt8.ofNat_toNat (x := b)] at hb
      exact hescape b.toNat (List.mem_range.2 b.toNat_lt) hb
    next hplain =>
      obtain rfl := List.mem_singleton.1 hd
      exact hplain (by decide)

end Url

/-! ## Clients -/

namespace Client

/-- A client whose base names a host to which requests can be sent. -/
def Hosted (c : Client) : Prop := ∃ u, Url.parse (c.base ++ "/") = .ok u ∧ u.isHttp = true

/-- A client that can make requests. -/
structure Usable (c : Client) : Prop where
  hosted : c.Hosted
  token : isHeaderText c.token = true

/-- What the base of a client puts in front of the path of each target. -/
def root (c : Client) : List Char :=
  match Url.parse (c.base ++ "/") with
  | .ok u => u.path.dropLast
  | .error _ => []

variable {c : Client} {segments : List (List Char)}

/-- A client with a host can make each request whose headers can be sent, for any target. -/
theorem Hosted.exists_request (hc : c.Hosted) {cs : List Char} (hcs : Url.IsTarget cs) (m : Method)
    {headers : List (String × String)} (hheaders : headers.all (fun h => isHeaderText h.2) = true)
    (body : String) :
    ∃ u, Url.parse (c.base ++ String.ofList cs) = .ok u ∧
      c.request m (String.ofList cs) headers body = .ok ⟨m, u, headers ++ [userAgent], body⟩ := by
  obtain ⟨u, hu, hhttp⟩ := hc
  obtain ⟨site, -, hscheme, hsite⟩ := Url.exists_site hu hhttp
  have hsame : (site.address cs).isHttp = u.isHttp := by
    unfold Url.isHttp
    rw [← hscheme]
    rfl
  exact ⟨_, hsite cs hcs, request_eq (hsite cs hcs) rfl (hsame.trans hhttp) hheaders body⟩

/-- Below a base that has neither a query nor a fragment stands one open site, from which the root
of the client comes. -/
theorem Hosted.exists_root (hc : c.Hosted) (hbase : Url.IsBase c.base) :
    ∃ site : Url.Site, site.Open ∧ (Url.IsBare c.base → site.front = []) ∧
      c.root = Url.ownPath site.front ∧
      ∀ cs, Url.IsTarget cs → Url.parse (c.base ++ String.ofList cs) = .ok (site.address cs) := by
  obtain ⟨u, hu, hhttp⟩ := hc
  obtain ⟨site, hopen, -, hsite⟩ := Url.exists_site hu hhttp
  obtain ⟨hopen, hbare⟩ := hopen hbase
  have hslash : Url.IsTarget (Url.pathOf [[]] ++ Url.marked '?' none) := ⟨⟨_, rfl⟩, by decide⟩
  have haddress : Url.parse (c.base ++ "/") =
      .ok (site.address (Url.pathOf [[]] ++ Url.marked '?' none)) := hsite _ hslash
  refine ⟨site, hopen, hbare, ?_, hsite⟩
  rw [root, haddress, Url.address_eq hopen (List.cons_ne_nil _ _) (by decide) hslash]
  exact List.dropLast_concat

/-- A bare base has no root. -/
theorem Hosted.root_eq_nil (hc : c.Hosted) (hbase : Url.IsBase c.base) (hbare : Url.IsBare c.base) :
    c.root = [] := by
  obtain ⟨site, -, hfront, hroot, -⟩ := hc.exists_root hbase
  rw [hroot, hfront hbare]
  rfl

theorem Hosted.mark_not_mem_root (hc : c.Hosted) (hbase : Url.IsBase c.base) : '?' ∉ c.root := by
  obtain ⟨site, -, -, hroot, -⟩ := hc.exists_root hbase
  rw [hroot]
  exact Url.mark_not_mem_ownPath _

/-- **Targets.** What is sent of a path and a query below a base that has neither a query nor a
fragment is the root of the client, the path and the query. -/
theorem Hosted.target_eq (hc : c.Hosted) (hbase : Url.IsBase c.base) (hne : segments ≠ [])
    (hs : ∀ s ∈ segments, Url.IsSegment s) {query : Option (List Char)}
    (htarget : Url.IsTarget (Url.pathOf segments ++ Url.marked '?' query)) {u : Url}
    (hu : Url.parse (c.base ++
      String.ofList (Url.pathOf segments ++ Url.marked '?' query)) = .ok u) :
    u.target = c.root ++ Url.pathOf segments ++
      Url.marked '?' (query.map (Percent.escapeWhere Url.escapedInQuery)) := by
  obtain ⟨site, hopen, -, hroot, hsite⟩ := hc.exists_root hbase
  obtain rfl := Except.ok.inj ((hsite _ htarget).symm.trans hu)
  rw [Url.address_eq hopen hne hs htarget, hroot]
  rfl

end Client

end Http

end TypedSeries
