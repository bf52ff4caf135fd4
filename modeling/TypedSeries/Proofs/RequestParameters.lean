import TypedSeries.Proofs.Conversations
import TypedSeries.Proofs.HealthAddress

/-!
# Parameters of requests

What a server makes of a request whose target has parameters.

1. A coded text has no mark that separates parameters, is sent as it is, and decodes to the text
   (`Percent.valueText_encode`, `Percent.decodeText?_encode`).
2. Texts without a separator are the pieces of what they make with it (`pieces_intercalate`).
3. Behind a base without a query and without a fragment, what follows the question mark of a target
   is the query of the address (`Url.query_of_parse`).

**Main.** `Client.parameters?_of_request`: a request has the parameters it was made with, whatever
their values are.
-/

namespace TypedSeries

/-! ## Pieces -/

theorem pieces_of_not_mem {separator : Char} {cs : List Char} (h : separator ∉ cs) :
    pieces separator cs = [cs] := by
  induction cs with
  | nil => rfl
  | cons c cs ih =>
    rw [List.mem_cons, not_or] at h
    rw [pieces, if_neg (Ne.symm h.1), ih h.2]

theorem pieces_append_cons {separator : Char} {front : List Char} (h : separator ∉ front)
    (rest : List Char) :
    pieces separator (front ++ separator :: rest) = front :: pieces separator rest := by
  induction front with
  | nil => exact if_pos rfl
  | cons c front ih =>
    rw [List.mem_cons, not_or] at h
    rw [List.cons_append, pieces, if_neg (Ne.symm h.1), ih h.2]

theorem pieces_intercalate {separator : Char} : ∀ {texts : List (List Char)}, texts ≠ [] →
    (∀ text ∈ texts, separator ∉ text) → pieces separator ([separator].intercalate texts) = texts
  | [], hne, _ => absurd rfl hne
  | [text], _, h => by
    rw [List.intercalate_singleton]
    exact pieces_of_not_mem (h text List.mem_cons_self)
  | text :: other :: texts, _, h => by
    rw [List.intercalate_cons_cons, List.append_assoc, List.singleton_append,
      pieces_append_cons (h text List.mem_cons_self),
      pieces_intercalate (List.cons_ne_nil _ _) fun t ht => h t (List.mem_cons_of_mem _ ht)]

/-! ## Coded texts -/

/-- A character that is sent in a query as it is and that separates nothing. -/
def IsValueChar (c : Char) : Prop :=
  Http.Url.escapedInQuery c = false ∧ c ∉ ['&', '=']

instance : DecidablePred IsValueChar := fun _ => inferInstanceAs (Decidable (_ ∧ _))

/-- A text of such characters. -/
def ValueText (cs : List Char) : Prop := ∀ c ∈ cs, IsValueChar c

instance (cs : List Char) : Decidable (ValueText cs) := List.decidableBAll IsValueChar cs

namespace Percent

theorem valueText_encode (s : String) : ValueText (encode s) :=
  forall_mem_encode (by decide +kernel) s

/-- Decoding gives back the text that was coded. -/
theorem decodeText?_encode (s : String) : decodeText? (encode s) = some s := by
  have hbytes : (decode (encode s)).toByteArray = s.toByteArray := by
    rw [decode_encode]
    exact String.toByteArray_ofList.symm.trans (congrArg String.toByteArray String.ofList_toList)
  rw [decodeText?, hbytes, String.fromUTF8?, dif_pos s.isValidUTF8]
  rfl

theorem escapeWhere_eq_self {special : Char → Bool} {cs : List Char}
    (h : ∀ c ∈ cs, special c = false) : escapeWhere special cs = cs := by
  induction cs with
  | nil => rfl
  | cons c cs ih =>
    have hc := h c List.mem_cons_self
    rw [escapeWhere, List.flatMap_cons, hc]
    exact congrArg (c :: ·) (ih fun d hd => h d (List.mem_cons_of_mem _ hd))

end Percent

namespace Http

/-! ## The query of an address -/

namespace Url

/-- A base whose address has neither a query nor a fragment. -/
def IsBase (base : String) : Prop := ∀ c ∈ base.toList, c ≠ '?' ∧ c ≠ '#'

instance (base : String) : Decidable (IsBase base) := List.decidableBAll _ base.toList

/-- What follows a question mark has no part in naming the host. -/
theorem readWeb_mark (scheme front : List Char) (usual : Nat) :
    ∃ (kept : List Char) (site : Except UrlFault (List Char × Option Nat)), kept.Sublist front ∧
      ∀ query, readWeb scheme usual (front ++ '?' :: query) =
        site.map fun p => readRest scheme p.1 p.2 (kept ++ '?' :: query) := by
  rcases hparts : splitPort false (withoutUser
    ((front.dropWhile isSlash).takeWhile fun c => !endsAuthority c)) with ⟨name, digits⟩
  refine ⟨(front.dropWhile isSlash).dropWhile fun c => !endsAuthority c,
    do return (← readHost name, ← readPort usual digits),
    (List.dropWhile_sublist _).trans (List.dropWhile_sublist _), fun query => ?_⟩
  unfold readWeb
  dsimp only
  rw [dropWhile_append_stop (by decide), takeWhile_append_stop (by decide),
    dropWhile_append_stop (by decide), hparts]
  dsimp only
  cases readHost name with
  | error e => rfl
  | ok host => cases readPort usual digits <;> rfl

/-- The address of a path with a query names no host, or it is the same for every query up to the
question mark, before which there is nothing but the base and the path. -/
theorem parse_mark (base : String) (path : List Char) :
    (∀ query u, IsTarget (path ++ '?' :: query) →
      parse (base ++ String.ofList (path ++ '?' :: query)) = .ok u → u.host = none) ∨
    ∃ (scheme front : List Char) (site : Except UrlFault (List Char × Option Nat)),
      (∀ c ∈ front, c ∈ base.toList ∨ c ∈ path) ∧ ∀ query, IsTarget (path ++ '?' :: query) →
        parse (base ++ String.ofList (path ++ '?' :: query)) =
          site.map fun p => readRest scheme p.1 p.2 (front ++ '?' :: query) := by
  have hclean : ∀ query, IsTarget (path ++ '?' :: query) →
      clean (base ++ String.ofList (path ++ '?' :: query)).toList =
        cleanFront base.toList ++ (path ++ '?' :: query) := by
    intro query h
    rw [String.toList_append, String.toList_ofList, clean_append _ h]
  rcases readScheme_append (cleanFront base.toList) with hnone | ⟨scheme, rest, hrest, hscheme⟩
  · refine .inl fun query u htarget h => ?_
    rw [parse_eq, hclean query htarget, hnone _ htarget] at h
    cases h
  cases hweb : webSchemes.lookup scheme with
  | none =>
    refine .inl fun query u htarget h => ?_
    rw [parse_eq, hclean query htarget, hscheme _ htarget] at h
    dsimp only at h
    rw [hweb] at h
    exact (congrArg Url.host (Except.ok.inj h)).symm
  | some usual =>
    obtain ⟨kept, site, hkept, hsite⟩ := readWeb_mark scheme (rest ++ path) usual
    refine .inr ⟨scheme, kept, site, fun c hc => ?_, fun query htarget => ?_⟩
    · refine (List.mem_append.1 (hkept.subset hc)).imp_left fun hc => ?_
      exact (List.dropWhile_sublist _).subset (List.mem_of_mem_filter (hrest.subset hc))
    · rw [parse_eq, hclean query htarget, hscheme _ htarget]
      dsimp only
      rw [hweb, ← hsite query, List.append_assoc]

/-- What follows the question mark of a target is the query. -/
theorem query_of_parse {base : String} {path query : List Char} {u : Url} (hbase : IsBase base)
    (htarget : IsTarget (path ++ '?' :: query)) (hpath : '?' ∉ path)
    (h : parse (base ++ String.ofList (path ++ '?' :: query)) = .ok u) (hhost : u.host ≠ none) :
    u.query = some (Percent.escapeWhere escapedInQuery query) := by
  rcases parse_mark base path with hnone | ⟨scheme, front, site, hfront, hsite⟩
  · exact absurd (hnone query u htarget h) hhost
  rw [hsite query htarget] at h
  have hmark : '?' ∉ front := fun hc => (hfront _ hc).elim (fun hc => (hbase _ hc).1 rfl) hpath
  have hhash : '#' ∉ front ++ '?' :: query := by
    intro hc
    rcases List.mem_append.1 hc with hc | hc
    · refine (hfront _ hc).elim (fun hc => (hbase _ hc).2 rfl) fun hc => htarget.noFragment ?_
      exact List.mem_append_left _ hc
    · exact htarget.noFragment (List.mem_append_right _ hc)
  cases site with
  | error e => cases h
  | ok p =>
    obtain rfl := Except.ok.inj h
    show (cut '?' (cut '#' (front ++ '?' :: query)).1).2.map _ = _
    rw [cut_of_not_mem hhash, cut_append_cons hmark]
    rfl

/-- Whether an address can be read does not depend on the query, nor does what it names. -/
theorem parse_of_parse {base : String} {path query : List Char} {u : Url}
    (htarget : IsTarget (path ++ '?' :: query))
    (h : parse (base ++ String.ofList (path ++ '?' :: query)) = .ok u) (hhost : u.host ≠ none)
    {other : List Char} (hother : IsTarget (path ++ '?' :: other)) :
    ∃ u', parse (base ++ String.ofList (path ++ '?' :: other)) = .ok u' ∧ u'.host = u.host ∧
      u'.scheme = u.scheme := by
  rcases parse_mark base path with hnone | ⟨scheme, front, site, -, hsite⟩
  · exact absurd (hnone query u htarget h) hhost
  rw [hsite query htarget] at h
  rw [hsite other hother]
  cases site with
  | error e => cases h
  | ok p =>
    obtain rfl := Except.ok.inj h
    exact ⟨_, rfl, rfl, rfl⟩

end Url

/-! ## Parameters -/

/-- Parameters as a query: names and values are coded. -/
def queryOf (parameters : List (String × String)) : List Char :=
  ['&'].intercalate (parameters.map fun p => Percent.encode p.1 ++ '=' :: Percent.encode p.2)

/-- A name with its value. -/
def readParameter? (text : List Char) : Option (String × String) := do
  let (name, value) := cut '=' text
  return (← Percent.decodeText? name, ← Percent.decodeText? (← value))

/-- The parameters of a query, if it consists of names with their values. -/
def readQuery? (query : List Char) : Option (List (String × String)) :=
  (pieces '&' query).mapM readParameter?

theorem readParameter?_encode (p : String × String) :
    readParameter? (Percent.encode p.1 ++ '=' :: Percent.encode p.2) = some p := by
  have hname : '=' ∉ Percent.encode p.1 := fun hc =>
    (Percent.valueText_encode p.1 _ hc).2 (by decide)
  rw [readParameter?, cut_append_cons hname]
  simp [Percent.decodeText?_encode]

theorem isValueChar_parameter {parameters : List (String × String)} :
    ∀ text ∈ parameters.map fun p => Percent.encode p.1 ++ '=' :: Percent.encode p.2,
      ∀ c ∈ text, IsValueChar c ∨ c = '=' := by
  intro text htext c hc
  obtain ⟨p, -, rfl⟩ := List.mem_map.1 htext
  rcases List.mem_append.1 hc with hc | hc
  · exact .inl (Percent.valueText_encode p.1 c hc)
  rcases List.mem_cons.1 hc with rfl | hc
  · exact .inr rfl
  · exact .inl (Percent.valueText_encode p.2 c hc)

theorem escapeWhere_queryOf (parameters : List (String × String)) :
    Percent.escapeWhere Url.escapedInQuery (queryOf parameters) = queryOf parameters := by
  refine Percent.escapeWhere_eq_self (Url.forall_mem_intercalate (by decide) ?_)
  intro text htext c hc
  rcases isValueChar_parameter text htext c hc with hvalue | rfl
  · exact hvalue.1
  · decide

theorem readQuery?_queryOf {parameters : List (String × String)} (hne : parameters ≠ []) :
    readQuery? (queryOf parameters) = some parameters := by
  have hpieces : pieces '&' (queryOf parameters) =
      parameters.map fun p => Percent.encode p.1 ++ '=' :: Percent.encode p.2 := by
    refine pieces_intercalate (by simpa using hne) fun text htext hc => ?_
    rcases isValueChar_parameter text htext _ hc with hvalue | he
    · exact hvalue.2 (by decide)
    · exact absurd he (by decide)
  rw [readQuery?, hpieces, mapM_map_eq_some readParameter?_encode, List.map_id']

theorem target_eq {path : String} {parameters : List (String × String)} (hne : parameters ≠ [])
    (hnames : ∀ p ∈ parameters, Percent.encode p.1 = p.1.toList) :
    target path parameters = String.ofList (path.toList ++ '?' :: queryOf parameters) := by
  have htexts : (parameters.map fun p => p.1.toList ++ '=' :: Percent.encode p.2) =
      parameters.map fun p => Percent.encode p.1 ++ '=' :: Percent.encode p.2 :=
    List.map_congr_left fun p hp => by rw [hnames p hp]
  unfold target queryOf
  rw [← htexts]
  cases parameters with
  | nil => exact absurd rfl hne
  | cons p ps => rfl

theorem isTarget_queryOf {path : List Char} (hpath : Url.IsTarget path)
    {parameters : List (String × String)}
    (hnames : ∀ p ∈ parameters, Percent.encode p.1 = p.1.toList) :
    Url.IsTarget (path ++ '?' :: queryOf parameters) := by
  have hplain : ∀ name ∈ parameters.map Prod.fst, Url.PlainText name.toList := by
    intro name hname
    obtain ⟨p, hp, rfl⟩ := List.mem_map.1 hname
    exact hnames p hp ▸ Url.plain_encode p.1
  have htarget := Url.isTarget_parameters hpath hplain
  rwa [List.map_congr_left (g := fun p => Percent.encode p.1 ++ '=' :: Percent.encode p.2)
    fun p hp => by rw [hnames p hp]] at htarget

/-- The parameters that a request has by its address. -/
def Request.parameters? (r : Request) : Option (List (String × String)) :=
  r.url.query.bind readQuery?

/-- A request has the parameters it is made with, whatever their values are. -/
theorem Client.parameters?_of_request {c : Client} (hbase : Url.IsBase c.base) {m : Method}
    {path : String} (hpath : Url.IsTarget path.toList) (hmark : '?' ∉ path.toList)
    {parameters : List (String × String)} (hne : parameters ≠ [])
    (hnames : ∀ p ∈ parameters, Percent.encode p.1 = p.1.toList)
    {headers : List (String × String)} {body : String} {r : Request}
    (h : c.request m (target path parameters) headers body = .ok r) :
    r.parameters? = some parameters := by
  obtain ⟨u, hu, hhost, rfl⟩ := request_eq_ok h
  rw [target_eq hne hnames] at hu
  have hquery := Url.query_of_parse hbase (isTarget_queryOf hpath hnames) hmark hu hhost
  rw [escapeWhere_queryOf] at hquery
  rw [Request.parameters?, hquery, Option.bind_some, readQuery?_queryOf hne]

theorem Client.sendable_of_request {c : Client} {m : Method} {target : String}
    {headers : List (String × String)} {body : String} {r : Request}
    (h : c.request m target headers body = .ok r) :
    headers.all (fun h => isHeaderText h.2) = true ∧ r.url.isHttp = true := by
  unfold request at h
  split at h
  next => cases h
  next u hu =>
    split_ifs at h with hhost hheaders hhttp
    obtain rfl := Except.ok.inj h
    exact ⟨by simpa using hheaders, by simpa using hhttp⟩

/-- Whether a request can be made does not depend on its parameters. -/
theorem Client.exists_request {c : Client} {m : Method} {path : String}
    (hpath : Url.IsTarget path.toList) {parameters other : List (String × String)}
    (hne : parameters ≠ []) (hnames : ∀ p ∈ parameters, Percent.encode p.1 = p.1.toList)
    (hother : other ≠ []) (hnames' : ∀ p ∈ other, Percent.encode p.1 = p.1.toList)
    {headers : List (String × String)} {body : String} {r : Request}
    (h : c.request m (target path parameters) headers body = .ok r) :
    ∃ r, c.request m (target path other) headers body = .ok r := by
  obtain ⟨hheaders, hhttp⟩ := sendable_of_request h
  obtain ⟨u, hu, hhost, rfl⟩ := request_eq_ok h
  rw [target_eq hne hnames] at hu
  obtain ⟨u', hu', hhost', hscheme⟩ := Url.parse_of_parse (isTarget_queryOf hpath hnames) hu hhost
    (isTarget_queryOf hpath hnames')
  rw [← target_eq hother hnames'] at hu'
  rw [Url.isHttp, ← hscheme] at hhttp
  rw [← hhost'] at hhost
  exact ⟨_, request_eq hu' (Option.isNone_eq_false_iff.2 (Option.isSome_iff_ne_none.2 hhost)) hhttp
    hheaders body⟩

end Http

end TypedSeries
