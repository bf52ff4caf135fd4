import Mathlib.Data.List.Nodup
import TypedSeries.Proofs.Actions
import TypedSeries.Registry

/-!
# The history of a registry

What a registry knows after any calls, said by the types it was offered.

1. `Registry.offer` gives a registry types one after the other, and every call that registers
   does that with some list of types (`Registry.Extends`).
2. The index of a registry is in step with its types, so a name resolves to the one type that has
   it (`Registry.get?_eq_some_iff`), and there are three things a registration can do
   (`Registry.register_cases`).
3. A name has the first type it was offered with (`Registry.get?_offer`).
4. A batch is offered up to the first type in conflict (`Registry.registerFrom_cases`).

**Main.** `Registry.run_spec`: the invariants of a registry after any calls, and what each call then
answers and changes.
-/

namespace TypedSeries

namespace Registry

variable {r r' r'' : Registry} {t u : RecordType} {name : String}

/-! ## Types offered one after the other -/

/-- The registry after types have been offered to it in order. One in conflict changes nothing. -/
def offer (r : Registry) (ts : List RecordType) : Registry :=
  ts.foldl (fun r t => (r.register t).2) r

theorem offer_append (r : Registry) (ts us : List RecordType) :
    r.offer (ts ++ us) = (r.offer ts).offer us := List.foldl_append

/-- One registry is the other after more types have been offered to it. -/
def Extends (r r' : Registry) : Prop := ∃ ts, r' = r.offer ts

theorem Extends.refl (r : Registry) : r.Extends r := ⟨[], rfl⟩

theorem Extends.trans (h : r.Extends r') (h' : r'.Extends r'') : r.Extends r'' := by
  obtain ⟨ts, rfl⟩ := h
  obtain ⟨us, rfl⟩ := h'
  exact ⟨ts ++ us, (r.offer_append ts us).symm⟩

/-- Registration keeps what is known, and if it succeeds the type is known. -/
theorem get?_register (r : Registry) (t : RecordType) :
    (∀ name u, r.get? name = some u → (r.register t).2.get? name = some u) ∧
      ∀ b, (r.register t).1 = .ok b → (r.register t).2.get? t.name = some t := by
  unfold register
  split
  next i hi =>
    split
    next ht => exact ⟨fun _ _ h => h, fun b _ => by rw [get?, hi, Option.bind_some, ht]⟩
    next => exact ⟨fun _ _ h => h, fun b h => nomatch h⟩
  next hnone =>
    refine ⟨fun name u hu => ?_, fun b _ => ?_⟩
    · obtain ⟨i, hi, hu⟩ := Option.bind_eq_some_iff.1 hu
      have hne : ¬ t.name = name := by
        rintro rfl
        rw [hnone] at hi
        cases hi
      obtain ⟨hlt, -⟩ := List.getElem?_eq_some_iff.1 hu
      rw [get?, append, NameMap.get?_insert, if_neg hne, hi, Option.bind_some,
        List.getElem?_append_left hlt, hu]
    · rw [get?, append, NameMap.get?_insert, if_pos rfl, Option.bind_some,
        List.getElem?_append_right (Nat.le_refl _), Nat.sub_self]
      rfl

/-- A name that a registry knows keeps its type. -/
theorem Extends.get? (h : r.Extends r') (ht : r.get? name = some t) : r'.get? name = some t := by
  obtain ⟨ts, rfl⟩ := h
  induction ts generalizing r with
  | nil => exact ht
  | cons u ts ih => exact ih ((get?_register r u).1 name t ht)

theorem register_spec (r : Registry) (t : RecordType) :
    r.Extends (r.register t).2 ∧
      ∀ b, (r.register t).1 = .ok b → (r.register t).2.get? t.name = some t :=
  ⟨⟨[t], rfl⟩, (get?_register r t).2⟩

/-- A registration that fails changes nothing. -/
theorem register_error {e : SchemaError} (h : r.register t = (.error e, r')) : r' = r := by
  unfold register at h
  split at h
  · split at h
    · cases h
    · cases h; rfl
  · cases h

/-- The types of a list before the first that is in conflict when its turn comes. -/
def accepted (r : Registry) : List RecordType → List RecordType
  | [] => []
  | t :: ts =>
    match r.register t with
    | (.ok _, r) => t :: r.accepted ts
    | (.error _, _) => []

theorem registerFrom_snd (added : Nat) (r : Registry) (ts : List RecordType) :
    (registerFrom added r ts).2 = r.offer (r.accepted ts) := by
  induction ts generalizing added r with
  | nil => rfl
  | cons t ts ih =>
    have hcons : ∀ r', (r.register t).2 = r' → r.offer (t :: r'.accepted ts) =
        r'.offer (r'.accepted ts) := fun r' h => by rw [← h]; rfl
    rw [registerFrom, accepted]
    split
    next r' h => rw [h, ih]; exact (hcons r' (congrArg Prod.snd h)).symm
    next r' h => rw [h, ih]; exact (hcons r' (congrArg Prod.snd h)).symm
    next e r' h => rw [h]; exact register_error h

theorem extends_registerFrom (ts : List RecordType) (added : Nat) (r : Registry) :
    r.Extends (registerFrom added r ts).2 := ⟨r.accepted ts, registerFrom_snd added r ts⟩

theorem extends_registerDeclared (r : Registry) (d : Declaration) :
    r.Extends (r.registerDeclared d).2 := by
  unfold registerDeclared
  split
  · exact (register_spec r _).1
  · exact .refl r

theorem extends_collect (r : Registry) (ds : List Declaration) : r.Extends (r.collect ds).2 := by
  unfold collect
  split
  · exact extends_registerFrom _ 0 r
  · exact .refl r

/-! ## Types stay in their places -/

theorem types_register (r : Registry) (t : RecordType) : r.types <+: (r.register t).2.types := by
  unfold register
  split
  · split <;> exact List.prefix_refl _
  · exact List.prefix_append _ _

theorem Extends.types (h : r.Extends r') : r.types <+: r'.types := by
  obtain ⟨ts, rfl⟩ := h
  induction ts generalizing r with
  | nil => exact List.prefix_refl _
  | cons t ts ih => exact (types_register r t).trans (ih (r := (r.register t).2))

/-! ## The index -/

theorem nodup_names (r : Registry) : (r.types.map RecordType.name).Nodup := by
  rw [List.nodup_iff_getElem?_ne_getElem?]
  intro i j hij hj he
  obtain ⟨t, ht⟩ : ∃ t, r.types[j]? = some t :=
    ⟨_, List.getElem?_eq_getElem (by simpa using hj)⟩
  rw [List.getElem?_map, List.getElem?_map, ht, Option.map_some] at he
  obtain ⟨u, hu, hname⟩ := Option.map_eq_some_iff.1 he
  have hi := (r.places_iff t.name i).2 ⟨u, hu, hname⟩
  have hj := (r.places_iff t.name j).2 ⟨t, ht, rfl⟩
  rw [hi] at hj
  exact Nat.ne_of_lt hij (Option.some.inj hj)

theorem get?_eq_some_iff : r.get? name = some t ↔ t ∈ r.types ∧ t.name = name := by
  unfold get?
  rw [Option.bind_eq_some_iff]
  constructor
  · rintro ⟨i, hi, ht⟩
    obtain ⟨u, hu, hname⟩ := (r.places_iff name i).1 hi
    obtain rfl : u = t := Option.some.inj (hu.symm.trans ht)
    exact ⟨List.mem_of_getElem? ht, hname⟩
  · rintro ⟨ht, hname⟩
    obtain ⟨i, hi⟩ := List.mem_iff_getElem?.1 ht
    exact ⟨i, (r.places_iff name i).2 ⟨t, hi, hname⟩, hi⟩

theorem get?_eq_none_iff : r.get? name = none ↔ ∀ t ∈ r.types, t.name ≠ name := by
  rw [Option.eq_none_iff_forall_ne_some]
  exact forall_congr' fun t => (not_congr get?_eq_some_iff).trans not_and

theorem places_of_get?_none (hn : r.get? name = none) : r.places.get? name = none := by
  rw [Option.eq_none_iff_forall_ne_some]
  intro i hi
  obtain ⟨t, ht, hname⟩ := (r.places_iff name i).1 hi
  exact get?_eq_none_iff.1 hn t (List.mem_of_getElem? ht) hname

/-- **One registration.** It appends a type of a new name, finds the type there, or finds another
under its name; in the last two cases it changes nothing. -/
theorem register_cases (r : Registry) (t : RecordType) :
    (r.get? t.name = none ∧ ∃ hnew, r.register t = (.ok true, r.append t hnew)) ∨
    (r.get? t.name = some t ∧ r.register t = (.ok false, r)) ∨
    ∃ u, r.get? t.name = some u ∧ u ≠ t ∧ r.register t = (.error (.conflict t.name), r) := by
  unfold register
  split
  next i hi =>
    obtain ⟨u, hu, hname⟩ := (r.places_iff t.name i).1 hi
    have hget : r.get? t.name = some u := get?_eq_some_iff.2 ⟨List.mem_of_getElem? hu, hname⟩
    rw [hu, hget]
    by_cases hut : u = t
    · subst hut
      exact .inr (.inl ⟨rfl, if_pos rfl⟩)
    · exact .inr (.inr ⟨u, rfl, hut, if_neg fun e => hut (Option.some.inj e)⟩)
  next hnew =>
    refine .inl ⟨?_, hnew, rfl⟩
    rw [get?, hnew]
    rfl

/-- A look-up finds the type that has the name. -/
theorem get?_eq_find? (r : Registry) (name : String) :
    r.get? name = r.types.find? (·.name = name) := by
  cases hget : r.get? name with
  | none =>
    refine (List.find?_eq_none.2 fun t ht => ?_).symm
    simpa using get?_eq_none_iff.1 hget t ht
  | some t =>
    cases hfind : r.types.find? (·.name = name) with
    | none =>
      obtain ⟨ht, hname⟩ := get?_eq_some_iff.1 hget
      exact absurd hname (by simpa using List.find?_eq_none.1 hfind t ht)
    | some u =>
      have hu : r.get? name = some u := get?_eq_some_iff.2 ⟨List.mem_of_find?_eq_some hfind,
        by simpa using List.find?_some hfind⟩
      rw [← hu, hget]

/-- After a registration a name has the type it had, and if it had none the one registered. -/
theorem get?_register_eq (r : Registry) (t : RecordType) (name : String) :
    (r.register t).2.get? name = (r.get? name).or (if t.name = name then some t else none) := by
  rcases r.register_cases t with ⟨hn, hnew, he⟩ | ⟨ht, he⟩ | ⟨u, hu, -, he⟩
  · rw [he, get?_eq_find?, types_append, List.find?_append, ← get?_eq_find?]
    by_cases hname : t.name = name <;> simp [hname]
  · rw [he]
    split
    next hname => rw [← hname, ht]; rfl
    next => rw [Option.or_none]
  · rw [he]
    split
    next hname => rw [← hname, hu]; rfl
    next => rw [Option.or_none]

/-- **A name has the first type** it was offered with. -/
theorem get?_offer (r : Registry) (ts : List RecordType) (name : String) :
    (r.offer ts).get? name = (r.get? name).or (ts.find? (·.name = name)) := by
  induction ts generalizing r with
  | nil => simp [offer]
  | cons t ts ih =>
    show ((r.register t).2.offer ts).get? name = _
    rw [ih, get?_register_eq, Option.or_assoc, List.find?_cons]
    by_cases hname : t.name = name <;> simp [hname]

/-- **A registration**, by what is among the types. -/
theorem register_by_types (r : Registry) (t : RecordType) :
    if t ∈ r.types then r.register t = (.ok false, r)
    else if ∃ u ∈ r.types, u.name = t.name then r.register t = (.error (.conflict t.name), r)
    else ∃ r', r.register t = (.ok true, r') ∧ r'.types = r.types ++ [t] ∧
      r'.places = r.places.insert t.name r.types.length := by
  rcases r.register_cases t with ⟨hn, hnew, he⟩ | ⟨ht, he⟩ | ⟨u, hu, hne, he⟩
  · have hother := get?_eq_none_iff.1 hn
    rw [if_neg fun hm => hother t hm rfl, if_neg fun ⟨u, hu, hname⟩ => hother u hu hname]
    exact ⟨_, he, rfl, rfl⟩
  · rwa [if_pos (get?_eq_some_iff.1 ht).1]
  · have hmem : t ∉ r.types := fun hm =>
      hne (Option.some.inj (hu.symm.trans (get?_eq_some_iff.2 ⟨hm, rfl⟩)))
    rwa [if_neg hmem, if_pos ⟨u, get?_eq_some_iff.1 hu⟩]

/-- A name stands in the index exactly when it resolves. -/
theorem contains_iff (r : Registry) (name : String) :
    r.contains name = true ↔ ∃ t, r.resolve name = .ok t := by
  unfold contains resolve NameMap.contains
  cases hget : r.get? name with
  | none => rw [places_of_get?_none hget]; simp
  | some t =>
    obtain ⟨i, hi, -⟩ := Option.bind_eq_some_iff.1 hget
    rw [hi]
    simp

/-! ## Batches -/

/-- No type of a list has the name of a different one, known before or in the list. -/
def Agree (known ts : List RecordType) : Prop :=
  ∀ t ∈ ts, ∀ u ∈ known ++ ts, u.name = t.name → u = t

/-- The types of a list that are not known, each where it first stands. -/
def fresh (known ts : List RecordType) : List RecordType := (ts.filter (· ∉ known)).eraseDups

variable {known ts : List RecordType}

theorem agree_nil (known : List RecordType) : Agree known [] := fun _ h => nomatch h

theorem agree_cons_of_mem (ht : t ∈ known) (hsame : ∀ u ∈ known, u.name = t.name → u = t) :
    Agree known (t :: ts) ↔ Agree known ts := by
  unfold Agree
  constructor
  · intro h v hv u hu
    exact h v (List.mem_cons_of_mem t hv) u (by grind)
  · intro h v hv u hu hname
    rcases List.mem_cons.1 hv with rfl | hv
    · rcases List.mem_append.1 hu with hu | hu
      · exact hsame u hu hname
      · rcases List.mem_cons.1 hu with rfl | hu
        · rfl
        · exact (h u hu v (List.mem_append_left ts ht) hname.symm).symm
    · exact h v hv u (by grind) hname

theorem agree_cons_of_new (hnew : ∀ u ∈ known, u.name ≠ t.name) :
    Agree known (t :: ts) ↔ Agree (known ++ [t]) ts := by
  unfold Agree
  rw [List.append_assoc, List.singleton_append]
  constructor
  · exact fun h v hv => h v (List.mem_cons_of_mem t hv)
  · intro h v hv u hu hname
    rcases List.mem_cons.1 hv with rfl | hv
    · rcases List.mem_append.1 hu with hu' | hu'
      · exact absurd hname (hnew u hu')
      · rcases List.mem_cons.1 hu' with rfl | hu'
        · rfl
        · exact (h u hu' v (List.mem_append_right known List.mem_cons_self) hname.symm).symm
    · exact h v hv u hu hname

theorem fresh_cons_of_mem (ht : t ∈ known) : fresh known (t :: ts) = fresh known ts := by
  rw [fresh, List.filter_cons_of_neg (by simpa using ht), fresh]

theorem fresh_cons_of_new (ht : t ∉ known) :
    fresh known (t :: ts) = t :: fresh (known ++ [t]) ts := by
  rw [fresh, List.filter_cons_of_pos (by simpa using ht), List.eraseDups_cons, List.filter_filter,
    fresh]
  congr 3
  funext u
  by_cases hut : u = t <;> simp [hut]

/-- **A batch.** Either it agrees and its fresh types are appended, or a first type of it is in
conflict and the fresh ones before that are appended. -/
theorem registerFrom_cases (r : Registry) (added : Nat) (ts : List RecordType) :
    (Agree r.types ts ∧ (registerFrom added r ts).1 = .ok (added + (fresh r.types ts).length) ∧
      (registerFrom added r ts).2.types = r.types ++ fresh r.types ts) ∨
    ∃ before t after, ts = before ++ t :: after ∧ Agree r.types before ∧
      ¬ Agree r.types (before ++ [t]) ∧ (registerFrom added r ts).1 = .error (.conflict t.name) ∧
      (registerFrom added r ts).2.types = r.types ++ fresh r.types before := by
  -- What is known grows along the batch, and only by a type of a new name, so what agrees and what
  -- is fresh can be said of the rest by what is known after its first type.
  induction ts generalizing r added with
  | nil => exact .inl ⟨agree_nil _, by simp [registerFrom, fresh], by simp [registerFrom, fresh]⟩
  | cons t ts ih =>
    rcases r.register_cases t with ⟨hn, hfresh, he⟩ | ⟨ht, he⟩ | ⟨u, hu, hne, he⟩
    · have hnew := get?_eq_none_iff.1 hn
      have hmem : t ∉ r.types := fun hm => hnew t hm rfl
      have hrest := ih (r.append t hfresh) (added + 1)
      rw [types_append] at hrest
      rw [registerFrom, he]
      dsimp only
      rcases hrest with
        ⟨ha, hok, htypes⟩ | ⟨before, v, after, rfl, ha, hna, herr, htypes⟩
      · refine .inl ⟨(agree_cons_of_new hnew).2 ha, ?_, ?_⟩
        · rw [hok, fresh_cons_of_new hmem, List.length_cons, Nat.add_right_comm, Nat.add_assoc]
        · rw [htypes, fresh_cons_of_new hmem, List.append_assoc, List.singleton_append]
      · refine .inr ⟨t :: before, v, after, rfl, (agree_cons_of_new hnew).2 ha,
          fun ha' => hna ((agree_cons_of_new hnew).1 ha'), herr, ?_⟩
        rw [htypes, fresh_cons_of_new hmem, List.append_assoc, List.singleton_append]
    · have hmem := (get?_eq_some_iff.1 ht).1
      have hsame : ∀ u ∈ r.types, u.name = t.name → u = t := fun u hu hname =>
        Option.some.inj ((get?_eq_some_iff.2 ⟨hu, hname⟩).symm.trans ht)
      rw [registerFrom, he]
      dsimp only
      rcases ih r added with ⟨ha, hok, htypes⟩ | ⟨before, v, after, rfl, ha, hna, herr, htypes⟩
      · refine .inl ⟨(agree_cons_of_mem hmem hsame).2 ha, ?_, ?_⟩
        · rw [hok, fresh_cons_of_mem hmem]
        · rw [htypes, fresh_cons_of_mem hmem]
      · refine .inr ⟨t :: before, v, after, rfl, (agree_cons_of_mem hmem hsame).2 ha,
          fun ha' => hna ((agree_cons_of_mem hmem hsame).1 ha'), herr, ?_⟩
        rw [htypes, fresh_cons_of_mem hmem]
    · have hu := get?_eq_some_iff.1 hu
      rw [registerFrom, he]
      refine .inr ⟨[], t, ts, rfl, agree_nil _, fun ha => ?_, rfl, by simp [fresh]⟩
      exact hne (ha t List.mem_cons_self u (List.mem_append_left _ hu.1) hu.2)

/-! ## Calls -/

/-- A call that registers types. -/
inductive Call
  | register (t : RecordType)
  | registerAll (ts : List RecordType)
  | collect (declarations : List Declaration)

/-- The types that a call hands over, in order; none for a root with a fault. -/
def Call.types : Call → List RecordType
  | .register t => [t]
  | .registerAll ts => ts
  | .collect ds => (recordTypes ds).toOption.getD []

/-- The registry after a call. -/
def after (r : Registry) : Call → Registry
  | .register t => (r.register t).2
  | .registerAll ts => (r.registerAll ts).2
  | .collect ds => (r.collect ds).2

/-- The registry after a list of calls. -/
def run (r : Registry) : List Call → Registry
  | [] => r
  | c :: calls => (r.after c).run calls

/-- The types that were registered without a conflict in a list of calls, in order. -/
def history (r : Registry) : List Call → List RecordType
  | [] => []
  | c :: calls => r.accepted c.types ++ (r.after c).history calls

/-- **One call** offers the registry the types it accepts. -/
theorem after_eq_offer (r : Registry) (c : Call) : r.after c = r.offer (r.accepted c.types) := by
  cases c with
  | register t =>
    show (r.register t).2 = r.offer (r.accepted [t])
    rw [accepted]
    split
    next b r' h => rw [h]; exact (congrArg Prod.snd h).symm
    next e r' h => rw [h]; exact register_error h
  | registerAll ts => exact registerFrom_snd 0 r ts
  | collect ds =>
    show (r.collect ds).2 = r.offer (r.accepted ((recordTypes ds).toOption.getD []))
    unfold collect
    cases recordTypes ds with
    | ok ts => exact registerFrom_snd 0 r ts
    | error e => rfl

theorem run_eq_offer (r : Registry) (calls : List Call) :
    r.run calls = r.offer (r.history calls) := by
  induction calls generalizing r with
  | nil => rfl
  | cons c calls ih => rw [history, offer_append, ← after_eq_offer, ← ih, run]

/-- **What a registry knows and answers.** After any calls on an empty registry:

* names are distinct, and the index has each name with the place of its type and nothing else;
* a name resolves to the first type registered under it;
* a call appends to the types, a registration or a batch exactly what was not there, a batch in
  conflict what stands before the conflict, and a root with a fault nothing. -/
theorem run_spec (calls : List Call) :
    let r := empty.run calls
    (r.types.map RecordType.name).Nodup ∧
    (∀ name i, r.places.get? name = some i ↔ ∃ t, r.types[i]? = some t ∧ t.name = name) ∧
    (∀ name, r.resolve name = match (empty.history calls).find? (·.name = name) with
      | some t => .ok t
      | none => .error (.notFound name)) ∧
    (∀ name, r.contains name = true ↔ ∃ t, r.resolve name = .ok t) ∧
    r.size = r.types.length ∧
    (∀ c, r.types <+: (r.after c).types) ∧
    (∀ t,
      if t ∈ r.types then r.register t = (.ok false, r)
      else if ∃ u ∈ r.types, u.name = t.name then r.register t = (.error (.conflict t.name), r)
      else ∃ r', r.register t = (.ok true, r') ∧ r'.types = r.types ++ [t] ∧
        r'.places = r.places.insert t.name r.types.length) ∧
    (∀ ts,
      (Agree r.types ts ∧ (r.registerAll ts).1 = .ok (fresh r.types ts).length ∧
        (r.registerAll ts).2.types = r.types ++ fresh r.types ts) ∨
      ∃ before t rest, ts = before ++ t :: rest ∧ Agree r.types before ∧
        ¬ Agree r.types (before ++ [t]) ∧ (r.registerAll ts).1 = .error (.conflict t.name) ∧
        (r.registerAll ts).2.types = r.types ++ fresh r.types before) ∧
    ∀ ds,
      (∃ ts, List.Forall₂ (fun d t => d.recordType = .ok t) ds ts ∧
        r.collect ds = r.registerAll ts) ∨
      ∃ d ∈ ds, ∃ e, d.recordType = .error e ∧ r.collect ds = (.error e, r) := by
  intro r
  have hget : ∀ name, r.get? name = (empty.history calls).find? (·.name = name) := fun name => by
    rw [show r = empty.offer (empty.history calls) from run_eq_offer empty calls,
      get?_offer]
    rfl
  refine ⟨r.nodup_names, r.places_iff, fun name => ?_, r.contains_iff, rfl, fun c => ?_,
    r.register_by_types, fun ts => ?_, fun ds => ?_⟩
  · exact congrArg (fun found : Option RecordType => match found with
      | some t => Except.ok t
      | none => Except.error (SchemaError.notFound name)) (hget name)
  · exact Extends.types ⟨_, after_eq_offer r c⟩
  · have hbatch := r.registerFrom_cases 0 ts
    rwa [Nat.zero_add] at hbatch
  · rcases mapM_cases Declaration.recordType ds with ⟨ts, hts, hall⟩ | ⟨d, hd, e, he, herr⟩
    · exact .inl ⟨ts, hall, by rw [collect, recordTypes, hts]⟩
    · exact .inr ⟨d, hd, e, he, by rw [collect, recordTypes, herr]⟩

end Registry

end TypedSeries
