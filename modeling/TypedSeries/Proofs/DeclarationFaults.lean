import TypedSeries.Proofs.PipelineGrammar
import TypedSeries.Proofs.StoredRow

/-!
# The first fault of a declaration

A declaration may have many faults at once, and one of them is reported.

1. The first fault along a list is the fault of an element with no faulty element before it
   (`First`). What counts as a fault may depend on the elements before.
2. A column is at fault by a reserved name, or else by the name of an earlier column, or else as a
   tag that is not text (`ColumnFault`). One step of the search finds the fault of the column it is
   at or goes on without one (`fieldFault_cons`), so the search finds the first fault in order
   (`fieldFault_eq_some_iff`).
3. The name is looked at before the columns, and how many of them are measurements or values after
   them (`Misdeclared`).

**Main.** `RecordType.declare_iff`: what is accepted is kept as it is, what is accepted are the
declarations that obey the rules, and which error the others get.
-/

namespace TypedSeries

universe u v

/-! ## First faults -/

/-- A fault at an element of a list, none of the elements before it having a fault. What is a fault
is told from the elements before, the element itself and the error. -/
def First {α : Type u} {ε : Type v} (fault : List α → α → ε → Prop) (l : List α) (e : ε) : Prop :=
  ∃ before a after, l = before ++ a :: after ∧ fault before a e ∧
    ∀ pre b post, before = pre ++ b :: post → ∀ e', ¬ fault pre b e'

section First

variable {α : Type u} {ε : Type v} {fault : List α → α → ε → Prop} {a : α} {l : List α} {e : ε}

theorem not_first_nil : ¬ First fault [] e := by
  rintro ⟨before, a, after, h, -⟩
  simp at h

/-- The first fault is that of the head, or the head has none and it is the first of the tail. -/
theorem first_cons_iff : First fault (a :: l) e ↔
    fault [] a e ∨ (∀ e', ¬ fault [] a e') ∧ First (fun before => fault (a :: before)) l e := by
  constructor
  · rintro ⟨before, b, after, hl, hfault, hbefore⟩
    cases before with
    | nil =>
      cases hl
      exact .inl hfault
    | cons c before =>
      cases hl
      refine .inr ⟨hbefore [] a before rfl, before, b, after, rfl, hfault, ?_⟩
      rintro pre b' post rfl
      exact hbefore (a :: pre) b' post rfl
  · rintro (hfault | ⟨hhead, before, b, after, rfl, hfault, hbefore⟩)
    · exact ⟨[], a, l, rfl, hfault, fun pre b post h => by simp at h⟩
    · refine ⟨a :: before, b, after, rfl, hfault, fun pre b' post h => ?_⟩
      cases pre with
      | nil =>
        cases h
        exact hhead
      | cons c pre =>
        cases h
        exact hbefore pre b' post rfl

end First

/-! ## Faults of columns -/

/-- What is wrong with a column, given the columns before it: its name is reserved, or else an
earlier column has it, or else it is a tag and not text. -/
inductive ColumnFault (record : String) (earlier : List Field) (f : Field) : SchemaError → Prop
  | reserved (h : reservedName f.name = true) :
    ColumnFault record earlier f (.reservedField record f.name)
  | duplicate (hr : reservedName f.name = false) (h : ∃ g ∈ earlier, g.name = f.name) :
    ColumnFault record earlier f (.duplicateField record f.name)
  | tagKind (hr : reservedName f.name = false) (hd : ∀ g ∈ earlier, g.name ≠ f.name)
    (ht : f.role = .tag) (hk : f.kind ≠ .string) :
    ColumnFault record earlier f (.nonStringTag record f.name f.kind)

section Columns

variable {record : String} {seen : List String} {earlier fields : List Field} {f : Field}
  {e e' : SchemaError}

theorem ColumnFault.unique (h : ColumnFault record earlier f e)
    (h' : ColumnFault record earlier f e') : e = e' := by
  cases h <;> cases h' <;> grind

/-- One step of the search: it ends with the fault of the column it is at, or there is none and it
goes on. -/
theorem fieldFault_cons (record : String) (f : Field) (rest : List Field)
    (hseen : ∀ name, name ∈ seen ↔ ∃ g ∈ earlier, g.name = name) :
    (∃ e, ColumnFault record earlier f e ∧ fieldFault record seen (f :: rest) = some e) ∨
      (∀ e, ¬ ColumnFault record earlier f e) ∧
        fieldFault record seen (f :: rest) = fieldFault record (f.name :: seen) rest := by
  rw [fieldFault]
  by_cases hr : reservedName f.name = true
  · exact .inl ⟨_, .reserved hr, if_pos hr⟩
  have hunreserved : reservedName f.name = false := by simpa using hr
  rw [if_neg hr]
  by_cases hd : f.name ∈ seen
  · exact .inl ⟨_, .duplicate hunreserved ((hseen f.name).1 hd), if_pos hd⟩
  have hnew : ∀ g ∈ earlier, g.name ≠ f.name := fun g hg hname =>
    hd ((hseen f.name).2 ⟨g, hg, hname⟩)
  rw [if_neg hd]
  by_cases ht : f.role = .tag ∧ f.kind ≠ .string
  · exact .inl ⟨_, .tagKind hunreserved hnew ht.1 ht.2, if_pos ht⟩
  refine .inr ⟨fun e h => ?_, if_neg ht⟩
  cases h with
  | reserved hr' => exact hr hr'
  | duplicate _ h =>
    obtain ⟨g, hg, hname⟩ := h
    exact hnew g hg hname
  | tagKind _ _ htag hk => exact ht ⟨htag, hk⟩

/-- The names seen after a column are those seen before it and its own. -/
theorem mem_seen_cons (hseen : ∀ name, name ∈ seen ↔ ∃ g ∈ earlier, g.name = name) (name : String) :
    name ∈ f.name :: seen ↔ ∃ g ∈ earlier ++ [f], g.name = name := by
  simp only [List.mem_cons, hseen, List.mem_append, List.not_mem_nil, or_false]
  constructor
  · rintro (rfl | ⟨g, hg, rfl⟩)
    · exact ⟨f, .inr rfl, rfl⟩
    · exact ⟨g, .inl hg, rfl⟩
  · rintro ⟨g, hg | rfl, rfl⟩
    · exact .inr ⟨g, hg, rfl⟩
    · exact .inl rfl

/-- The search from some column on finds the first fault from there on. -/
theorem fieldFault_eq_some_iff_of_seen
    (hseen : ∀ name, name ∈ seen ↔ ∃ g ∈ earlier, g.name = name) :
    fieldFault record seen fields = some e ↔
      First (fun before => ColumnFault record (earlier ++ before)) fields e := by
  induction fields generalizing seen earlier with
  | nil => simp [fieldFault, not_first_nil]
  | cons f rest ih =>
    rw [first_cons_iff, List.append_nil]
    -- the names seen are those of the columns before, and the next column has one more before it
    rcases fieldFault_cons record f rest hseen with ⟨e', hfault, hstep⟩ | ⟨hnone, hstep⟩
    · rw [hstep, Option.some.injEq]
      constructor
      · rintro rfl
        exact .inl hfault
      · rintro (h | ⟨h, -⟩)
        · exact hfault.unique h
        · exact absurd hfault (h e')
    · rw [hstep, ih (mem_seen_cons hseen)]
      simp only [hnone, not_false_eq_true, implies_true, true_and, false_or, List.append_assoc,
        List.singleton_append]

/-- The search over all columns finds the first fault. -/
theorem fieldFault_eq_some_iff :
    fieldFault record [] fields = some e ↔ First (ColumnFault record) fields e := by
  have hseen : ∀ name, name ∈ ([] : List String) ↔ ∃ g ∈ ([] : List Field), g.name = name := by
    simp
  exact fieldFault_eq_some_iff_of_seen hseen

theorem not_first_iff : (∀ e, ¬ First (ColumnFault record) fields e) ↔
    fieldFault record [] fields = none := by
  simp only [← fieldFault_eq_some_iff, Option.eq_none_iff_forall_ne_some, ne_eq]

end Columns

/-! ## Declarations -/

theorem blankName_iff {name : String} :
    blankName name = true ↔ ∀ c ∈ name.toList, isBlank c = true := by
  rw [← Grammar.trim_eq_nil_iff, blankName, decide_eq_true_iff]

/-- What is wrong with a declaration: its name is blank, or else a column has the first fault of
the columns, or else more than one of them is the measurement, or else none is a value. -/
inductive Misdeclared (name : String) (fields : List Field) : SchemaError → Prop
  | blank (hb : ∀ c ∈ name.toList, isBlank c = true) : Misdeclared name fields .emptyName
  | column (hb : ∃ c ∈ name.toList, isBlank c = false) {e : SchemaError}
    (hc : First (ColumnFault name) fields e) : Misdeclared name fields e
  | measurements (hb : ∃ c ∈ name.toList, isBlank c = false)
    (hc : ∀ e, ¬ First (ColumnFault name) fields e)
    (hm : 1 < (fields.filter (·.role = .measurement)).length) :
    Misdeclared name fields (.multipleMeasurements name)
  | values (hb : ∃ c ∈ name.toList, isBlank c = false)
    (hc : ∀ e, ¬ First (ColumnFault name) fields e)
    (hm : (fields.filter (·.role = .measurement)).length ≤ 1)
    (hv : ∀ f ∈ fields, f.role ≠ .field) : Misdeclared name fields (.noValueField name)

section Declarations

variable {name : String} {fields : List Field} {e : SchemaError}

theorem blankName_eq_false_iff :
    blankName name = false ↔ ∃ c ∈ name.toList, isBlank c = false := by
  rw [← Bool.not_eq_true, blankName_iff]
  simp

/-- A declaration whose name shows something and whose columns have no fault is judged by how many
of them are measurements and values. -/
theorem fault_of_columns (hb : blankName name = false) (hc : fieldFault name [] fields = none) :
    fault name fields =
      if 1 < (fields.filter (·.role = .measurement)).length then some (.multipleMeasurements name)
      else if fields.any (·.role = .field) then none
      else some (.noValueField name) := by
  simp only [fault, hb, hc, Bool.false_eq_true, if_false]

/-- The fault that is found is what is wrong with the declaration. -/
theorem fault_eq_some_iff : fault name fields = some e ↔ Misdeclared name fields e := by
  cases hb : blankName name with
  | true =>
    have hall := blankName_iff.1 hb
    rw [fault, if_pos hb, Option.some.injEq]
    constructor
    · rintro rfl
      exact .blank hall
    · intro h
      cases h with
      | blank => rfl
      | column hb' | measurements hb' | values hb' =>
        obtain ⟨c, hc, hshown⟩ := hb'
        rw [hall c hc] at hshown
        cases hshown
  | false =>
    have hshown := blankName_eq_false_iff.1 hb
    have hnot : ¬ ∀ c ∈ name.toList, isBlank c = true := by
      rw [← blankName_iff, hb]
      exact Bool.false_ne_true
    cases hf : fieldFault name [] fields with
    | some e' =>
      have hfirst := fieldFault_eq_some_iff.1 hf
      have hfault : fault name fields = some e' := by
        simp only [fault, hb, hf, Bool.false_eq_true, if_false]
      rw [hfault, Option.some.injEq]
      constructor
      · rintro rfl
        exact .column hshown hfirst
      · intro h
        cases h with
        | blank hb' => exact absurd hb' hnot
        | column _ hc =>
          rw [← fieldFault_eq_some_iff, hf] at hc
          exact Option.some.inj hc
        | measurements _ hc | values _ hc => exact absurd hfirst (hc e')
    | none =>
      have hnone := not_first_iff.2 hf
      rw [fault_of_columns hb hf]
      constructor
      · intro h
        split at h
        next hm =>
          cases h
          exact .measurements hshown hnone hm
        next hm =>
          split at h
          next => cases h
          next hv =>
            cases h
            exact .values hshown hnone (by omega) (by simpa using hv)
      · intro h
        cases h with
        | blank hb' => exact absurd hb' hnot
        | column _ hc => exact absurd hc (hnone e)
        | measurements _ _ hm => exact if_pos hm
        | values _ _ hm hv => rw [if_neg (by omega), if_neg (by simpa using hv)]

end Declarations

namespace RecordType

variable {name : String} {fields : List Field}

theorem declare_eq_error_iff {e : SchemaError} :
    declare name fields = .error e ↔ fault name fields = some e := by
  unfold declare
  split
  next e' he => rw [he, Except.error.injEq, Option.some.injEq]
  next hn => simp [hn]

theorem declare_eq_ok_iff {t : RecordType} :
    declare name fields = .ok t ↔ t.name = name ∧ t.fields = fields := by
  constructor
  · exact fields_of_recordType (d := ⟨name, fields⟩)
  · rintro ⟨rfl, rfl⟩
    exact t.declare_self

/-- **Declarations.** A declaration is accepted as it stands; those that are accepted have a name
that shows something, columns of distinct names that do not begin with a low line, tags of text,
one measurement at most and some value; the others get the error of the first thing that is wrong
with them. -/
theorem declare_iff (name : String) (fields : List Field) :
    (∀ t : RecordType, declare name fields = .ok t ↔ t.name = name ∧ t.fields = fields) ∧
    ((∃ t, declare name fields = .ok t) ↔
      (∃ c ∈ name.toList, isBlank c = false) ∧
      (∀ f ∈ fields, f.name.toList.head? ≠ some '_') ∧
      (fields.map Field.name).Nodup ∧
      (∀ f ∈ fields, f.role = .tag → f.kind = .string) ∧
      (fields.filter (·.role = .measurement)).length ≤ 1 ∧
      ∃ f ∈ fields, f.role = .field) ∧
    ∀ e, declare name fields = .error e ↔ Misdeclared name fields e := by
  have hreserved : ∀ f : Field, reservedName f.name = false ↔ f.name.toList.head? ≠ some '_' :=
    fun f => by rw [reservedName, decide_eq_false_iff_not]
  refine ⟨fun t => declare_eq_ok_iff, ?_, fun e => declare_eq_error_iff.trans fault_eq_some_iff⟩
  constructor
  · rintro ⟨t, ht⟩
    obtain ⟨rfl, rfl⟩ := declare_eq_ok_iff.1 ht
    have w := t.wellFormed
    exact ⟨blankName_eq_false_iff.1 w.visible, fun f hf => (hreserved f).1 (w.unreserved f hf),
      w.distinct, w.tagsText, w.oneMeasurement, w.someValue⟩
  · rintro ⟨hshown, hr, hd, ht, hm, hv⟩
    exact ⟨⟨name, fields, blankName_eq_false_iff.2 hshown, fun f hf => (hreserved f).2 (hr f hf),
      hd, ht, hm, hv⟩, declare_eq_ok_iff.2 ⟨rfl, rfl⟩⟩

/-- Of the faults of one column the reserved name comes first, and a column before it that has one
comes before that. -/
example : (fault "room" [⟨"_a", .number, .tag⟩, ⟨"_a", .number, .tag⟩],
    fault "room" [⟨"a", .string, .tag⟩, ⟨"a", .number, .tag⟩, ⟨"_b", .number, .field⟩]) =
      (some (.reservedField "room" "_a"), some (.duplicateField "room" "a")) := by
  decide +kernel

end RecordType

end TypedSeries
