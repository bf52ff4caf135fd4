import Mathlib.Data.List.Perm.Basic
import TypedSeries.Proofs.DeclarationFaults
import TypedSeries.Proofs.SchemaText

/-!
# Two views of the columns

A record type keeps its columns in the order of their declaration, its schema keeps them sorted by
name. A look-up in the one goes to the first column that fits in that order, a look-up in the other
to the first by name. Since no name is declared twice and one column at most names the measurement,
both find the same.

1. The entries of the schema are the declared columns, each once
   (`RecordType.entries_perm`), and its measurement column is the declared one
   (`RecordType.measurementColumn_eq`).
2. Columns in another order make a record type too (`WellFormed.of_perm`). Two record types have
   one schema exactly if they differ in nothing but that order (`RecordType.schema_eq_iff`).

**Main.** `RecordType.schema_agrees`.
-/

namespace TypedSeries

/-- A declaration stays well formed when its columns change places. -/
theorem WellFormed.of_perm {name : String} {fields fields' : List Field}
    (h : WellFormed name fields) (hp : fields'.Perm fields) : WellFormed name fields' where
  visible := h.visible
  unreserved f hf := h.unreserved f (hp.mem_iff.1 hf)
  distinct := (hp.map Field.name).nodup_iff.2 h.distinct
  tagsText f hf := h.tagsText f (hp.mem_iff.1 hf)
  oneMeasurement := (hp.filter _).length_eq ▸ h.oneMeasurement
  someValue := by
    obtain ⟨f, hf, hrole⟩ := h.someValue
    exact ⟨f, hp.mem_iff.2 hf, hrole⟩

namespace RecordType

variable {t t' : RecordType}

/-- What a schema says of a declared column, under its name. -/
def entryOf (f : Field) : String × Column := (f.name, ⟨f.kind, f.role⟩)

theorem kindOf_eq (t : RecordType) (name : String) :
    t.schema.kindOf name = (t.field? name).map Field.kind := by
  rw [Schema.kindOf, get?_schema, Option.map_map]
  rfl

/-- The schema has an entry for each declared column and no other. -/
theorem entries_perm (t : RecordType) : t.schema.columns.entries.Perm (t.fields.map entryOf) := by
  have hentries : t.schema.columns.entries.Nodup :=
    List.Nodup.of_map Prod.fst t.schema.columns.nodup_names
  have hfields : (t.fields.map entryOf).Nodup := by
    refine List.Nodup.of_map Prod.fst ?_
    rw [List.map_map]
    exact t.wellFormed.distinct
  refine (List.perm_ext_iff_of_nodup hentries hfields).2 fun e => ?_
  simp only [mem_columns_iff, List.mem_map, entryOf, eq_comm (a := e)]

/-- The first column by name and the first by declaration that name the measurement are one. -/
theorem measurementColumn_eq (t : RecordType) :
    t.schema.measurementColumn = t.measurementField.map Field.name := by
  cases hfield : t.measurementField with
  | some f =>
    have hrole : f.role = .measurement := by simpa using List.find?_some hfield
    exact ((measurementColumn_eq_iff (List.mem_of_find?_eq_some hfield)).2 hrole).symm
  | none =>
    have hnone : ∀ f ∈ t.fields, f.role ≠ .measurement := by
      simpa using List.find?_eq_none.1 hfield
    rw [Option.map_none, Schema.measurementColumn, Option.map_eq_none_iff, List.find?_eq_none]
    intro e he
    obtain ⟨f, hf, rfl⟩ := mem_columns_iff.1 he
    simpa using hnone f hf

/-- A schema tells everything of its type but the order of the columns. -/
theorem schema_eq_iff :
    t'.schema = t.schema ↔ t'.name = t.name ∧ t'.fields.Perm t.fields := by
  constructor
  · intro h
    have hentries : (t'.fields.map entryOf).Perm (t.fields.map entryOf) := by
      have hown := t'.entries_perm
      rw [h] at hown
      exact hown.symm.trans t.entries_perm
    have hinjective : Function.Injective entryOf := by
      rintro ⟨name, kind, role⟩ ⟨name', kind', role'⟩ he
      cases he
      rfl
    exact ⟨congrArg Schema.title h, (List.map_perm_map_iff hinjective).1 hentries⟩
  · rintro ⟨hname, hp⟩
    have hcolumns : t'.schema.columns = t.schema.columns := by
      refine NameMap.ext_get? fun name => Option.ext fun column => ?_
      simp only [NameMap.get?_eq_some_iff, mem_columns_iff, hp.mem_iff]
    exact congrArg₂ Schema.mk hname hcolumns

/-- **Both views agree.** The schema of a declared record type gives a name the kind that the
declared column of the name has, and none if there is no such column; its entries are the declared
columns, each once; and its measurement column is the declared one, if there is one. The same
columns in any other order are accepted under the same name as well, and a record type has the same
schema exactly if it is declared so. -/
theorem schema_agrees {name : String} {fields : List Field} {t : RecordType}
    (h : declare name fields = .ok t) :
    (∀ column, t.schema.kindOf column = (t.field? column).map Field.kind) ∧
    t.schema.columns.entries.Perm (fields.map fun f => (f.name, ⟨f.kind, f.role⟩)) ∧
    t.schema.measurementColumn = t.measurementField.map Field.name ∧
    (∀ fields', fields'.Perm fields → ∃ t', declare name fields' = .ok t') ∧
    ∀ fields' t', declare name fields' = .ok t' →
      (t'.schema = t.schema ↔ fields'.Perm fields) := by
  obtain ⟨rfl, rfl⟩ := declare_eq_ok_iff.1 h
  refine ⟨t.kindOf_eq, t.entries_perm, t.measurementColumn_eq, fun fields' hp => ?_,
    fun fields' t' h' => ?_⟩
  · exact ⟨_, (⟨t.name, fields', t.wellFormed.of_perm hp⟩ : RecordType).declare_self⟩
  · obtain ⟨hname, rfl⟩ := declare_eq_ok_iff.1 h'
    rw [schema_eq_iff, and_iff_right hname]

/-- Columns of a load, the measurement between others that come before it by name. -/
def loadFields : List Field :=
  [⟨"usage", .number, .field⟩, ⟨"name", .string, .measurement⟩, ⟨"host", .string, .tag⟩]

theorem schema_agrees_load : ∃ t t', declare "Load" loadFields = .ok t ∧
    declare "Load" loadFields.reverse = .ok t' ∧ t'.fields ≠ t.fields ∧ t'.schema = t.schema ∧
    t.schema.kindOf "usage" = some .number ∧ t.schema.measurementColumn = some "name" := by
  have haccepted : WellFormed "Load" loadFields := fault_eq_none_iff.1 (by decide +kernel)
  have hload : declare "Load" loadFields = .ok ⟨"Load", loadFields, haccepted⟩ :=
    declare_eq_ok_iff.2 ⟨rfl, rfl⟩
  obtain ⟨hkind, -, hmeasurement, haccepts, hsame⟩ := schema_agrees hload
  have hp : loadFields.reverse.Perm loadFields := List.reverse_perm loadFields
  obtain ⟨t', ht'⟩ := haccepts _ hp
  refine ⟨_, t', hload, ht', ?_, (hsame _ t' ht').2 hp, hkind "usage", hmeasurement⟩
  rw [(declare_eq_ok_iff.1 ht').2]
  exact (by decide : loadFields.reverse ≠ loadFields)

end RecordType

end TypedSeries
