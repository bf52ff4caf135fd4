import TypedSeries.Log.Event
import TypedSeries.Record.Declaration

/-!
# Registry of record types

Record types in the order they were registered, with an index from their names to their places.
Nothing is ever taken out, and a name keeps the type it was first registered with.
-/

namespace TypedSeries

/-- The registered types in order and the place of each name among them: the index has the names of
the types and no others, each with the place of its type. -/
structure Registry where
  types : List RecordType
  places : NameMap Nat
  places_iff : ∀ name i, places.get? name = some i ↔ ∃ t, types[i]? = some t ∧ t.name = name
deriving DecidableEq

namespace Registry

def empty : Registry := ⟨[], .empty, fun name i => by simp⟩

instance : Inhabited Registry := ⟨empty⟩

/-- The type registered under a name. -/
def get? (r : Registry) (name : String) : Option RecordType :=
  (r.places.get? name).bind fun i => r.types[i]?

def resolve (r : Registry) (name : String) : Except SchemaError RecordType :=
  match r.get? name with
  | some t => .ok t
  | none => .error (.notFound name)

def contains (r : Registry) (name : String) : Bool := r.places.contains name

def size (r : Registry) : Nat := r.types.length

/-! ## Registering -/

/-- A type of a new name at the end of the types has the place after them in the index. -/
theorem places_iff_append (r : Registry) {t : RecordType} (hnew : r.places.get? t.name = none)
    (name : String) (i : Nat) : (r.places.insert t.name r.types.length).get? name = some i ↔
      ∃ u, (r.types ++ [t])[i]? = some u ∧ u.name = name := by
  have hother : ∀ u ∈ r.types, u.name ≠ t.name := by
    intro u hu hname
    obtain ⟨j, hj⟩ := List.mem_iff_getElem?.1 hu
    exact nomatch hnew.symm.trans ((r.places_iff t.name j).2 ⟨u, hj, hname⟩)
  rw [NameMap.get?_insert]
  rcases Nat.lt_trichotomy i r.types.length with hi | rfl | hi
  · rw [List.getElem?_append_left hi]
    split
    next he =>
      subst he
      refine ⟨fun hi' => absurd (Option.some.inj hi') (Nat.ne_of_gt hi), ?_⟩
      rintro ⟨u, hu, hname⟩
      exact absurd hname (hother u (List.mem_of_getElem? hu))
    next => exact r.places_iff name i
  · rw [List.getElem?_concat_length]
    split
    next he => exact ⟨fun _ => ⟨t, rfl, he⟩, fun _ => rfl⟩
    next hne =>
      constructor
      · intro hi
        obtain ⟨u, hu, -⟩ := (r.places_iff name _).1 hi
        rw [List.getElem?_eq_none (Nat.le_refl _)] at hu
        cases hu
      · rintro ⟨u, hu, hname⟩
        cases hu
        exact absurd hname hne
  · rw [List.getElem?_eq_none (by rw [List.length_append]; exact hi)]
    split
    next he => simp [Nat.ne_of_lt hi]
    next => rw [r.places_iff name i, List.getElem?_eq_none (Nat.le_of_lt hi)]

/-- The registry with a type of a new name at the end. -/
def append (r : Registry) (t : RecordType) (hnew : r.places.get? t.name = none) : Registry where
  types := r.types ++ [t]
  places := r.places.insert t.name r.types.length
  places_iff := r.places_iff_append hnew

@[simp] theorem types_append (r : Registry) {t : RecordType}
    (hnew : r.places.get? t.name = none) : (r.append t hnew).types = r.types ++ [t] := rfl

/-- Register a type: true if its name is new, false if the same type is there already, and a
conflict if another type has the name. -/
def register (r : Registry) (t : RecordType) : Except SchemaError Bool × Registry :=
  match hplace : r.places.get? t.name with
  | some i =>
    if r.types[i]? = some t then (.ok false, r) else (.error (.conflict t.name), r)
  | none => (.ok true, r.append t hplace)

/-- Register several types and count the new ones, given the count so far. The first conflict
ends it; the types before it stay. -/
def registerFrom (added : Nat) : Registry → List RecordType → Except SchemaError Nat × Registry
  | r, [] => (.ok added, r)
  | r, t :: rest =>
    match r.register t with
    | (.ok true, r) => registerFrom (added + 1) r rest
    | (.ok false, r) => registerFrom added r rest
    | (.error e, r) => (.error e, r)

def registerAll (r : Registry) (ts : List RecordType) : Except SchemaError Nat × Registry :=
  registerFrom 0 r ts

/-- Register every type of a root's declarations; none if one of them has a fault. -/
def collect (r : Registry) (declarations : List Declaration) : Except SchemaError Nat × Registry :=
  match recordTypes declarations with
  | .ok ts => r.registerAll ts
  | .error e => (.error e, r)

/-- Register the type of a declaration. -/
def registerDeclared (r : Registry) (d : Declaration) : Except SchemaError Bool × Registry :=
  match d.recordType with
  | .ok t => r.register t
  | .error e => (.error e, r)

/-! ## What is logged -/

/-- What is logged of a type that is new to a registry. -/
def registered (t : RecordType) : Event :=
  ⟨.debug, "aluminum::schema::registry", "Registered record type", [("record_type", .text t.name)]⟩

/-- What has been logged when one registry has become another: each type that came is told. -/
def news (before after : Registry) : List Event :=
  (after.types.drop before.types.length).map registered

@[simp] theorem news_self (r : Registry) : r.news r = [] := by simp [news]

end Registry

end TypedSeries
