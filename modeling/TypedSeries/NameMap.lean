/-!
# Finite maps from names

Rows, schemas and bucket tables are finite maps keyed by a name. A map is the list of its
entries in strictly increasing code point order, so equal maps are equal lists and every
listing comes out sorted.

**Main.** `get?_insert` says what a map holds after an insertion, and `ext_get?` that a map is
determined by what it holds.
-/

namespace TypedSeries

universe u v

/-- A finite map from names, its entries in strictly increasing order of name. -/
structure NameMap (α : Type u) where
  entries : List (String × α)
  increasing : entries.Pairwise (fun a b => a.1 < b.1)

namespace NameMap

variable {α : Type u} {β : Type v}

theorem eq_of_entries {m n : NameMap α} (h : m.entries = n.entries) : m = n := by
  cases m; cases n; cases h; rfl

instance [DecidableEq α] : DecidableEq (NameMap α) := fun m n =>
  if h : m.entries = n.entries then isTrue (eq_of_entries h)
  else isFalse (fun e => h (e ▸ rfl))

/-- The map without entries. -/
def empty : NameMap α := ⟨[], List.Pairwise.nil⟩

instance : Inhabited (NameMap α) := ⟨empty⟩

/-! ## Look-up -/

/-- The value the first entry of that name holds. -/
def find? (name : String) : List (String × α) → Option α
  | [] => none
  | (k, a) :: rest => if k = name then some a else find? name rest

/-- The value under a name. -/
def get? (m : NameMap α) (name : String) : Option α := find? name m.entries

def contains (m : NameMap α) (name : String) : Bool := (m.get? name).isSome

/-- The names in increasing order. -/
def names (m : NameMap α) : List String := m.entries.map Prod.fst

def size (m : NameMap α) : Nat := m.entries.length

/-! ## Insertion -/

/-- Put an entry at its place in an increasing list, over an entry of the same name. -/
def place (name : String) (a : α) : List (String × α) → List (String × α)
  | [] => [(name, a)]
  | (k, b) :: rest =>
    if name < k then (name, a) :: (k, b) :: rest
    else if name = k then (name, a) :: rest
    else (k, b) :: place name a rest

theorem mem_place {name : String} {a : α} {e : String × α} :
    ∀ {l : List (String × α)}, e ∈ place name a l → e = (name, a) ∨ e ∈ l
  | [], h => by simpa [place] using h
  | (k, b) :: rest, h => by
    rw [place] at h
    split at h
    · simpa using h
    · split at h
      · rcases List.mem_cons.1 h with h | h
        · exact .inl h
        · exact .inr (List.mem_cons_of_mem _ h)
      · rcases List.mem_cons.1 h with h | h
        · exact .inr (h ▸ List.mem_cons_self)
        · exact (mem_place h).imp id (List.mem_cons_of_mem _)

theorem place_increasing {name : String} {a : α} :
    ∀ {l : List (String × α)}, l.Pairwise (fun a b => a.1 < b.1) →
      (place name a l).Pairwise (fun a b => a.1 < b.1)
  | [], _ => by simp [place]
  | (k, b) :: rest, h => by
    have hk := List.pairwise_cons.1 h
    rw [place]
    split
    next hlt =>
      refine List.pairwise_cons.2 ⟨fun e he => ?_, h⟩
      rcases List.mem_cons.1 he with rfl | he
      · exact hlt
      · exact String.lt_trans hlt (hk.1 e he)
    next hlt =>
      split
      next heq => subst heq; exact List.pairwise_cons.2 hk
      next hne =>
        refine List.pairwise_cons.2 ⟨fun e he => ?_, place_increasing hk.2⟩
        rcases mem_place he with rfl | he
        · exact Std.lt_of_le_of_ne (Std.not_lt.1 hlt) (Ne.symm hne)
        · exact hk.1 e he

/-- The map with `a` under `name`, over what stood there. -/
def insert (m : NameMap α) (name : String) (a : α) : NameMap α :=
  ⟨place name a m.entries, place_increasing m.increasing⟩

/-- The map without the entry under `name`. -/
def erase (m : NameMap α) (name : String) : NameMap α :=
  ⟨m.entries.filter (fun e => e.1 ≠ name), m.increasing.filter _⟩

/-- Entries put in one after the other: of two with one name the later stays. -/
def ofList (l : List (String × α)) : NameMap α :=
  l.foldl (fun m e => m.insert e.1 e.2) empty

/-- The entries of `l` put over those of `m`. -/
def insertAll (m : NameMap α) (l : List (String × α)) : NameMap α :=
  l.foldl (fun m e => m.insert e.1 e.2) m

/-- The map with `f` applied to each value. -/
def map (f : α → β) (m : NameMap α) : NameMap β :=
  ⟨m.entries.map (fun e => (e.1, f e.2)), by
    rw [List.pairwise_map]; exact m.increasing⟩

/-! ## What a map holds -/

@[simp] theorem get?_empty (name : String) : (empty : NameMap α).get? name = none := rfl

theorem find?_place (name key : String) (a : α) :
    ∀ l : List (String × α), find? key (place name a l)
      = if name = key then some a else find? key l
  | [] => by simp [place, find?]
  | (k, b) :: rest => by
    have ih := find?_place name key a rest
    rw [place]
    split
    · by_cases h : name = key <;> simp [find?, h]
    · split
      next heq => subst heq; by_cases h : name = key <;> simp [find?, h]
      next hne =>
        by_cases hk : k = key
        · have : name ≠ key := fun h => hne (h.trans hk.symm)
          simp [find?, hk, this]
        · simp [find?, hk, ih]

/-- An insertion changes what stands under its own name and nothing else. -/
@[simp] theorem get?_insert (m : NameMap α) (name key : String) (a : α) :
    (m.insert name a).get? key = if name = key then some a else m.get? key :=
  find?_place name key a m.entries

theorem find?_filter_ne (name key : String) :
    ∀ l : List (String × α), find? key (l.filter (fun e => e.1 ≠ name))
      = if name = key then none else find? key l
  | [] => by simp [find?]
  | (k, b) :: rest => by
    have ih := find?_filter_ne name key rest
    by_cases hk : k = name
    · subst hk
      by_cases h : k = key <;> simp_all [find?]
    · by_cases h : k = key
      · subst h
        have : ¬ name = k := fun e => hk e.symm
        simp [find?, hk, this]
      · simp_all [find?]

@[simp] theorem get?_erase (m : NameMap α) (name key : String) :
    (m.erase name).get? key = if name = key then none else m.get? key :=
  find?_filter_ne name key m.entries

theorem find?_map (f : α → β) (key : String) :
    ∀ l : List (String × α), find? key (l.map (fun e => (e.1, f e.2))) = (find? key l).map f
  | [] => rfl
  | (k, b) :: rest => by
    by_cases h : k = key <;> simp [find?, h, find?_map f key rest]

@[simp] theorem get?_map (f : α → β) (m : NameMap α) (key : String) :
    (m.map f).get? key = (m.get? key).map f :=
  find?_map f key m.entries

theorem mem_of_find? {key : String} {a : α} :
    ∀ {l : List (String × α)}, find? key l = some a → (key, a) ∈ l
  | (k, b) :: rest, h => by
    by_cases hk : k = key
    · simp [find?, hk] at h; simp [hk, h]
    · simp [find?, hk] at h; exact List.mem_cons_of_mem _ (mem_of_find? h)

theorem find?_eq_none_of_lt {key : String} :
    ∀ {l : List (String × α)}, (∀ e ∈ l, key < e.1) → find? key l = none
  | [], _ => rfl
  | (k, b) :: rest, h => by
    have hk : k ≠ key := fun e => by
      have := h (k, b) List.mem_cons_self
      exact String.lt_irrefl _ (e ▸ this)
    simp [find?, hk, find?_eq_none_of_lt (fun e he => h e (List.mem_cons_of_mem _ he))]

theorem find?_of_mem {key : String} {a : α} :
    ∀ {l : List (String × α)}, l.Pairwise (fun a b => a.1 < b.1) → (key, a) ∈ l →
      find? key l = some a
  | (k, b) :: rest, hp, h => by
    have hp := List.pairwise_cons.1 hp
    rcases List.mem_cons.1 h with h | h
    · cases h; simp [find?]
    · have : k ≠ key := fun e => String.lt_irrefl _ (e ▸ hp.1 _ h)
      simp [find?, this, find?_of_mem hp.2 h]

theorem get?_eq_some_iff {m : NameMap α} {key : String} {a : α} :
    m.get? key = some a ↔ (key, a) ∈ m.entries :=
  ⟨mem_of_find?, find?_of_mem m.increasing⟩

theorem contains_iff {m : NameMap α} {name : String} : m.contains name = true ↔ name ∈ m.names := by
  unfold contains names
  rw [Option.isSome_iff_exists, List.mem_map]
  constructor
  · rintro ⟨a, ha⟩
    exact ⟨(name, a), get?_eq_some_iff.1 ha, rfl⟩
  · rintro ⟨⟨name, a⟩, ha, rfl⟩
    exact ⟨a, get?_eq_some_iff.2 ha⟩

theorem entries_eq_of_find? :
    ∀ {l r : List (String × α)}, l.Pairwise (fun a b => a.1 < b.1) →
      r.Pairwise (fun a b => a.1 < b.1) → (∀ k, find? k l = find? k r) → l = r
  | [], [], _, _, _ => rfl
  | [], (k, b) :: rest, _, _, h => by simpa [find?] using h k
  | (k, b) :: rest, [], _, _, h => by simpa [find?] using h k
  | (k, a) :: l, (j, b) :: r, hl, hr, h => by
    have hl := List.pairwise_cons.1 hl
    have hr := List.pairwise_cons.1 hr
    have hkj : k = j := by
      rcases Std.lt_trichotomy k j with hlt | heq | hlt
      · have : find? k ((j, b) :: r) = none :=
          find?_eq_none_of_lt (fun e he => by
            rcases List.mem_cons.1 he with rfl | he
            · exact hlt
            · exact String.lt_trans hlt (hr.1 e he))
        have hk := h k
        rw [this] at hk
        simp [find?] at hk
      · exact heq
      · have : find? j ((k, a) :: l) = none :=
          find?_eq_none_of_lt (fun e he => by
            rcases List.mem_cons.1 he with rfl | he
            · exact hlt
            · exact String.lt_trans hlt (hl.1 e he))
        have hj := h j
        rw [this] at hj
        simp [find?] at hj
    subst hkj
    have hab : a = b := by simpa [find?] using h k
    subst hab
    refine congrArg _ (entries_eq_of_find? hl.2 hr.2 fun i => ?_)
    by_cases hi : k = i
    · subst hi
      rw [find?_eq_none_of_lt (fun e he => hl.1 e he), find?_eq_none_of_lt (fun e he => hr.1 e he)]
    · simpa [find?, hi] using h i

/-- A map is determined by what it holds under each name. -/
theorem ext_get? {m n : NameMap α} (h : ∀ k, m.get? k = n.get? k) : m = n :=
  eq_of_entries (entries_eq_of_find? m.increasing n.increasing h)

end NameMap

end TypedSeries
