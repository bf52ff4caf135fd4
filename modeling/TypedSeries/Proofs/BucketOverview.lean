import TypedSeries.Proofs.BucketNames
import TypedSeries.Proofs.SchemaText

/-!
# The overview of the buckets

What a caller is shown of the buckets a store lists.

1. An overview is the listed buckets, sorted by name and without the store's own, each described
   (`Store.overview_eq`). Nothing is lost, told twice or told of another bucket (`Store.Shows`).
2. A description has the columns of the type registered under the bucket's name, or else those
   that are listed, or else none (`Store.Describes`).
3. The names a store in memory lists are different from each other, so in an overview they increase
   strictly (`Store.Shows.increasing`).

**Main.** `Session.bucket_overview`: what an overview shows, and of which buckets in memory.
-/

namespace TypedSeries

namespace Store

/-- What is shown of a listed bucket: its name, with the columns of the type registered under it, or
else those it is listed with, or else none. -/
structure Describes (r : Registry) (b : RemoteBucket) (d : Description) : Prop where
  name : d.name = b.name
  registered : ∀ t ∈ r.types, t.name = b.name → ∀ column,
    d.columns.get? column = (t.field? column).map fun f => ⟨f.kind, f.role⟩
  listed : (∀ t ∈ r.types, t.name ≠ b.name) → ∀ column,
    d.columns.get? column = b.schema.bind fun schema => schema.columns.get? column

/-- A description for each listed bucket that is not one of the store's own, as often as it is
listed, in order of their names. -/
structure Shows (r : Registry) (listed : List RemoteBucket) (shown : List Description) : Prop where
  sorted : shown.Pairwise fun a b => a.name ≤ b.name
  described : ∃ order, order.Perm (listed.filter fun b => b.name.toList.head? ≠ some '_') ∧
    List.Forall₂ (Describes r) order shown

variable {r : Registry} {b : RemoteBucket} {listed : List RemoteBucket} {shown : List Description}

theorem describe_name (r : Registry) (b : RemoteBucket) : (describe r b).name = b.name := by
  unfold describe
  split <;> rfl

theorem describes_describe (r : Registry) (b : RemoteBucket) : Describes r b (describe r b) := by
  refine ⟨describe_name r b, fun t ht hname column => ?_, fun hnone column => ?_⟩
  · have hget : r.get? b.name = some t := Registry.get?_eq_some_iff.2 ⟨ht, hname⟩
    rw [describe, hget]
    exact RecordType.get?_schema column
  · have hget : r.get? b.name = none := Registry.get?_eq_none_iff.2 hnone
    rw [describe, hget]
    cases b.schema <;> rfl

/-- An overview is the listed buckets in order, without the store's own, each described. -/
theorem overview_eq (r : Registry) (listed : List RemoteBucket) : overview r listed =
    ((listed.filter fun b => b.name.toList.head? ≠ some '_').mergeSort
      fun a b => a.name ≤ b.name).map (describe r) := by
  have hfilter : (fun b => !isSystemBucket b) =
      fun b : RemoteBucket => decide (b.name.toList.head? ≠ some '_') := by
    funext b
    simp [isSystemBucket]
  rw [overview, hfilter]
  refine (List.map_mergeSort fun a _ b _ => ?_).symm
  rw [describe_name, describe_name]

theorem sorted_overview (r : Registry) (listed : List RemoteBucket) :
    (overview r listed).Pairwise fun a b => a.name ≤ b.name := by
  have htrans : ∀ a b c : Description, decide (a.name ≤ b.name) = true →
      decide (b.name ≤ c.name) = true → decide (a.name ≤ c.name) = true := by
    intro a b c hab hbc
    rw [decide_eq_true_iff] at hab hbc ⊢
    exact String.le_trans hab hbc
  have htotal : ∀ a b : Description,
      (decide (a.name ≤ b.name) || decide (b.name ≤ a.name)) = true := by
    intro a b
    rw [Bool.or_eq_true, decide_eq_true_iff, decide_eq_true_iff]
    exact String.le_total a.name b.name
  exact (List.pairwise_mergeSort htrans htotal _).imp fun h => of_decide_eq_true h

theorem shows_overview (r : Registry) (listed : List RemoteBucket) :
    Shows r listed (overview r listed) := by
  refine ⟨sorted_overview r listed, _, List.mergeSort_perm _ fun a b => a.name ≤ b.name, ?_⟩
  rw [overview_eq]
  exact List.forall₂_map_right_iff.2 (List.forall₂_same.2 fun b _ => describes_describe r b)

theorem map_name_of_describes (h : List.Forall₂ (Describes r) listed shown) :
    shown.map Description.name = listed.map RemoteBucket.name := by
  induction h with
  | nil => rfl
  | cons hd _ ih => rw [List.map_cons, List.map_cons, hd.name, ih]

/-- An overview has the names listed, but for the store's own. -/
theorem Shows.names_perm (h : Shows r listed shown) : (shown.map Description.name).Perm
    ((listed.map RemoteBucket.name).filter fun name => name.toList.head? ≠ some '_') := by
  obtain ⟨order, hperm, hdescribed⟩ := h.described
  rw [map_name_of_describes hdescribed, List.filter_map]
  exact hperm.map _

/-- Different names are shown in strictly increasing order. -/
theorem Shows.increasing (h : Shows r listed shown)
    (hlisted : (listed.map RemoteBucket.name).Nodup) :
    (shown.map Description.name).Pairwise (· < ·) := by
  have hnodup := h.names_perm.nodup_iff.2 (hlisted.filter _)
  have hsorted : (shown.map Description.name).Pairwise (· ≤ ·) := List.pairwise_map.2 h.sorted
  exact hsorted.imp₂ (fun a b hle hne => Std.lt_of_le_of_ne hle hne) hnodup

/-- Getting the buckets: the transport's listing, told with what the registry knows. -/
theorem getBuckets_eq (s : Store) : getBuckets s =
    (((Transport.list s.transport).1.map (overview s.registry)).mapError .ofTransport,
      { s with transport := (Transport.list s.transport).2 }) := by
  unfold getBuckets
  rw [bind_apply, onTransport_apply]
  obtain ⟨e | listed, t⟩ := Transport.list s.transport <;> rfl

end Store

namespace Session

variable {s : Session}

/-- Over a store in memory the transport lists the buckets, and a store shows what is listed. -/
theorem perform_getBuckets_memory {m : MemoryStore} (hm : s.transport = .memory m) {place : Nat}
    {r : Registry} (hr : s.registries[s.registryPlace place]? = some r) (now : Int64) :
    (s.perform now (.transport .list)).1 = .ok (.listing (MemoryStore.list m)) ∧
      (s.perform now (.store place .getBuckets)).1 =
        .ok (.overview (Store.overview r (MemoryStore.list m))) := by
  have hlist : Transport.list (.memory m) = (.ok (MemoryStore.list m), .memory m) := rfl
  have hstore : s.store? (s.registryPlace place) = some ⟨s.engine, s.transport, r⟩ := by
    rw [store?, hr]
    rfl
  refine ⟨congrArg Prod.fst (runTransport_memory hm hlist .listing), ?_⟩
  show (s.runStore (s.registryPlace place) Store.getBuckets .overview).1 = _
  rw [runStore, hstore]
  dsimp only
  rw [Store.getBuckets_eq, hm]
  rfl

/-- **The overview of the buckets.** After whatever calls on a registry, the overview of whatever
list of buckets shows them. Getting the buckets gives the overview of what the transport lists, and
changes nothing that listing does not. From the beginning of a store in memory, after any commands
to it, the stores on it and their handles, the names shown increase strictly, and are those of the
buckets created and not deleted since, but for the store's own. -/
theorem bucket_overview :
    (∀ (calls : List Registry.Call) (listed : List RemoteBucket),
      Store.Shows (Registry.empty.run calls) listed
        (Store.overview (Registry.empty.run calls) listed)) ∧
    (∀ s : Store, Store.getBuckets s =
      (((Transport.list s.transport).1.map (Store.overview s.registry)).mapError .ofTransport,
        { s with transport := (Transport.list s.transport).2 })) ∧
    ∀ (engine : Engine) (stores : Nat) (shares : Bool) (steps : List (Int64 × Command))
      (place : Nat) (r : Registry) (now : Int64),
      let start := Session.start engine (.memory .empty) stores shares
      let s := start.run steps
      s.registries[s.registryPlace place]? = some r →
        ∃ listed shown, (s.perform now (.transport .list)).1 = .ok (.listing listed) ∧
          (s.perform now (.store place .getBuckets)).1 = .ok (.overview shown) ∧
          Store.Shows r listed shown ∧ (shown.map Description.name).Pairwise (· < ·) ∧
          ∀ name, name ∈ shown.map Description.name ↔
            Standing (start.log steps) name ∧ name.toList.head? ≠ some '_' := by
  refine ⟨fun _ => Store.shows_overview _, Store.getBuckets_eq, ?_⟩
  intro engine stores shares steps place r now start s hr
  obtain ⟨m, hm, hnames⟩ := contains_run (s := start) rfl steps
  obtain ⟨hlisted, hshown⟩ := perform_getBuckets_memory hm hr now
  have hshows := Store.shows_overview r (MemoryStore.list m)
  refine ⟨_, _, hlisted, hshown, hshows, hshows.increasing ?_, fun name => ?_⟩
  · rw [MemoryStore.map_name_list]
    exact NameMap.nodup_names m
  · rw [hshows.names_perm.mem_iff, MemoryStore.map_name_list, List.mem_filter,
      ← NameMap.contains_iff, hnames, decide_eq_true_iff]

end Session

/-! ## A house -/

def houseSession : Session :=
  .start (.bind "host" "token" "organization") (.memory .empty) 1 false

/-- A bucket of the store's own, one of rooms, and one that is deleted again. -/
def houseSteps : List (Int64 × Command) :=
  [(1, .transport (.create "_tasks" (.untyped "chores"))),
    (2, .store 0 (.createBucket roomType.handle.declaration "rooms")),
    (3, .transport (.create "attic" (.untyped "loft"))), (4, .transport (.delete "attic"))]

theorem log_houseSteps : houseSession.log houseSteps =
    [(.transport (.create "_tasks" (.untyped "chores")), .ok .done),
      (.store 0 (.createBucket roomType.handle.declaration "rooms"), .ok (.bucket (some "room"))),
      (.transport (.create "attic" (.untyped "loft")), .ok .done),
      (.transport (.delete "attic"), .ok (.truth true))] := rfl

theorem bucket_overview_house :
    (houseSession.run houseSteps).registries[0]? = some (Registry.empty.register roomType).2 ∧
    ∃ shown, ((houseSession.run houseSteps).perform 5 (.store 0 .getBuckets)).1 =
        .ok (.overview shown) ∧
      "room" ∈ shown.map Description.name ∧ "attic" ∉ shown.map Description.name ∧
      "_tasks" ∉ shown.map Description.name := by
  have hr : (houseSession.run houseSteps).registries[0]? =
      some (Registry.empty.register roomType).2 := rfl
  obtain ⟨-, shown, -, hshown, -, -, hnames⟩ :=
    Session.bucket_overview.2.2 (.bind "host" "token" "organization") 1 false houseSteps 0 _ 5 hr
  have hlog : (Session.start (.bind "host" "token" "organization") (.memory .empty) 1 false).log
      houseSteps = _ := log_houseSteps
  rw [hlog] at hnames
  refine ⟨hr, shown, hshown, (hnames _).2 ⟨?_, by decide⟩, fun h => ?_, fun h => ?_⟩
  · refine ⟨[_], _, _, rfl, ⟨rfl, _, rfl⟩, fun e he hdeletes => ?_⟩
    rcases List.mem_pair.1 he with rfl | rfl <;> exact absurd hdeletes.1 (by decide)
  · rcases (@standing_concat [_, _, _] _ _).1 ((hnames _).1 h).1 with ⟨hcreates, -⟩ | ⟨-, hkept⟩
    · exact absurd hcreates (by decide)
    · exact hkept ⟨rfl, _, rfl⟩
  · exact ((hnames _).1 h).2 (by decide)

end TypedSeries
